import Remedy.Shell.Builtin

/-!
# Running shell commands

A command runs in a number of steps at most; when there are none left, the run is overdue. What runs
in a subshell leaves its streams and files changed and nothing else.
-/

namespace Remedy.Shell

open Remedy.Text Act

namespace Run

/-! ## Surroundings -/

def isolated (body : Act Unit) : Act Unit := do
  let outer ← get
  set { outer with
    isMain := false
    mainTraps := if outer.isMain then outer.traps else outer.mainTraps
    traps := outer.traps.filter (·.2.isEmpty) }
  let stop ← attempt body
  modify fun inner => { outer with
    streams := inner.streams
    files := inner.files
    pending := inner.pending
    status := inner.status }
  match stop with
  | some (.killed n) => throw (.killed n)
  | some .overdue => throw .overdue
  | _ => return ()

/-- Runs an action and then what the shell is to do at its end. The status is the one before that,
unless it tells another one. -/
def ending (trap : Bytes → Act Unit) (body : Act Unit) : Act Unit := do
  match ← attempt body with
  | some (.killed n) => throw (.killed n)
  | some .overdue => throw .overdue
  | _ =>
    let s ← get
    match s.traps.lookup 0 with
    | none | some [] => return ()
    | some action =>
      set { s with traps := s.traps.filter (·.1 ≠ 0), before := some s.status }
      match ← attempt (trap action) with
      | some (.killed n) => throw (.killed n)
      | some .overdue => throw .overdue
      | some .exit | some .failed => return ()
      | _ => setStatus s.status

/-- Leaves the shell after a failure, if it is to do so. -/
def checkStatus (tested : Bool) : Act Unit := do
  if !tested && (← get).status ≠ 0 && (← hasOption 'e') then throw .exit

/-- Output without the line ends at its end; NUL bytes are left out. -/
def trimmed (output : Bytes) : Bytes :=
  ((output.filter (· ≠ '\x00')).reverse.dropWhile (· = '\n')).reverse

inductive Round where
  | through | again | left
deriving DecidableEq

def round (body : Act Unit) : Act Round := do
  let loops := (← get).loops
  let stop ← attempt body
  modify fun s => { s with loops }
  match stop with
  | none => return .through
  | some (.breakLoop n) => if n ≤ 1 then return .left else throw (.breakLoop (n - 1))
  | some (.continueLoop n) => if n ≤ 1 then return .again else throw (.continueLoop (n - 1))
  | some stop => throw stop

def inLoop (body : Act Unit) : Act Unit := do
  modify fun s => { s with loops := s.loops + 1 }
  body
  modify fun s => { s with loops := s.loops - 1 }

/-! ## Redirections -/

/-- Opens a file for writing; at its end, or emptied. -/
def openToWrite (path : Bytes) (kind : RedirKind) : Act (Option Stream) := do
  let s ← get
  let refuse := fun (reason : String) => do
    complain (text "cannot create " ++ path ++ text (": " ++ reason))
    return none
  match if path.isEmpty then none else s.files.resolve? s.current (decodeBytes path) with
  | none => refuse "Directory nonexistent"
  | some place =>
    if s.files.isDirectory place then refuse "Is a directory"
    else if !(place.getLast?.all FileTree.isName) then refuse "File name too long"
    else
      let old := s.files.file? place
      if kind = .write && old.isSome && (← hasOption 'C') then
        return ← refuse "File exists"
      let content := if kind = .write || kind = .overwrite then [] else old.getD []
      set { s with files := s.files.put place content }
      return some (.file place 0 (kind = .readWrite) true (kind = .append))

def openToRead (path : Bytes) : Act (Option Stream) := do
  let s ← get
  let place := if path.isEmpty then none else s.files.resolve? s.current (decodeBytes path)
  match place with
  | some place =>
    if (s.files.file? place).isSome then return some (.file place 0 true false false)
    else if s.files.isDirectory place then return some .null
    else missing
  | none => missing
where
  /-- There is no such file. -/
  missing : Act (Option Stream) := do
    complain (text "cannot open " ++ path ++ text ": No such file")
    return none

/-- The number of a stream that a path stands for. -/
def standing? (path : Bytes) : Act (Option (Option Nat)) := do
  let fds := (← get).fds
  let number := fun (fd : Nat) => return some (fds.lookup fd)
  match decodeBytes path with
  | "/dev/stdin" | "/dev/fd/0" => number 0
  | "/dev/stdout" | "/dev/fd/1" => number 1
  | "/dev/stderr" | "/dev/fd/2" => number 2
  | _ => return none

def redirect (output : Command → Act Bytes) : Redir → Act Bool
  | .mk fd (.here id) _ => do
    let w := ((← get).documents.lookup id).getD []
    let body ← Expansion.document output w
    setFd fd (some (← addStream (.source body)))
    return true
  | .mk fd .copy target => do
    let t ← Expansion.one output target
    if t = ['-'] then
      setFd fd none
      return true
    else if t.isEmpty || !t.all (·.isDigit) then fail (text "Syntax error: Bad fd number")
    else
      let n := t.foldl (fun n c => n * 10 + (c.toNat - 48)) 0
      match (← get).fds.lookup n with
      | some id =>
        setFd fd (some id)
        return true
      | none =>
        complain (t ++ text ": Bad file descriptor")
        return false
  | .mk fd kind target => do
    let path ← Expansion.one output target
    let stream ←
      if path = text "/dev/null" then pure (some Stream.null)
      else
        match ← standing? path with
        | some id =>
          setFd fd id
          return true
        | none => if kind = .read then openToRead path else openToWrite path kind
    match stream with
    | some stream =>
      setFd fd (some (← addStream stream))
      return true
    | none => return false

/-- Makes redirections up to the first that does not work. -/
def redirectAll (output : Command → Act Bytes) : List Redir → Act Bool
  | [] => return true
  | r :: rs => do if ← redirect output r then redirectAll output rs else return false

/-- Runs an action with redirections made for it alone. If one does not work, the status is two, and
`otherwise` runs in its stead. -/
def redirected (output : Command → Act Bytes) (redirs : List Redir) (otherwise body : Act Unit) :
    Act Unit := do
  let fds := (← get).fds
  let stop ← attempt do
    if ← redirectAll output redirs then body
    else
      setStatus 2
      otherwise
  modify fun s => { s with fds }
  match stop with
  | some stop => throw stop
  | none => return ()

/-! ## Variables for one command -/

def assigned (output : Command → Act Bytes) (assigns : List (Bytes × Word)) :
    Act (List (Bytes × Bytes)) :=
  assigns.mapM fun (name, w) => do return (name, ← Expansion.one output w)

/-- Runs an action with variables set and exported for it alone. -/
def withVars (values : List (Bytes × Bytes)) (body : Act Unit) : Act Unit := do
  let old := (← get).vars
  values.forM fun (name, value) => assignExported name value
  let stop ← attempt body
  modify fun s => { s with
    vars := values.foldl (fun vars (name, _) =>
      match old.lookup name with
      | some v => putVar name v vars
      | none => vars.filter (·.1 ≠ name)) s.vars }
  match stop with
  | some stop => throw stop
  | none => return ()

def underName (name : Bytes) (body : Act Unit) : Act Unit := do
  let running := (← get).running
  modify fun s => { s with running := some name }
  let stop ← attempt body
  modify fun s => { s with running }
  match stop with
  | some stop => throw stop
  | none => return ()

/-- Runs an action that an error does not leave. -/
def surviving (body : Act Unit) : Act Unit := do
  match ← attempt body with
  | some .failed | none => return ()
  | some stop => throw stop

/-- Tells on a stream what is about to run, if that is asked for. -/
def trace (stream : Option Nat) (words : List Bytes) : Act Unit := do
  match ← hasOption 'x', stream with
  | true, some id =>
    let front := (← value? (text "PS4")).getD (text "+ ")
    let _ ← writeTo id (front ++ joinWith [' '] words ++ ['\n'])
  | _, _ => return ()

/-- How often functions may call one another. -/
def deepest : Nat := 1000

inductive Meaning where
  | special (name : String)
  | function (body : Command)
  | ordinary (name : String)
  | program

/-- What a command name means; functions do not count where they are left out. -/
def meaning (functionsToo : Bool) (name : Bytes) : Act Meaning := do
  let n := decodeBytes name
  if Builtin.special.contains n then return .special n
  let functions := (← get).functions
  match if functionsToo then functions.lookup name else none with
  | some body => return .function body
  | none => return if Builtin.ordinary.contains n then .ordinary n else .program

/-! ## The call of a shell -/

inductive Job where
  /-- To run a text. -/
  | text (program : Bytes)
  /-- To run a file. -/
  | file (path : Bytes)
  /-- To run what it reads. -/
  | input

/-- Reads the arguments of a shell: options, and a text or a file with its own arguments. -/
def job : (fuel : Nat) → (asText : Bool) → List Bytes → Act Job
  | 0, _, _ => return .input
  | fuel + 1, asText, args => do
    let rest := fun (args : List Bytes) => do
      if asText then
        match args with
        | [] => fail (text "-c requires an argument")
        | program :: args =>
          match args with
          | name :: args => modify fun s => { s with name, args }
          | [] => pure ()
          return Job.text program
      else
        match args with
        | path :: args =>
          if (← hasOption 's') then
            modify fun s => { s with args := path :: args }
            return .input
          else
            modify fun s => { s with args }
            return .file path
        | [] => return .input
    match args with
    | ['-', '-'] :: args => rest args
    | ['-'] :: args => rest args
    | (sign :: letters) :: more =>
      if sign ≠ '-' && sign ≠ '+' then rest args
      else
        let known := letters.filter fun c => c ≠ 'c'
        match ← Builtin.switches 2 (if known.isEmpty then [] else [sign :: known]) with
        | _ => job fuel (asText || letters.contains 'c') more
    | args => rest args

mutual

/-- Runs a command. Where it is tested, its failure does not leave the shell. -/
def run (tested : Bool) : Nat → Command → Act Unit
  | 0, _ => throw .overdue
  | fuel + 1, c => do
    match c with
    | .nothing => return ()
    | .simple line assigns words redirs =>
      modify fun s => { s with line, outputStatus := 0 }
      simple tested fuel assigns words redirs
      traps fuel
      checkStatus tested
    | .redirected line redirs body =>
      modify fun s => { s with line }
      redirected (capture fuel) redirs (return ()) (run tested fuel body)
    | .negated body =>
      run true fuel body
      modify fun s => { s with status := if s.status = 0 then 1 else 0 }
    | .pipe first second =>
      let id ← addStream (.sink [])
      isolated do
        setFd 1 (some id)
        ending (runText false fuel) (run tested fuel first)
      let output := collected (((← get).streams[id]?).getD .null)
      setStream id (.source output)
      isolated do
        setFd 0 (some id)
        ending (runText false fuel) (run tested fuel second)
      traps fuel
      checkStatus tested
    | .both first second =>
      run true fuel first
      if (← get).status = 0 then run tested fuel second
    | .either first second =>
      run true fuel first
      if (← get).status ≠ 0 then run tested fuel second
    | .inOrder first second =>
      run tested fuel first
      run tested fuel second
    | .background body =>
      let id ← addStream .null
      isolated do
        setFd 0 (some id)
        ending (runText false fuel) (run false fuel body)
      modify fun s => { s with
        jobs := (Expansion.processId + 1 + s.jobs.length, s.status % 256) :: s.jobs
        status := 0 }
    | .subshell body =>
      isolated (ending (runText false fuel) (run tested fuel body))
      traps fuel
      checkStatus tested
    | .branch test yes no =>
      run true fuel test
      if (← get).status = 0 then run tested fuel yes
      else
        match no with
        | .nothing => setStatus 0
        | no => run tested fuel no
    | .loop untilTrue test body => inLoop (goRound tested fuel untilTrue test body 0)
    | .each line name words body =>
      modify fun s => { s with line }
      let args := (← get).args
      let values ← match words with
        | some words => Expansion.allFields (capture fuel) words
        | none => pure args
      setStatus 0
      inLoop (goThrough tested fuel name values body)
    | .choose line subject arms =>
      modify fun s => { s with line }
      let value ← Expansion.one (capture fuel) subject
      match ← arm? fuel value arms with
      | none => setStatus 0
      | some .nothing => setStatus 0
      | some body => run tested fuel body
    | .function name body =>
      modify fun s => { s with functions := (name, body) :: s.functions.filter (·.1 ≠ name) }
      setStatus 0
termination_by structural n => n

/-- The body of the first arm that matches a value. -/
def arm? : Nat → Bytes → List (List Word × Command) → Act (Option Command)
  | 0, _, _ => throw .overdue
  | _ + 1, _, [] => return none
  | fuel + 1, value, (patterns, body) :: arms => do
    let found ← patterns.anyM fun w => do
      return Glob.fits (← Expansion.pattern (capture fuel) w) value
    if found then return some body else arm? fuel value arms
termination_by structural n => n

/-- Goes through a loop; its status is that of the last round. -/
def goRound (tested : Bool) : Nat → (untilTrue : Bool) → (test body : Command) → (status : Nat) →
    Act Unit
  | 0, _, _, _, _ => throw .overdue
  | fuel + 1, untilTrue, test, body, status => do
    match ← round (run true fuel test) with
    | .left => setStatus status
    | .again => goRound tested fuel untilTrue test body status
    | .through =>
      if ((← get).status = 0) = untilTrue then setStatus status
      else
        match ← round (run tested fuel body) with
        | .left => return ()
        | _ => goRound tested fuel untilTrue test body (← get).status
termination_by structural n => n

/-- Runs a command for each value of a variable. -/
def goThrough (tested : Bool) : Nat → (name : Bytes) → (values : List Bytes) → (body : Command) →
    Act Unit
  | 0, _, _, _ => throw .overdue
  | _ + 1, _, [], _ => return ()
  | fuel + 1, name, value :: values, body => do
    assign name value
    match ← round (run tested fuel body) with
    | .left => return ()
    | _ => goThrough tested fuel name values body
termination_by structural n => n

def traps : Nat → Act Unit
  | 0 => throw .overdue
  | fuel + 1 => do
    let s ← get
    match s.isMain, s.pending with
    | true, n :: pending =>
      set { s with pending, before := some s.status }
      runText false fuel ((s.traps.lookup n).getD [])
      modify fun t => { t with before := s.before, status := s.status }
      traps fuel
    | _, _ => return ()
termination_by structural n => n

def capture : Nat → Command → Act Bytes
  | 0, _ => throw .overdue
  | fuel + 1, c => do
    let id ← addStream (.sink [])
    let status := (← get).status
    isolated do
      setFd 1 (some id)
      ending (runText false fuel) (run false fuel c)
    let output := collected (((← get).streams[id]?).getD .null)
    setStream id .null
    modify fun s => { s with outputStatus := s.status, status }
    return trimmed output
termination_by structural n => n

/-- Runs a text: reads one complete command after the other and runs it. -/
def runText (tested : Bool) : Nat → Bytes → Act Unit
  | 0, _ => throw .overdue
  | fuel + 1, program => do
    runScan tested fuel { rest := program, nextId := (← get).documents.length }
termination_by structural n => n

def runScan (tested : Bool) : Nat → Scan → Act Unit
  | 0, _ => throw .overdue
  | fuel + 1, scan => do
    match (completeCommand (readingSteps scan.rest)).run.run scan with
    | (.error fault, _) =>
      modify fun s => { s with line := fault.line }
      fail (text fault.message)
    | (.ok none, _) => return ()
    | (.ok (some c), scan) =>
      modify fun s => { s with documents := scan.documents ++ s.documents }
      if !(← hasOption 'n') then run tested fuel c
      runScan tested fuel { scan with documents := [] }
termination_by structural n => n

def simple (tested : Bool) : Nat → (assigns : List (Bytes × Word)) → (words : List Word) →
    List Redir → Act Unit
  | 0, _, _, _ => throw .overdue
  | fuel + 1, assigns, words, redirs => do
    let output := capture fuel
    let errors := (← get).fds.lookup 2
    let tell := fun (values : List (Bytes × Bytes)) (args : List Bytes) =>
      trace errors (values.map (fun (name, value) => name ++ '=' :: value) ++ args)
    match ← Expansion.allFields output words with
    | [] =>
      redirected output redirs (return ()) do
        let values ← assigned output assigns
        values.forM fun (name, value) => assign name value
        if !values.isEmpty then tell values []
        setStatus (← get).outputStatus
    | name :: args =>
      let kind ← meaning true name
      let body := do
        let values ← assigned output assigns
        match kind with
        | .special n =>
          values.forM fun (name, value) => assign name value
          tell values (name :: args)
          builtin tested fuel n args
        | _ =>
          withVars values do
            tell values (name :: args)
            invoke tested fuel kind name args
      if name = text "exec" && args.isEmpty then
        if ← redirectAll output redirs then body
        else
          setStatus 2
          throw .failed
      else
        redirected output redirs
          (match kind with
            | .special _ => throw .failed
            | _ => return ())
          body
termination_by structural n => n

def invoke (tested : Bool) : Nat → Meaning → (name : Bytes) → (args : List Bytes) → Act Unit
  | 0, _, _, _ => throw .overdue
  | fuel + 1, kind, name, args => do
    match kind with
    | .special n | .ordinary n => surviving (builtin tested fuel n args)
    | .function body => call tested fuel body args
    | .program => program fuel name args
termination_by structural n => n

def call (tested : Bool) : Nat → Command → (args : List Bytes) → Act Unit
  | 0, _, _ => throw .overdue
  | fuel + 1, body, args => do
    let s ← get
    if deepest ≤ s.calls then
      fail (text ("Maximum function recursion depth (" ++ toString deepest ++ ") reached"))
    set { s with args, calls := s.calls + 1, loops := 0, locals := [] :: s.locals }
    let stop ← attempt (run tested fuel body)
    modify fun t => { t with
      args := s.args
      calls := s.calls
      loops := s.loops
      locals := s.locals
      vars := (t.locals.headD []).foldl (fun vars (name, old) =>
        match old with
        | some v => putVar name v vars
        | none => vars.filter (·.1 ≠ name)) t.vars }
    match stop with
    | none | some .fromFunction => return ()
    | some stop => throw stop
termination_by structural n => n

def builtin (tested : Bool) : Nat → (name : String) → (args : List Bytes) → Act Unit
  | 0, _, _ => throw .overdue
  | fuel + 1, name, args => do
    match name, args with
    | "command", args =>
      let (opts, args) ← underName (text name) (return ()) *> Builtin.optionsOf "pvV" args
      match opts.find? (·.1 ≠ 'p'), args with
      | some (c, _), args => setStatus (← Builtin.whereabouts (c = 'V') args)
      | none, name :: args => do invoke tested fuel (← meaning false name) name args
      | none, [] => setStatus 0
    | "exec", [] => setStatus (← get).outputStatus
    | "exec", name :: args =>
      underName (text "exec") (program fuel name args)
      throw .exit
    | name, args =>
      underName (text name) do
        match name, args with
        | "eval", args =>
          setStatus 0
          runText tested fuel (joinWith [' '] args)
        | ".", [] => setStatus 0
        | ".", path :: _ =>
          let content? ← if path.contains '/' then readFile? path else pure none
          match content? with
          | some content =>
            setStatus 0
            match ← attempt (runText false fuel content) with
            | none | some .fromFunction => return ()
            | some stop => throw stop
          | none =>
            if path.contains '/' then fail (text "cannot open " ++ path ++ text ": No such file")
            else fail (path ++ text ": not found")
        | name, args =>
          match Builtin.named? name with
          | some action => setStatus (← action args)
          | none => setStatus 0
termination_by structural n => n

/-- Starts a program: another shell, as there is no other one. -/
def program : Nat → (name : Bytes) → (args : List Bytes) → Act Unit
  | 0, _, _ => throw .overdue
  | fuel + 1, name, args => do
    if Builtin.isShell name then child fuel name args
    else if name.contains '/' && (← isThere name) then
      complain (name ++ text ": Permission denied")
      setStatus 126
    else
      complain (name ++ text ": not found")
      setStatus 127
termination_by structural n => n

/-- Starts another shell, which gets the exported variables. -/
def child : Nat → (name : Bytes) → (args : List Bytes) → Act Unit
  | 0, _, _ => throw .overdue
  | fuel + 1, name, args => do
    let outer ← get
    set { name
          streams := outer.streams
          fds := outer.fds
          files := outer.files
          current := outer.current
          limits := outer.limits
          traps := outer.traps.filter (·.2.isEmpty)
          vars := outer.vars.filter (·.2.exported) : State }
    let stop ← attempt (shell fuel args)
    modify fun inner => { outer with
      streams := inner.streams
      files := inner.files
      status := inner.status % 256 }
    match stop with
    | some (.killed n) =>
      setStatus (128 + n)
      let report := Signal.report n
      if !report.isEmpty then
        let _ ← write 2 (text (report ++ "\n"))
    | some .overdue => throw .overdue
    | _ => return ()
termination_by structural n => n

def shell : Nat → (args : List Bytes) → Act Unit
  | 0, _ => throw .overdue
  | fuel + 1, args => do
    modify fun s => { s with line := 0 }
    let program ← match ← job (args.length + 1) false args with
      | .text program => pure program
      | .file path =>
        match ← readFile? path with
        | none => fail (text "cannot open " ++ path ++ text ": No such file")
        | some content =>
          modify fun s => { s with name := path }
          pure content
      | .input => do
        let content := (← unread 0).getD []
        skip 0 content.length
        pure content
    modify fun s => { s with line := 1 }
    ending (runText false fuel) (runText false fuel program)
termination_by structural n => n

end

end Run

end Remedy.Shell
