import Remedy.Shell.Condition
import Remedy.Shell.Expansion
import Remedy.Shell.Printf
import Remedy.Shell.Signal

/-!
# Builtins

The commands that a shell knows itself and that run no other command. Each gives its exit status; an
error leaves it by `Act.fail`.
-/

namespace Remedy.Shell

open Remedy.Text Act

abbrev Builtin := List Bytes → Act Nat

namespace Builtin

/-- Names of builtins an error of which ends the shell. -/
def special : List String :=
  [".", ":", "break", "continue", "eval", "exec", "exit", "export", "local", "readonly", "return",
    "set", "shift", "times", "trap", "unset"]

/-- Names of the other builtins. -/
def ordinary : List String :=
  ["[", "alias", "bg", "cd", "chdir", "command", "echo", "false", "fg", "getopts", "hash", "jobs",
    "kill", "printf", "pwd", "read", "test", "true", "type", "ulimit", "umask", "unalias", "wait"]

def say (bytes : Bytes) : Act Nat := do
  if bytes.isEmpty || (← write 1 bytes) then return 0
  complain (((← get).running.getD []) ++ text ": I/O error")
  return 1

def sayLine (bytes : Bytes) : Act Nat := say (bytes ++ ['\n'])

/-- A text between single quotes, single quotes of its own between double ones. -/
def quoted : (fuel : Nat) → Bytes → Bytes
  | 0, _ => []
  | fuel + 1, s =>
    let part := s.takeWhile (· ≠ '\'')
    let rest := s.drop part.length
    let marks := rest.takeWhile (· = '\'')
    let after := rest.drop marks.length
    let front := '\'' :: part ++ ['\'']
    if marks.isEmpty then front
    else
      front ++ '"' :: marks ++ ['"'] ++ if after.isEmpty then [] else quoted fuel after

/-- A text as the shell would read it. -/
def quote (s : Bytes) : Bytes := quoted (s.length + 1) s

/-- A number that is not negative. -/
def number (s : Bytes) : Act Nat := do
  match Condition.number s with
  | .ok n =>
    if 0 ≤ n && n < 0x80000000 then return n.toNat else fail (text "Illegal number: " ++ s)
  | .error message => fail message

/-! ## Options -/

/-- The options at the front of some arguments with their arguments; a letter before a colon takes
one. -/
def options (letters : Bytes) : (fuel : Nat) → List Bytes →
    Act (List (Char × Bytes) × List Bytes)
  | 0, args => return ([], args)
  | fuel + 1, args =>
    match args with
    | ['-', '-'] :: args => return ([], args)
    | ('-' :: c :: more) :: args => do
      match letters.dropWhile (· ≠ c) with
      | [] => fail (text "Illegal option -" ++ [c])
      | _ :: ':' :: _ =>
        match more, args with
        | [], [] => fail (text "No arg for -" ++ c :: text " option")
        | [], a :: args =>
          let (found, rest) ← options letters fuel args
          return ((c, a) :: found, rest)
        | more, args =>
          let (found, rest) ← options letters fuel args
          return ((c, more) :: found, rest)
      | _ =>
        let (found, rest) ← options letters fuel (if more.isEmpty then args else ('-' :: more) :: args)
        return ((c, []) :: found, rest)
    | args => return ([], args)

/-- The options at the front of some arguments, and the rest. -/
def optionsOf (letters : String) (args : List Bytes) : Act (List (Char × Bytes) × List Bytes) :=
  options letters.toList (args.foldr (fun a n => a.length + 1 + n) 1) args

/-! ## Output -/

def printf : Builtin := fun args => do
  match (← optionsOf "" args).2 with
  | [] => fail (text "usage: printf format [arg ...]")
  | format :: args =>
    let (done, fault) := Printf.format format args
    done.warnings.forM complain
    let status ← say done.output
    match fault with
    | some message => fail message
    | none => return if done.warnings.isEmpty then status else 1

/-! ## Variables -/

/-- A name and perhaps a value behind an equals sign. -/
def splitAssignment (a : Bytes) : Bytes × Option Bytes :=
  let name := a.takeWhile (· ≠ '=')
  (name, if a.length = name.length then none else some (a.drop (name.length + 1)))

/-- The variables of some kind, one on a line, sorted by name. -/
def listVars (front : Bytes) (keep : Variable → Bool) : Act Nat := do
  let vars := ((← get).vars.filter fun v => keep v.2).mergeSort fun v w =>
    String.ofList v.1 ≤ String.ofList w.1
  say (vars.flatMap fun (name, v) =>
    front ++ name ++ (match v.value with
      | some value => '=' :: quote value
      | none => []) ++ ['\n'])

/-- Marks variables, and sets those that come with a value. -/
def mark (word : String) (keep : Variable → Bool) (change : Variable → Variable) : Builtin :=
  fun args => do
    let (opts, names) ← optionsOf "p" args
    if names.isEmpty || !opts.isEmpty then listVars (text (word ++ " ")) keep
    else
      names.forM fun a => do
        let (name, value) := splitAssignment a
        if !isName name then fail (name ++ text ": bad variable name")
        match value with
        | some value => assign name value
        | none => pure ()
        let v := (← var? name).getD { value := none }
        modify fun s => { s with vars := putVar name (change v) s.vars }
      return 0

/-- Makes variables unset, or functions unknown. -/
def unset : Builtin := fun args => do
  let (opts, names) ← optionsOf "vf" args
  names.forM fun name => do
    if opts.any (·.1 = 'f') then
      modify fun s => { s with functions := s.functions.filter (·.1 ≠ name) }
    else
      if !isName name then fail (name ++ text ": bad variable name")
      if ((← var? name).map (·.fixed)).getD false then fail (name ++ text ": is read only")
      modify fun s => { s with vars := s.vars.filter (·.1 ≠ name) }
  return 0

def localVars : Builtin := fun args => do
  if (← get).locals.isEmpty then fail (text "not in a function")
  else
    args.forM fun a => do
      let (name, value) := splitAssignment a
      let old ← var? name
      modify fun s => { s with
        locals := match s.locals with
          | frame :: frames =>
            if frame.any (·.1 = name) then s.locals else ((name, old) :: frame) :: frames
          | [] => [] }
      match value with
      | some value => assign name value
      | none => pure ()
    return 0

/-- The names of the options of a shell with their letters. -/
def optionNames : List (String × Char) :=
  [("errexit", 'e'), ("noglob", 'f'), ("ignoreeof", 'I'), ("interactive", 'i'), ("monitor", 'm'),
    ("noexec", 'n'), ("stdin", 's'), ("xtrace", 'x'), ("verbose", 'v'), ("vi", 'V'),
    ("emacs", 'E'), ("noclobber", 'C'), ("allexport", 'a'), ("notify", 'b'), ("nounset", 'u'),
    ("privileged", 'p')]

/-- The names of options that have no letter and no effect. -/
def idleOptions : List String := ["nolog", "debug"]

def listOptions (asCommands : Bool) : Act Nat := do
  let on := (← get).options
  let line := fun ((name, isOn) : String × Bool) =>
    if asCommands then text ("set " ++ (if isOn then "-o " else "+o ") ++ name ++ "\n")
    else
      text (name ++ String.ofList (List.replicate (16 - name.length) ' ') ++
        (if isOn then "on\n" else "off\n"))
  let states := optionNames.map (fun (name, c) => (name, on.contains c)) ++
    idleOptions.map fun name => (name, false)
  say ((if asCommands then [] else text "Current option settings\n") ++ states.flatMap line)

def switch (on : Bool) (c : Char) : Act Unit :=
  modify fun s => { s with
    options := if on then s.options.filter (· ≠ c) ++ [c] else s.options.filter (· ≠ c) }

/-- Turns options on and off; gives the arguments behind them, if there are any or if they were
announced. -/
def switches : (fuel : Nat) → List Bytes → Act (Option (List Bytes))
  | 0, _ => return none
  | fuel + 1, args => do
    match args with
    | ['-', '-'] :: args => return some args
    | ['-'] :: args =>
      switch false 'x'
      switch false 'v'
      return if args.isEmpty then none else some args
    | (sign :: letters) :: rest =>
      if sign ≠ '-' && sign ≠ '+' then return some args
      let mut rest := rest
      for c in letters do
        if c = 'o' then
          match rest with
          | [] =>
            let _ ← listOptions (sign = '+')
          | name :: after =>
            match optionNames.lookup (String.ofList name) with
            | some c => switch (sign = '-') c
            | none =>
              if !idleOptions.contains (String.ofList name) then
                fail (text "Illegal option -o " ++ name)
            rest := after
        else if optionNames.any (·.2 = c) then switch (sign = '-') c
        else fail (text "Illegal option " ++ [sign, c])
      switches fuel rest
    | [] => return none
    | args => return some args

/-- Sets options and arguments; lists the variables if there is nothing to set. -/
def setOptions : Builtin := fun args => do
  if args.isEmpty then listVars [] fun v => v.value.isSome
  else
    match ← switches (args.length + 1) args with
    | some args => modify fun s => { s with args }
    | none => pure ()
    return 0

def shift : Builtin := fun args => do
  let n ← match args with
    | [] => pure 1
    | a :: _ => number a
  if (← get).args.length < n then fail (text "can't shift that many")
  modify fun s => { s with args := s.args.drop n }
  return 0

/-! ## Reading a line -/

/-- A line from the input, up to a line end, and whether there was one. Bytes after a backslash are
taken as they are, and line ends after one are left out, unless the line is raw. -/
def readLine (raw : Bool) : Bytes → List Glyph × Nat × Bool
  | [] => ([], 0, false)
  | '\n' :: _ => ([], 1, true)
  | '\\' :: c :: s =>
    if raw then
      let (line, n, ended) := readLine raw (c :: s)
      (⟨'\\', false⟩ :: line, n + 1, ended)
    else
      let (line, n, ended) := readLine raw s
      (if c = '\n' then line else ⟨c, true⟩ :: line, n + 2, ended)
  | c :: s =>
    let (line, n, ended) := readLine raw s
    (⟨c, false⟩ :: line, n + 1, ended)

/-- Cuts a line into as many fields as there are names; the last one takes the rest. -/
def cutFields (separators : Bytes) : (names : Nat) → List Glyph → List Bytes
  | 0, _ => []
  | n + 1, line =>
    let separates := fun (g : Glyph) => !g.quoted && separators.contains g.c
    let isBlank := fun (g : Glyph) => separates g && (g.c = ' ' || g.c = '\t' || g.c = '\n')
    let line := line.dropWhile isBlank
    let field := line.takeWhile fun g => !separates g
    let rest := (line.drop field.length).dropWhile isBlank
    let after := match rest with
      | g :: rest => if separates g && !isBlank g then rest.dropWhile isBlank else g :: rest
      | [] => []
    if n = 0 then
      if after.isEmpty then [field.map (·.c)]
      else [((line.reverse.dropWhile isBlank).reverse).map (·.c)]
    else field.map (·.c) :: cutFields separators n after

def readVars : Builtin := fun args => do
  let (opts, names) ← optionsOf "p:r" args
  if names.isEmpty then fail (text "arg count")
  let (line, count, ended) := readLine (opts.any (·.1 = 'r')) ((← unread 0).getD [])
  skip 0 count
  let fields := cutFields (← Expansion.separators) names.length line
  (names.zipIdx).forM fun (name, i) => do
    if !isName name then fail (name ++ text ": bad variable name")
    assign name (fields.getD i [])
  return if ended then 0 else 1

/-! ## Directories -/

def pathOf (p : Place) : Bytes :=
  text (if p.isEmpty then "/" else String.join (p.map fun name => "/" ++ name))

def changeDirectory : Builtin := fun args => do
  let (_, args) ← optionsOf "LP" args
  let (target, tells) ← match args with
    | [] => pure ((← value? (text "HOME")).getD [], false)
    | ['-'] :: _ => pure ((← value? (text "OLDPWD")).getD [], true)
    | a :: _ => pure (a, false)
  let s ← get
  let found := if target.isEmpty then some s.current
    else s.files.walk (FileTree.startOf s.current (decodeBytes target))
      (Path.steps (decodeBytes target))
  match found with
  | none => fail (text "can't cd to " ++ target)
  | some place =>
    let old := pathOf s.current
    modify fun s => { s with current := place }
    assignExported (text "OLDPWD") old
    assignExported (text "PWD") (pathOf place)
    if tells then sayLine (pathOf place) else return 0

/-! ## Signals -/

/-- Sends a signal to the shell that the number of the process means. -/
def signalMain (n : Nat) : Act Unit := do
  let s ← get
  let traps := if s.isMain then s.traps else s.mainTraps
  match if n = Signal.kill then none else traps.lookup n with
  | some [] => return ()
  | some _ => set { s with pending := s.pending ++ [n] }
  | none =>
    if n = 0 then return ()
    match Signal.effect n with
    | .kills => throw (.killed n)
    | .stops => throw .overdue
    | .passes => return ()

def killUsage : Bytes :=
  text ("Usage: kill [-s sigspec | -signum | -sigspec] [pid | job]... or\n" ++
    "kill -l [exitstatus]")

/-- Sends a signal to processes. There is no process but the shell and its group. -/
def sendSignal (signal : Nat) (targets : List Bytes) : Act Nat := do
  let mut status := 0
  for target in targets do
    let n ← match target with
      | '-' :: t => number t
      | t => number t
    if n = Expansion.processId || n = 0 then signalMain signal
    else
      complain (text "No such process\n")
      status := 1
  return status

/-- Sends signals, or tells their names. -/
def killProcess : Builtin := fun args => do
  match args with
  | [] => fail killUsage
  | first :: rest =>
    let named := match first with
      | '-' :: name => Signal.ofText? 1 name
      | _ => none
    match named with
    | some n => if rest.isEmpty then fail killUsage else sendSignal n rest
    | none =>
      let (opts, targets) ← optionsOf "ls:" args
      if opts.any (·.1 = 'l') then
        match targets with
        | [] =>
          say (text (String.join
            ("0\n" :: (List.range (Signal.bound - 1)).map fun n => Signal.nameOf (n + 1) ++ "\n")))
        | a :: _ =>
          let n ← number a
          let n := if 128 < n then n - 128 else n
          if 0 < n && n < Signal.bound then sayLine (text (Signal.nameOf n))
          else fail (text "invalid signal number or exit status: " ++ a)
      else
        let signal ← match opts.lookup 's' with
          | none => pure Signal.terminate
          | some name =>
            match Signal.ofText? 1 name with
            | some n => pure n
            | none => fail (text "invalid signal number or name: " ++ name)
        if targets.isEmpty then fail killUsage else sendSignal signal targets

def setTraps : Builtin := fun args => do
  let (_, args) ← optionsOf "" args
  match args with
  | [] =>
    let traps := (← get).traps.mergeSort fun t u => t.1 ≤ u.1
    say (traps.flatMap fun (n, action) =>
      text "trap -- " ++ quote action ++ text (" " ++ Signal.nameOf n ++ "\n"))
  | first :: rest =>
    let (action, signals) := if rest.isEmpty || (Signal.ofDigits? first).isSome then
        (none, first :: rest)
      else (if first = ['-'] then none else some first, rest)
    let rec go : List Bytes → Act Nat
      | [] => return 0
      | name :: names => do
        match Signal.ofText? 0 name with
        | none =>
          let _ ← write 2 (text "trap: " ++ name ++ text ": bad trap\n")
          return 1
        | some n =>
          modify fun s => { s with
            traps := s.traps.filter (·.1 ≠ n) ++ (action.map fun a => (n, a)).toList }
          go names
    go signals

/-! ## Limits -/

/-- The unit in which the limit of a letter is told. -/
def limitUnit? (c : Char) : Option Nat :=
  match c with
  | 't' | 'p' | 'n' | 'w' | 'r' => some 1
  | 'f' | 'c' => some 512
  | 'd' | 's' | 'm' | 'l' | 'v' => some 1024
  | _ => none

/-- The names of limits with their letters, as a list tells them. -/
def limitNames : List (String × Char) :=
  [("time(seconds)", 't'), ("file(blocks)", 'f'), ("data(kbytes)", 'd'), ("stack(kbytes)", 's'),
    ("coredump(blocks)", 'c'), ("memory(kbytes)", 'm'), ("locked memory(kbytes)", 'l'),
    ("process", 'p'), ("nofiles", 'n'), ("vmemory(kbytes)", 'v'), ("locks", 'w'), ("rtprio", 'r')]

/-- Words for a limit. A limit of all ones is none. -/
def limitText (c : Char) : Act Bytes := do
  match (← get).limits.lookup c with
  | none => return text "unlimited"
  | some n =>
    if n = 0xffffffffffffffff then return text "unlimited"
    else return text (toString (n / (limitUnit? c).getD 1))

def limit : Builtin := fun args => do
  let (opts, args) ← optionsOf "HSatfdscmlpnvwr" args
  let c := ((opts.map (·.1)).filter fun c => c ≠ 'H' && c ≠ 'S' && c ≠ 'a').getLast?.getD 'f'
  if opts.any (·.1 = 'a') then
    let lines ← limitNames.mapM fun (name, c) => do
      return text (name ++ String.ofList (List.replicate (20 - name.length) ' ') ++ " ")
        ++ (← limitText c) ++ ['\n']
    say lines.flatten
  else
    match args with
    | [] => sayLine (← limitText c)
    | a :: more =>
      if !more.isEmpty then fail (text "too many arguments")
      if a = text "unlimited" then
        modify fun s => { s with limits := s.limits.filter (·.1 ≠ c) }
      else if a.isEmpty || !a.all (·.isDigit) then fail (text "bad number")
      else
        let n := a.foldl (fun n c => n * 10 + (c.toNat - 48)) 0 * (limitUnit? c).getD 1
        modify fun s => { s with limits := (c, n) :: s.limits.filter (·.1 ≠ c) }
      return 0

/-! ## Conditions -/

/-- Whether a file is as a condition asks. Files can be read and written, and directories entered. -/
def fileIs (s : State) (letter : Char) (path : Bytes) : Bool :=
  let place := s.files.resolve? s.current (decodeBytes path)
  let isDirectory := !path.isEmpty && place.any s.files.isDirectory
  let content := if path.isEmpty then none else place.bind s.files.file?
  let isNull := path = text "/dev/null"
  match letter with
  | 'e' | 'r' | 'w' | 'O' | 'G' => isDirectory || content.isSome || isNull
  | 'f' => content.isSome
  | 'd' | 'x' => isDirectory
  | 's' => isDirectory || content.any fun c => !c.isEmpty
  | 'c' => isNull
  | _ => false

/-- Whether two files are as a condition asks. No file is newer than another one. -/
def filesAre (s : State) (name : String) (a b : Bytes) : Bool :=
  name = "-ef" && fileIs s 'e' a && fileIs s 'e' b &&
    s.files.resolve? s.current (decodeBytes a) == s.files.resolve? s.current (decodeBytes b)

def condition : Builtin := fun args => do
  let s ← get
  match Condition.holds ⟨fileIs s, filesAre s⟩ args with
  | .ok b => return if b then 0 else 1
  | .error message => fail message

def bracket : Builtin := fun args => do
  if (args.getLast?.bind (·.head?)) == some ']' then condition args.dropLast
  else fail (text "missing ]")

/-! ## Scanning options -/

/-- Scans the next option of the arguments into a variable. -/
def scanOption : Builtin := fun args => do
  match args with
  | letters :: name :: more =>
    let words ← if more.isEmpty then pure (← get).args else pure more
    let index : Nat := (((← value? (text "OPTIND")).bind fun v =>
      (String.ofList v).toNat?).getD 1)
    let offset := (← get).optionOffset
    let done := fun (index offset : Nat) (letter : Bytes) (argument : Option Bytes)
        (status : Nat) => do
      assign (text "OPTIND") (text (toString index))
      modify fun s => { s with optionOffset := offset }
      match argument with
      | some a => assign (text "OPTARG") a
      | none => modify fun s => { s with vars := s.vars.filter (·.1 ≠ text "OPTARG") }
      assign name letter
      return status
    let offset := if index ≤ 1 && offset = 0 then 1 else max offset 1
    match words[index - 1]? with
    | none => done index 0 ['?'] none 1
    | some word =>
      if offset = 1 && (word.head? != some '-' || word.length < 2) then done index 0 ['?'] none 1
      else if offset = 1 && word = ['-', '-'] then done (index + 1) 0 ['?'] none 1
      else
        match word.drop offset with
        | [] => done (index + 1) 0 ['?'] none 1
        | c :: rest =>
          let silent := letters.head? == some ':'
          let next := if rest.isEmpty then (index + 1, 0) else (index, offset + 1)
          match (letters.dropWhile fun d => d ≠ c || d = ':') with
          | [] =>
            if silent then done next.1 next.2 ['?'] (some [c]) 0
            else
              let _ ← write 2 (text "Illegal option -" ++ [c, '\n'])
              done next.1 next.2 ['?'] none 0
          | _ :: ':' :: _ =>
            if !rest.isEmpty then done (index + 1) 0 [c] (some rest) 0
            else
              match words[index]? with
              | some a => done (index + 2) 0 [c] (some a) 0
              | none =>
                if silent then done (index + 1) 0 [':'] (some [c]) 0
                else
                  let _ ← write 2 (text "No arg for -" ++ c :: text " option\n")
                  done (index + 1) 0 ['?'] none 0
          | _ => done next.1 next.2 [c] (some []) 0
  | _ => fail (text "Usage: getopts optstring var [arg]")

/-! ## Waiting -/

def waitFor : Builtin := fun args => do
  match args.getLast? with
  | none => return 0
  | some a => return ((← get).jobs.lookup (← number a)).getD 127

/-! ## Leaving -/

/-- Ends the shell. In a trap, the status without a number is the one before it. -/
def exit : Builtin := fun args => do
  let s ← get
  setStatus (← match args with
    | [] => pure (s.before.getD s.status)
    | a :: _ => number a)
  throw .exit

def leave : Builtin := fun args => do
  match args with
  | [] => pure ()
  | a :: _ => setStatus (← number a)
  throw .fromFunction

def stopLoops (stop : Nat → Stop) : Builtin := fun args => do
  let n ← match args with
    | [] => pure 1
    | a :: _ => do
      let n ← number a
      if n = 0 then fail (text "Illegal number: " ++ a)
      pure n
  setStatus 0
  let n := min n (← get).loops
  if n = 0 then return 0 else throw (stop n)

/-! ## Names of commands -/

def isShell (name : Bytes) : Bool :=
  ["sh", "/bin/sh", "/usr/bin/sh"].any fun n => name = text n

def describe (name : Bytes) : Act (Bytes × Bool) := do
  let s ← get
  let n := decodeBytes name
  let is := fun (words : String) => (name ++ text (" is " ++ words), true)
  return (
    if reserved.contains n then is "a shell keyword"
    else if special.contains n then is "a special shell builtin"
    else if (s.functions.lookup name).isSome then is "a shell function"
    else if ordinary.contains n then is "a shell builtin"
    else if isShell name then is ("/usr/bin/sh")
    else (name ++ text ": not found", false))

def types : Builtin := fun args => do
  let mut status := 0
  for name in args do
    let (words, found) ← describe name
    let _ ← sayLine words
    if !found then status := 127
  return status

/-- Tells how commands are found: by their names, or in words. -/
def whereabouts (inWords : Bool) : Builtin := fun args => do
  match args with
  | [] => return 0
  | name :: _ =>
    let (words, found) ← describe name
    if inWords then
      let _ ← sayLine words
      return if found then 0 else 127
    else if found then sayLine (if isShell name then text "/usr/bin/sh" else name)
    else return 127

/-! ## All of them -/

/-- The builtin of a name, if it runs no other command. -/
def named? (name : String) : Option Builtin :=
  match name with
  | ":" | "true" | "hash" | "jobs" | "alias" | "unalias" => some fun _ => return 0
  | "false" => some fun _ => return 1
  | "times" => some fun _ => say (text "0m0.000000s 0m0.000000s\n0m0.000000s 0m0.000000s\n")
  | "echo" => some fun args => say (Printf.echo args)
  | "printf" => some printf
  | "export" => some (mark "export" (·.exported) fun v => { v with exported := true })
  | "readonly" => some (mark "readonly" (·.fixed) fun v => { v with fixed := true })
  | "unset" => some unset
  | "local" => some localVars
  | "set" => some setOptions
  | "shift" => some shift
  | "read" => some readVars
  | "cd" | "chdir" => some changeDirectory
  | "pwd" => some fun args => do
    let _ ← optionsOf "LP" args
    sayLine (pathOf (← get).current)
  | "kill" => some killProcess
  | "trap" => some setTraps
  | "ulimit" => some limit
  | "umask" => some fun _ => sayLine (text "0022")
  | "test" => some condition
  | "[" => some bracket
  | "getopts" => some scanOption
  | "wait" => some waitFor
  | "exit" => some exit
  | "return" => some leave
  | "break" => some (stopLoops .breakLoop)
  | "continue" => some (stopLoops .continueLoop)
  | "type" => some types
  | "fg" | "bg" => some fun _ => do fail (text "No current job")
  | _ => none

end Builtin

end Remedy.Shell
