import Remedy.Shell.Syntax

/-!
# Reading shell programs

A program is read one complete command at a time, so that what stands before a mistake runs. A
mistake is told by the token that stands in the wrong place, and by the one that has to come, if
there is only one.
-/

namespace Remedy.Shell

structure SyntaxFault where
  line : Nat
  message : String

inductive Token where
  | endOfFile
  | newline
  | sign (text : String)
  | redir (fd : Option Nat) (text : String)
  | word (pieces : Word)
deriving Inhabited

/-- A here-document whose text is still to come. -/
structure Pending where
  id : Nat
  delimiter : Bytes
  literal : Bool
  stripTabs : Bool

/-- The rest of a program, the number of its first line, a token that was looked at, and the
here-documents. -/
structure Scan where
  rest : Bytes
  line : Nat := 1
  peeked : Option Token := none
  pending : List Pending := []
  documents : List (Nat × Word) := []
  nextId : Nat := 0

abbrev Parse := ExceptT SyntaxFault (StateM Scan)

/-- Words that begin or end parts of compound commands. -/
def reserved : List String :=
  ["!", "case", "do", "done", "elif", "else", "esac", "fi", "for", "if", "in", "then", "until",
    "while", "\x7b", "\x7d"]

namespace Token

/-- The text of a word without quotes. -/
def plain? : Token → Option String
  | word w => w.plain?.map String.ofList
  | _ => none

def isWord (t : Token) (s : String) : Bool := t.plain? == some s

/-- How a token is told, where reserved words have their meaning or not. -/
def describe (reservedHere : Bool) (t : Token) : String :=
  match t with
  | endOfFile => "end of file"
  | newline => "newline"
  | sign s => "\"" ++ s ++ "\""
  | redir _ _ => "redirection"
  | word _ =>
    match t.plain? with
    | some s => if reservedHere && reserved.contains s then "\"" ++ s ++ "\"" else "word"
    | none => "word"

def endsList (t : Token) : Bool :=
  match t with
  | endOfFile => true
  | sign s => s = ")" || s = ";;"
  | word _ => ["do", "done", "elif", "else", "esac", "fi", "then", "\x7d"].any t.isWord
  | _ => false

end Token

namespace Parse

def fail {α : Type} (message : String) : Parse α := do
  throw ⟨(← get).line, "Syntax error: " ++ message⟩

/-- A token that may not come here. -/
def unexpected {α : Type} (t : Token) (reservedHere : Bool := true)
    (expected : Option String := none) : Parse α :=
  fail (t.describe reservedHere ++ " unexpected" ++
    match expected with
    | some e => " (expecting " ++ e ++ ")"
    | none => "")

def takeChar : Parse (Option Char) := do
  let s ← get
  match s.rest with
  | [] => return none
  | c :: rest =>
    set { s with rest, line := if c = '\n' then s.line + 1 else s.line }
    return some c

def peekChar : Parse (Option Char) := return (← get).rest.head?

def drop (n : Nat) : Parse Unit := do
  let s ← get
  let gone := (s.rest.take n).countP (· = '\n')
  set { s with rest := s.rest.drop n, line := s.line + gone }

def sees (text : String) : Parse Bool := return text.toList.isPrefixOf (← get).rest

/-! ## Here-documents -/

def documentLines (p : Pending) : Nat → Parse Bytes
  | 0 => return []
  | fuel + 1 => do
    let s ← get
    if s.rest.isEmpty then return []
    let line := s.rest.takeWhile (· ≠ '\n')
    let lineEnd := (s.rest.drop line.length).take 1
    drop (line.length + 1)
    let line := if p.stripTabs then line.dropWhile (· = '\t') else line
    if line = p.delimiter then return []
    return line ++ lineEnd ++ (← documentLines p fuel)

end Parse

/-- Signs that are no redirections, longer ones first. -/
def signs : List String := ["&&", "||", ";;", "&", "|", ";", "(", ")"]

/-- Signs of redirections, longer ones first. -/
def redirSigns : List String := ["<<-", "<<", "<&", "<>", "<", ">>", ">&", ">|", ">"]

def endsWord (c : Char) : Bool := " \t\n;&|<>()".toList.contains c

/-- Parameters that are one character. -/
def isSpecialParam (c : Char) : Bool := "@*#?-$!".toList.contains c || c.isDigit

/-- The text between backquotes, and what comes after it. -/
def backquoted? (inQuotes : Bool) : Bytes → Option (Bytes × Bytes)
  | [] => none
  | '\x60' :: s => some ([], s)
  | '\\' :: c :: s =>
    (backquoted? inQuotes s).map fun (text, rest) =>
      if c = '$' || c = '\x60' || c = '\\' || (inQuotes && c = '"') then (c :: text, rest)
      else ('\\' :: c :: text, rest)
  | c :: s => (backquoted? inQuotes s).map fun (text, rest) => (c :: text, rest)

/-- The use of a parameter that is written after its name, and the rest. -/
def paramUse? : Bytes → Option (ParamUse × Bytes)
  | ':' :: '-' :: s => some (.orElse true, s)
  | '-' :: s => some (.orElse false, s)
  | ':' :: '=' :: s => some (.orAssign true, s)
  | '=' :: s => some (.orAssign false, s)
  | ':' :: '?' :: s => some (.orFail true, s)
  | '?' :: s => some (.orFail false, s)
  | ':' :: '+' :: s => some (.ifSet true, s)
  | '+' :: s => some (.ifSet false, s)
  | '#' :: '#' :: s => some (.dropStart true, s)
  | '#' :: s => some (.dropStart false, s)
  | '%' :: '%' :: s => some (.dropEnd true, s)
  | '%' :: s => some (.dropEnd false, s)
  | _ => none

/-- The name of a parameter at the front of a text, and the rest. Between braces, the number of an
argument may have several digits. -/
def paramName? (inBraces : Bool) : Bytes → Option (Bytes × Bytes)
  | [] => none
  | c :: s =>
    let named := fun (accepts : Char → Bool) =>
      let name := (c :: s).takeWhile accepts
      some (name, (c :: s).drop name.length)
    if isNameStart c then named isNameChar
    else if c.isDigit && inBraces then named Char.isDigit
    else if isSpecialParam c then some ([c], s)
    else none

/-- Whether a word starts with a name and an equals sign; the name and the rest. -/
def assignment? : Word → Option (Bytes × Word)
  | .char c false :: w =>
    let rec go : Word → Option (Bytes × Word)
      | .char '=' false :: w => some ([], w)
      | .char c false :: w =>
        if isNameChar c then (go w).map fun (name, rest) => (c :: name, rest) else none
      | _ => none
    if isNameStart c then (go w).map fun (name, rest) => (c :: name, rest) else none
  | _ => none

open Parse

mutual

def dollar (quoted : Bool) : Nat → Parse Word
  | 0 => return []
  | fuel + 1 => do
    let s := (← get).rest
    match s with
    | '(' :: '(' :: _ =>
      drop 2
      return [.arithmetic (← arithmetic 0 fuel) quoted]
    | '(' :: _ =>
      drop 1
      let body ← list true fuel
      let t ← next fuel
      match t with
      | .sign ")" => return [.command body quoted]
      | t => unexpected t true (some "\")\"")
    | '\x7b' :: s =>
      drop 1
      match s with
      | '#' :: '\x7d' :: _ =>
        drop 2
        return [.param ['#'] .value [] quoted]
      | _ =>
        let length : Bool := match s with
          | '#' :: t => ((paramName? true t).any fun p => p.2.head? == some '\x7d')
          | _ => false
        let s := if length then s.drop 1 else s
        match paramName? true s with
        | none =>
          let _ ← braced quoted fuel
          return [.param [] .unknown [] quoted]
        | some (name, rest) =>
          drop (name.length + if length then 1 else 0)
          match rest with
          | '\x7d' :: _ =>
            drop 1
            return [.param name (if length then .length else .value) [] quoted]
          | ':' :: '\x7d' :: _ =>
            drop 2
            let _ ← braced quoted fuel
            return [.param name .unknown [] quoted]
          | _ =>
            match paramUse? rest with
            | none =>
              let _ ← braced quoted fuel
              return [.param name .unknown [] quoted]
            | some (use, after) =>
              drop (rest.length - after.length)
              let isPattern := match use with
                | .dropStart _ | .dropEnd _ => true
                | _ => false
              return [.param name use (← braced (quoted && !isPattern) fuel) quoted]
    | _ =>
      match paramName? false s with
      | none => return [.char '$' quoted]
      | some (name, _) =>
        drop name.length
        return [.param name .value [] quoted]
termination_by structural n => n

/-- A word up to a closing brace. -/
def braced (quoted : Bool) : Nat → Parse Word
  | 0 => return []
  | fuel + 1 => do
    match ← takeChar with
    | none => fail "Missing '\x7d'"
    | some '\x7d' => return []
    | some c => return (← piece c quoted fuel) ++ (← braced quoted fuel)
termination_by structural n => n

/-- The piece that begins with a character, inside double quotes or outside. -/
def piece (c : Char) (quoted : Bool) : Nat → Parse Word
  | 0 => return []
  | fuel + 1 => do
    if c = '\\' then
      match ← peekChar with
      | none => return [.char c true]
      | some d =>
        if d = '\n' then
          drop 1
          return []
        else if quoted && !"$\x60\"\\\x7d".toList.contains d then return [.char c true]
        else
          drop 1
          return [.char d true]
    else if c = '\'' && !quoted then
      let text := (← get).rest.takeWhile (· ≠ '\'')
      drop text.length
      match ← takeChar with
      | none => fail "Unterminated quoted string"
      | some _ => return .quotes :: text.map fun d => .char d true
    else if c = '"' then
      if quoted then return (← doubleQuoted fuel)
      else return .quotes :: (← doubleQuoted fuel)
    else if c = '$' then dollar quoted fuel
    else if c = '\x60' then
      match backquoted? quoted (← get).rest with
      | none => fail "EOF in backquote substitution"
      | some (text, after) =>
        let outer ← get
        set { outer with rest := text, peeked := none }
        let body ← list true fuel
        match ← next fuel with
        | .endOfFile =>
          modify fun inner => { inner with
            rest := after
            peeked := none
            line := outer.line + (outer.rest.take (outer.rest.length - after.length)).countP (· = '\n') }
          return [.command body quoted]
        | t => unexpected t
    else return [.char c quoted]
termination_by structural n => n

def doubleQuoted : Nat → Parse Word
  | 0 => return []
  | fuel + 1 => do
    match ← takeChar with
    | none => fail "Unterminated quoted string"
    | some '"' => return []
    | some c => return (← piece c true fuel) ++ (← doubleQuoted fuel)
termination_by structural n => n

/-- An arithmetic expression up to the two closing brackets, inside some brackets of its own. -/
def arithmetic (brackets : Nat) : Nat → Parse Word
  | 0 => return []
  | fuel + 1 => do
    match ← takeChar with
    | none => fail "Missing '))'"
    | some '(' => return .char '(' true :: (← arithmetic (brackets + 1) fuel)
    | some ')' =>
      match brackets with
      | 0 =>
        match ← takeChar with
        | some ')' => return []
        | _ => fail "Missing '))'"
      | brackets + 1 => return .char ')' true :: (← arithmetic brackets fuel)
    | some '"' => return .char '"' true :: (← arithmetic brackets fuel)
    | some c => return (← piece c true fuel) ++ (← arithmetic brackets fuel)
termination_by structural n => n

def word : Nat → Parse Word
  | 0 => return []
  | fuel + 1 => do
    match ← peekChar with
    | none => return []
    | some c =>
      if endsWord c then return []
      let _ ← takeChar
      return (← piece c false fuel) ++ (← word fuel)
termination_by structural n => n

/-- Reads the texts of the here-documents that were announced on a line. -/
def documents : Nat → Parse Unit
  | 0 => return ()
  | fuel + 1 => do
    match (← get).pending with
    | [] => return ()
    | p :: pending =>
      modify fun s => { s with pending }
      let text ← documentLines p (← get).rest.length
      let pieces : Word ←
        if p.literal then pure (text.map fun c => .char c true)
        else do
          let outer ← get
          set { outer with rest := text, peeked := none }
          let pieces ← documentBody fuel
          modify fun inner => { inner with rest := outer.rest, line := outer.line, peeked := none }
          pure pieces
      modify fun s => { s with documents := (p.id, pieces) :: s.documents }
      documents fuel
termination_by structural n => n

def documentBody : Nat → Parse Word
  | 0 => return []
  | fuel + 1 => do
    match ← takeChar with
    | none => return []
    | some '"' => return .char '"' true :: (← documentBody fuel)
    | some c => return (← piece c true fuel) ++ (← documentBody fuel)
termination_by structural n => n

def token : Nat → Parse Token
  | 0 => return .endOfFile
  | fuel + 1 => do
    match ← peekChar with
    | none => return .endOfFile
    | some c =>
      if c = ' ' || c = '\t' then
        drop 1
        token fuel
      else if c = '\n' then
        drop 1
        documents fuel
        return .newline
      else if c = '#' then
        drop ((← get).rest.takeWhile (· ≠ '\n')).length
        token fuel
      else if (← sees "\\\n") then
        drop 2
        token fuel
      else
        let rest := (← get).rest
        let starts := fun (s : String) => s.toList.isPrefixOf rest
        match redirSigns.find? starts with
        | some s =>
          drop s.length
          return .redir none s
        | none =>
          match signs.find? starts with
          | some s =>
            drop s.length
            return .sign s
          | none =>
            match rest with
            | d :: after =>
              match redirSigns.find? fun s => d.isDigit && s.toList.isPrefixOf after with
              | some s =>
                drop (s.length + 1)
                return .redir (some (d.toNat - 48)) s
              | none => return .word (← word fuel)
            | [] => return .endOfFile
termination_by structural n => n

/-- The next token, which stays. -/
def peek : Nat → Parse Token
  | 0 => return .endOfFile
  | fuel + 1 => do
    match (← get).peeked with
    | some t => return t
    | none =>
      let t ← token fuel
      modify fun s => { s with peeked := some t }
      return t
termination_by structural n => n

def next : Nat → Parse Token
  | 0 => return .endOfFile
  | fuel + 1 => do
    let t ← peek fuel
    modify fun s => { s with peeked := none }
    return t
termination_by structural n => n

def skipNewlines : Nat → Parse Unit
  | 0 => return ()
  | fuel + 1 => do
    match ← peek fuel with
    | .newline =>
      let _ ← next fuel
      skipNewlines fuel
    | _ => return ()
termination_by structural n => n

/-- Takes a reserved word that has to come. -/
def expect (s : String) : Nat → Parse Unit
  | 0 => return ()
  | fuel + 1 => do
    let t ← next fuel
    if t.isWord s then return () else unexpected t true (some ("\"" ++ s ++ "\""))
termination_by structural n => n

/-- Commands up to a token that ends a list; with `optional`, there may be none. -/
def list (optional : Bool) : Nat → Parse Command
  | 0 => return .nothing
  | fuel + 1 => do
    skipNewlines fuel
    let t ← peek fuel
    if optional && t.endsList then return .nothing
    match t with
    | .endOfFile => return .nothing
    | _ =>
      let first ← andOr fuel
      match ← peek fuel with
      | .sign ";" | .newline =>
        let _ ← next fuel
        listRest first fuel
      | .sign "&" =>
        let _ ← next fuel
        listRest (.background first) fuel
      | _ => return first
termination_by structural n => n

def listRest (first : Command) : Nat → Parse Command
  | 0 => return first
  | fuel + 1 => do
    skipNewlines fuel
    let t ← peek fuel
    if t.endsList then return first
    let second ← andOr fuel
    match ← peek fuel with
    | .sign ";" | .newline =>
      let _ ← next fuel
      listRest (.inOrder first second) fuel
    | .sign "&" =>
      let _ ← next fuel
      listRest (.inOrder first (.background second)) fuel
    | _ => return .inOrder first second
termination_by structural n => n

/-- Pipelines with `&&` and `||` between them. -/
def andOr : Nat → Parse Command
  | 0 => return .nothing
  | fuel + 1 => do andOrRest (← pipeline fuel) fuel
termination_by structural n => n

def andOrRest (first : Command) : Nat → Parse Command
  | 0 => return first
  | fuel + 1 => do
    match ← peek fuel with
    | .sign "&&" =>
      let _ ← next fuel
      skipNewlines fuel
      andOrRest (.both first (← pipeline fuel)) fuel
    | .sign "||" =>
      let _ ← next fuel
      skipNewlines fuel
      andOrRest (.either first (← pipeline fuel)) fuel
    | _ => return first
termination_by structural n => n

/-- A pipeline, perhaps negated. -/
def pipeline : Nat → Parse Command
  | 0 => return .nothing
  | fuel + 1 => do
    if (← peek fuel).isWord "!" then
      let _ ← next fuel
      return .negated (← stages fuel)
    else stages fuel
termination_by structural n => n

def stages : Nat → Parse Command
  | 0 => return .nothing
  | fuel + 1 => do
    let first ← command fuel
    match ← peek fuel with
    | .sign "|" =>
      let _ ← next fuel
      skipNewlines fuel
      return .pipe first (← stages fuel)
    | _ => return first
termination_by structural n => n

/-- Redirections after a compound command. -/
def redirections : Nat → Parse (List Redir)
  | 0 => return []
  | fuel + 1 => do
    match ← peek fuel with
    | .redir fd s =>
      let _ ← next fuel
      let r ← redirection fd s fuel
      return r :: (← redirections fuel)
    | _ => return []
termination_by structural n => n

def redirection (fd : Option Nat) (s : String) : Nat → Parse Redir
  | 0 => return .mk 0 .read []
  | fuel + 1 => do
    let input := s.toList.head? == some '<'
    let fd := fd.getD (if input then 0 else 1)
    match ← next fuel with
    | .word w =>
      match s with
      | "<<" | "<<-" =>
        let isQuoted := fun (p : Piece) => match p with
          | .char _ q => q
          | _ => true
        let text := w.filterMap fun p => match p with
          | .char c _ => some c
          | _ => none
        let id := (← get).nextId
        modify fun st => { st with
          nextId := id + 1
          pending := st.pending ++ [⟨id, text, w.any isQuoted, s = "<<-"⟩] }
        return .mk fd (.here id) []
      | _ =>
        let kind : RedirKind := match s with
          | "<" => .read
          | ">>" => .append
          | "<>" => .readWrite
          | "<&" | ">&" => .copy
          | ">|" => .overwrite
          | _ => .write
        return .mk fd kind w
    | t => unexpected t false
termination_by structural n => n

def command : Nat → Parse Command
  | 0 => return .nothing
  | fuel + 1 => do
    let line := (← get).line
    let t ← peek fuel
    let compound := fun (body : Parse Command) => do
      let _ ← next fuel
      let c ← body
      let redirs ← redirections fuel
      return if redirs.isEmpty then c else Command.redirected line redirs c
    match t with
    | .sign "(" => compound do
        let body ← list false fuel
        match ← next fuel with
        | .sign ")" => return .subshell body
        | t => unexpected t true (some "\")\"")
    | .redir _ _ => simple line [] [] [] fuel
    | .word _ =>
      match t.plain? with
      | some "\x7b" => compound do
          let body ← list false fuel
          expect "\x7d" fuel
          return body
      | some "if" => compound (branches fuel)
      | some "while" => compound (loop false fuel)
      | some "until" => compound (loop true fuel)
      | some "for" => compound (each line fuel)
      | some "case" => compound (choice line fuel)
      | some s => if reserved.contains s then unexpected t else simple line [] [] [] fuel
      | none => simple line [] [] [] fuel
    | t => unexpected t
termination_by structural n => n

/-- A branch behind its first word. -/
def branches : Nat → Parse Command
  | 0 => return .nothing
  | fuel + 1 => do
    let test ← list false fuel
    expect "then" fuel
    let yes ← list false fuel
    let t ← next fuel
    if t.isWord "elif" then return .branch test yes (← branches fuel)
    else if t.isWord "else" then
      let no ← list false fuel
      expect "fi" fuel
      return .branch test yes no
    else if t.isWord "fi" then return .branch test yes .nothing
    else unexpected t true (some "\"fi\"")
termination_by structural n => n

def loop (untilTrue : Bool) : Nat → Parse Command
  | 0 => return .nothing
  | fuel + 1 => do
    let test ← list false fuel
    expect "do" fuel
    let body ← list false fuel
    expect "done" fuel
    return .loop untilTrue test body
termination_by structural n => n

def each (line : Nat) : Nat → Parse Command
  | 0 => return .nothing
  | fuel + 1 => do
    match (← next fuel).plain?.map String.toList with
    | none => fail "Bad for loop variable"
    | some name =>
      if !isName name then fail "Bad for loop variable"
      else
        skipNewlines fuel
        let t ← peek fuel
        let words ←
          if t.isWord "in" then do
            let _ ← next fuel
            let words ← wordList fuel
            match ← next fuel with
            | .sign ";" | .newline => pure (some words)
            | t => unexpected t false
          else do
            match t with
            | .sign ";" =>
              let _ ← next fuel
              pure none
            | _ => pure none
        skipNewlines fuel
        expect "do" fuel
        let body ← list false fuel
        expect "done" fuel
        return .each line name words body
termination_by structural n => n

def wordList : Nat → Parse (List Word)
  | 0 => return []
  | fuel + 1 => do
    match ← peek fuel with
    | .word w =>
      let _ ← next fuel
      return w :: (← wordList fuel)
    | _ => return []
termination_by structural n => n

def choice (line : Nat) : Nat → Parse Command
  | 0 => return .nothing
  | fuel + 1 => do
    match ← next fuel with
    | .word subject =>
      skipNewlines fuel
      expect "in" fuel
      return .choose line subject (← arms fuel)
    | t => unexpected t false (some "word")
termination_by structural n => n

/-- The arms of a choice and its last word. -/
def arms : Nat → Parse (List (List Word × Command))
  | 0 => return []
  | fuel + 1 => do
    skipNewlines fuel
    let t ← next fuel
    if t.isWord "esac" then return []
    let t ← match t with
      | .sign "(" => next fuel
      | t => pure t
    let patterns ← armPatterns t fuel
    let body ← list true fuel
    let t ← next fuel
    match t with
    | .sign ";;" => return (patterns, body) :: (← arms fuel)
    | _ =>
      if t.isWord "esac" then return [(patterns, body)]
      else unexpected t true (some "\";;\"")
termination_by structural n => n

/-- The patterns of an arm, the first token of which was taken, and the bracket after them. -/
def armPatterns (first : Token) : Nat → Parse (List Word)
  | 0 => return []
  | fuel + 1 => do
    let w := match first with
      | .word w => w
      | _ => []
    match first with
    | .endOfFile => unexpected first false (some "\")\"")
    | _ =>
      match ← next fuel with
      | .sign "|" => return w :: (← armPatterns (← next fuel) fuel)
      | .sign ")" => return [w]
      | t => unexpected t false (some "\")\"")
termination_by structural n => n

/-- A simple command, or the definition of a function. -/
def simple (line : Nat) (assigns : List (Bytes × Word)) (words : List Word) (redirs : List Redir) :
    Nat → Parse Command
  | 0 => return .nothing
  | fuel + 1 => do
    match ← peek fuel with
    | .word w =>
      let _ ← next fuel
      match assignment? w with
      | some (name, value) =>
        if words.isEmpty then simple line (assigns ++ [(name, value)]) words redirs fuel
        else simple line assigns (words ++ [w]) redirs fuel
      | none => simple line assigns (words ++ [w]) redirs fuel
    | .redir fd s =>
      let _ ← next fuel
      let r ← redirection fd s fuel
      simple line assigns words (redirs ++ [r]) fuel
    | .sign "(" =>
      match assigns, words, redirs with
      | [], [w], [] =>
        let _ ← next fuel
        match ← next fuel with
        | .sign ")" =>
          match w.plain? with
          | some name =>
            if isName name then
              skipNewlines fuel
              return .function name (← command fuel)
            else fail "Bad function name"
          | none => fail "Bad function name"
        | t => unexpected t false (some "\")\"")
      | _, _, _ => unexpected (.sign "(")
    | _ => return .simple line assigns words redirs
termination_by structural n => n

end

/-- The next complete command of a program; none at its end. -/
def completeCommand : Nat → Parse (Option Command)
  | fuel => do
    match ← peek fuel with
    | .endOfFile => return none
    | .newline =>
      let _ ← next fuel
      return some .nothing
    | _ =>
      let rec go (first : Command) : Nat → Parse Command
        | 0 => return first
        | left + 1 => do
          let second ← andOr fuel
          let t ← next fuel
          let ended := fun (c : Command) => do
            match ← peek fuel with
            | .endOfFile => return c
            | .newline =>
              let _ ← next fuel
              return c
            | _ => go c left
          match t with
          | .sign ";" => ended (.inOrder first second)
          | .sign "&" => ended (.inOrder first (.background second))
          | .newline => return .inOrder first second
          | .endOfFile => return .inOrder first second
          | t => unexpected t
      return some (← go .nothing fuel)

def readingSteps (program : Bytes) : Nat := 20 * (program.length + 2)

end Remedy.Shell
