import Remedy.Toml.Scalar
import Remedy.Toml.Table

/-!
# Reading a TOML document

A document is a sequence of lines: assignments, headers of tables, comments and blank lines. Its
value is the object of its tables. Arrays and inline tables nest at most 79 levels deep.
-/

namespace Remedy.Toml

/-- How deep values may nest, and how many parts a dotted key may have. -/
def maxDepth : Nat := 79

/-! ## Keys -/

/-- A character of a key without quotes. -/
def isBareKeyChar (c : Char) : Bool := c.isAlphanum || c = '_' || c = '-'

def keyPart? (s : List Char) : Option (String × List Char) :=
  match s with
  | '"' :: _ | '\'' :: _ => lineString? s
  | s =>
    let name := s.takeWhile isBareKeyChar
    if name.isEmpty then none else some (String.ofList name, s.drop name.length)

/-- A key of at most so many parts, with the blanks around it: all parts but the last, and the
last. -/
def key? : (limit : Nat) → List Char → Option ((List String × String) × List Char)
  | 0, _ => none
  | limit + 1, s => do
    let (part, rest) ← keyPart? (skipSpace s)
    match skipSpace rest with
    | '.' :: rest => do
      let ((path, last), rest) ← key? limit rest
      pure ((part :: path, last), rest)
    | rest => pure (([], part), rest)

/-! ## Values -/

/-- The items of an array behind its bracket; `first` says that none was read yet. -/
def items? (value? : List Char → Option (Json × List Char)) : (fuel : Nat) → List Char → Option (List Json × List Char)
  | 0, _ => none
  | fuel + 1, s =>
    match skipFree false s with
    | ']' :: rest => some ([], rest)
    | s => do
      let (v, rest) ← value? s
      match skipFree false rest with
      | ',' :: rest => do
        let (vs, rest) ← items? value? fuel rest
        pure (v :: vs, rest)
      | ']' :: rest => pure ([v], rest)
      | _ => none

def assignment? (value? : List Char → Option (Json × List Char)) (s : List Char) :
    Option ((List String × String × Json) × List Char) := do
  let ((path, last), rest) ← key? maxDepth s
  let rest ← after? '=' rest
  let (v, rest) ← value? (skipSpace rest)
  pure ((path, last, v), rest)

/-- The entries of an inline table behind its brace, added to those before them. -/
def inline? (value? : List Char → Option (Json × List Char)) :
    (fuel : Nat) → Entries → List Char → Option (Entries × List Char)
  | 0, _, _ => none
  | fuel + 1, entries, s => do
    let ((path, last, v), rest) ← assignment? value? s
    let entries ← entries.assign? path last v
    match skipSpace rest with
    | ',' :: rest => inline? value? fuel entries rest
    | '\x7d' :: rest => pure (entries, rest)
    | _ => none

/-- A value of at most so many levels. -/
def value? : (depth : Nat) → List Char → Option (Json × List Char)
  | 0, s =>
    match s with
    | '[' :: _ | '\x7b' :: _ => none
    | s => scalarValue? s
  | depth + 1, s =>
    match s with
    | '[' :: s => (items? (value? depth) s.length s).map fun (vs, rest) => (.arr vs, rest)
    | '\x7b' :: s =>
      match skipSpace s with
      | '\x7d' :: rest => some (.ofFields [], rest)
      | _ => (inline? (value? depth) s.length [] s).map fun (entries, rest) =>
          (.ofFields (fieldsOf entries), rest)
    | s => scalarValue? s

/-! ## Lines -/

/-- What was read so far: the tables, and the path of the table that is open. -/
structure Progress where
  root : Entries := []
  opened : List String := []

/-- The text after the rest of a line, which holds at most a comment. -/
def afterLine? (s : List Char) : Option (List Char) :=
  let s := skipSpace s
  let s := if s.head? = some '#' then s.dropWhile isCommentText else s
  if s.isEmpty then some [] else afterLineEnd? s

/-- A line, without what may follow on it. -/
def line? (p : Progress) (s : List Char) : Option (Progress × List Char) :=
  match skipSpace s with
  | [] => some (p, [])
  | '[' :: '[' :: s => do
    let ((path, last), rest) ← key? maxDepth s
    let rest ← after? ']' rest
    let rest ← after? ']' rest
    pure (⟨← p.root.openSeries? path last, path ++ [last]⟩, rest)
  | '[' :: s => do
    let ((path, last), rest) ← key? maxDepth s
    let rest ← after? ']' rest
    pure (⟨← p.root.openTable? path last, path ++ [last]⟩, rest)
  | c :: s =>
    if c = '#' || c = '\n' || c = '\r' then some (p, c :: s)
    else do
      let ((path, last, v), rest) ← assignment? (value? maxDepth) (c :: s)
      pure (⟨← p.root.assignIn? p.opened path last v, p.opened⟩, rest)

def lines? : (fuel : Nat) → Progress → List Char → Option Progress
  | 0, p, s => if s.isEmpty then some p else none
  | fuel + 1, p, s =>
    if s.isEmpty then some p
    else do
      let (p, rest) ← line? p s
      lines? fuel p (← afterLine? rest)

def parse (s : String) : Option Json := do
  let text := match s.toList with
    | '\ufeff' :: text => text
    | text => text
  let p ← lines? text.length {} text
  pure (.ofFields (fieldsOf p.root))

end Remedy.Toml
