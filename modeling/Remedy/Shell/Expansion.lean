import Remedy.Shell.Arithmetic
import Remedy.Shell.State

/-!
# From words to fields

Values are put in for the pieces of a word; then values that stood outside of quotes are split at
separators, and patterns become the file names they match.
-/

namespace Remedy.Shell

open Remedy.Text Act

/-- A byte of a word whose values were put in, or what is left of quotes. -/
inductive Mark where
  /-- A byte; one of an unquoted value may separate fields. -/
  | byte (g : Glyph) (isValue : Bool)
  /-- Quotes: the field is there even if it is empty. -/
  | quotes
  /-- Nothing at all was put in: a word of this and quotes makes no field. -/
  | vanished
  /-- The end of a field. -/
  | cut

namespace Expansion

def ofValue (quoted : Bool) (value : Bytes) : List Mark :=
  value.map fun c => .byte ⟨c, quoted⟩ (!quoted)

def separators : Act Bytes := return (← value? ['I', 'F', 'S']).getD [' ', '\t', '\n']

def ofArgs (together quoted : Bool) : Act (List Mark) := do
  let args := (← get).args
  if together && quoted then
    let between := match ← value? ['I', 'F', 'S'] with
      | none => [' ']
      | some s => s.take 1
    return ofValue true (joinWith between args)
  else if args.isEmpty then return if quoted then [.vanished] else []
  else
    let marks := args.map fun a => if quoted then .quotes :: ofValue true a else ofValue false a
    let rec join : List (List Mark) → List Mark
      | [] => []
      | [m] => m
      | m :: ms => m ++ .cut :: join ms
    return join marks

def processId : Nat := 4711

/-- The value of a parameter that is no list. -/
def paramValue? (name : Bytes) : Act (Option Bytes) := do
  let s ← get
  let number := fun (n : Nat) => some (text (toString n))
  match name with
  | ['#'] => return number s.args.length
  | ['?'] => return number s.status
  | ['$'] => return number processId
  | ['-'] => return some s.options
  | ['!'] => return s.jobs.head?.map fun job => text (toString job.1)
  | ['*'] | ['@'] => return if s.args.isEmpty then none else some (joinWith [' '] s.args)
  | c :: _ =>
    if c.isDigit then
      let n : Nat := name.foldl (fun n c => n * 10 + (c.toNat - 48)) 0
      return if n = 0 then some s.name else s.args[n - 1]?
    else value? name
  | [] => return none

/-- Whether a parameter stands for all arguments. -/
def isList (name : Bytes) : Bool := name = ['@'] || name = ['*']

/-- The bytes of marks, fields with a blank between them. -/
def textOf (marks : List Mark) : Bytes :=
  marks.flatMap fun m => match m with
    | .byte g _ => [g.c]
    | .cut => [' ']
    | .quotes | .vanished => []

/-- The glyphs of marks, fields with a blank between them. -/
def glyphsOf (marks : List Mark) : List Glyph :=
  marks.flatMap fun m => match m with
    | .byte g _ => [g]
    | .cut => [⟨' ', true⟩]
    | .quotes | .vanished => []

/-- Marks that came from the word of an unquoted parameter may separate fields as well. -/
def asValue (marks : List Mark) : List Mark :=
  marks.map fun m => match m with
    | .byte g _ => .byte g (!g.quoted)
    | m => m

def arithmetic (source : Bytes) : Act Bytes := do
  let wrong : String → Act Bytes := fun reason =>
    fail (text ("arithmetic expression: " ++ reason ++ ": \"") ++ source ++ ['"'])
  match Arith.parse source with
  | .error reason => wrong reason
  | .ok e =>
    let s ← get
    let look := fun (name : Bytes) => ((s.vars.lookup name).bind (·.value)).getD []
    match e.eval look [] with
    | .error (.wrong reason) => wrong reason
    | .error (.notNumber value) => fail (text "Illegal number: " ++ value)
    | .ok (n, assigned) =>
      assigned.reverse.forM fun (name, n) => assign name (text (toString n))
      return text (toString n)

/-- An unset parameter, where that is an error. -/
def checkSet (name : Bytes) (value : Option Bytes) : Act Bytes := do
  match value with
  | some v => return v
  | none =>
    if (← hasOption 'u') && !isList name && name ≠ ['!'] then
      fail (name ++ text ": parameter not set")
    else return []

mutual

/-- The marks of a piece; `output` runs a command for what it writes. -/
def piece (output : Command → Act Bytes) : Piece → Act (List Mark)
  | .char c quoted => return [.byte ⟨c, quoted⟩ false]
  | .quotes => return [.quotes]
  | .command body quoted => return ofValue quoted (← output body)
  | .arithmetic body quoted => do
    let marks ← pieces output body
    return ofValue quoted (← arithmetic (textOf marks))
  | .param name use arg quoted => do
    let value ← paramValue? name
    let whole : Act (List Mark) := do
      if isList name then ofArgs (name = ['*']) quoted
      else return ofValue quoted (← checkSet name value)
    let present := fun (emptyToo : Bool) => match value with
      | none => false
      | some v => !(emptyToo && v.isEmpty)
    match use with
    | .value => whole
    | .length => return ofValue quoted (text (toString (← checkSet name value).length))
    | .orElse emptyToo =>
      if present emptyToo then whole
      else
        let marks ← pieces output arg
        return if quoted then marks else asValue marks
    | .ifSet emptyToo =>
      if present emptyToo then
        let marks ← pieces output arg
        return if quoted then marks else asValue marks
      else return []
    | .orAssign emptyToo =>
      if present emptyToo then whole
      else
        let new := textOf (← pieces output arg)
        if !isName name then fail (name ++ text ": bad variable name")
        assign name new
        return ofValue quoted new
    | .orFail emptyToo =>
      if present emptyToo then whole
      else
        let message := textOf (← pieces output arg)
        fail (name ++ text ": " ++
          if !arg.isEmpty then message
          else text ("parameter not set" ++ if emptyToo then " or null" else ""))
    | .dropStart longest => do
      let value ← checkSet name value
      let pattern := Glob.ofGlyphs (glyphsOf (← pieces output arg))
      return ofValue quoted (Glob.dropStart longest pattern value)
    | .dropEnd longest => do
      let value ← checkSet name value
      let pattern := Glob.ofGlyphs (glyphsOf (← pieces output arg))
      return ofValue quoted (Glob.dropEnd longest pattern value)
    | .unknown => fail (text "Bad substitution")
termination_by structural p => p

def pieces (output : Command → Act Bytes) : List Piece → Act (List Mark)
  | [] => return []
  | p :: ps => return (← piece output p) ++ (← pieces output ps)
termination_by structural p => p

end

/-- A word with the home directory in the place of a tilde at its start. -/
def homeFor (w : Word) : Act Word := do
  match w with
  | .char '~' false :: rest =>
    let alone := match rest with
      | [] | .char '/' false :: _ => true
      | _ => false
    match alone, ← value? (text "HOME") with
    | true, some home => return home.map (.char · true) ++ rest
    | _, _ => return w
  | w => return w

def word (output : Command → Act Bytes) (w : Word) : Act (List Mark) := do
  pieces output (← homeFor w)

/-! ## Splitting -/

inductive Ended where
  | start | byBlank | bySeparator
deriving DecidableEq

/-- Splits marks into fields. `field` is the one that has begun, in reverse. -/
def split (separators : Bytes) : (field : Option (List Glyph)) → Ended → List Mark →
    List (List Glyph)
  | field, _, [] => (field.map List.reverse).toList
  | field, ended, .byte g isValue :: marks =>
    if isValue && !g.quoted && separators.contains g.c then
      let blank := g.c = ' ' || g.c = '\t' || g.c = '\n'
      match field with
      | some f => f.reverse :: split separators none (if blank then .byBlank else .bySeparator) marks
      | none =>
        if blank then split separators none ended marks
        else if ended = .byBlank then split separators none .bySeparator marks
        else [] :: split separators none .bySeparator marks
    else split separators (some (g :: field.getD [])) ended marks
  | field, ended, .quotes :: marks => split separators (some (field.getD [])) ended marks
  | field, ended, .vanished :: marks => split separators field ended marks
  | field, _, .cut :: marks => (field.map List.reverse).toList ++ split separators none .start marks

/-- Whether marks are nothing but quotes around nothing. -/
def isVanished (marks : List Mark) : Bool :=
  (marks.any fun m => match m with
    | .vanished => true
    | _ => false) &&
  marks.all fun m => match m with
    | .vanished | .quotes => true
    | _ => false

/-- The file names that a field matches, or the field itself. -/
def fileNames (field : List Glyph) : Act (List Bytes) := do
  if !Glob.isPattern field || (← hasOption 'f') then return [Glob.textOf field]
  let s ← get
  let place := fun (path : Bytes) =>
    if path.isEmpty then some s.current else s.files.resolve? s.current (decodeBytes path)
  let names := fun (path : Bytes) =>
    ((place path).map fun p => (s.files.list p).map bytesOf).getD []
  let holds := fun (path : Bytes) => (place path).any s.files.holds
  let found := Glob.expand names holds [] (Glob.pieces field)
  return if found.isEmpty then [Glob.textOf field] else found

def fields (output : Command → Act Bytes) (w : Word) : Act (List Bytes) := do
  let marks ← word output w
  if isVanished marks then return []
  let found ← (split (← separators) none .start marks).mapM fileNames
  return found.flatten

def allFields (output : Command → Act Bytes) (ws : List Word) : Act (List Bytes) := do
  return (← ws.mapM (fields output)).flatten

/-- The text of a word that is not split. -/
def one (output : Command → Act Bytes) (w : Word) : Act Bytes := do
  return textOf (← word output w)

def document (output : Command → Act Bytes) (w : Word) : Act Bytes := do
  return textOf (← pieces output w)

/-- The glyphs of a word that is not split. -/
def pattern (output : Command → Act Bytes) (w : Word) : Act (List Glob.Item) := do
  return Glob.ofGlyphs (glyphsOf (← word output w))

end Expansion

end Remedy.Shell
