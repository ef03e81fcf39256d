import Remedy.Diagnosis.Record
import Remedy.Sandbox.Result
import Remedy.Text.Pattern
import Remedy.Text.Search

/-!
# Reading error reports

What the reports of all languages share: a line number, the user's own file among other files, the
line of the text that a record shows, and the kind that the wording of a compiler suggests.
-/

namespace Remedy.Report

open Remedy.Text

/-- The first element that has a value: the elements before it, the value, and the rest from the
element on. -/
def firstSome? {α β : Type} (f : α → Option β) : List α → Option (List α × β × List α)
  | [] => none
  | a :: as =>
    match f a with
    | some b => some ([], b, a :: as)
    | none => (firstSome? f as).map fun (before, b, rest) => (a :: before, b, rest)

/-- The last element that has a value: the elements before it, the value, and the rest from the
element on. -/
def lastSome? {α β : Type} (f : α → Option β) : List α → Option (List α × β × List α)
  | [] => none
  | a :: as =>
    match lastSome? f as with
    | some (before, b, rest) => some (a :: before, b, rest)
    | none => (f a).map fun b => ([], b, a :: as)

/-- A line number in ASCII digits, if it fits into 32 bits. -/
def lineNumber? (s : String) : Option Nat :=
  let digits := s.toList
  if digits.isEmpty || !digits.all Char.isDigit then none
  else
    let n := digits.foldl (fun n c => n * 10 + (c.toNat - 48)) 0
    if n < 0x100000000 then some n else none

/-- The name of the file that the user's program was written to: a file of the command with an
extension of the language, or else the usual one. -/
def userFile (r : RunResult) : String :=
  let named? := r.command.findSome? fun argument =>
    let name := afterLast '/' argument.toList
    match splitLast? '.' name with
    | some (_, extension) =>
      if Language.ofExtension? (String.ofList extension) = some r.language then
        some (String.ofList name)
      else none
    | none => none
  match named? with
  | some name => name
  | none =>
    match r.language with
    | .java => (r.command.getLast?.getD "Main") ++ ".java"
    | .python => "main.py"
    | .c => "main.c"
    | .cpp => "main.cpp"
    | .javaScript => "main.js"
    | .go => "main.go"
    | .shell => "main.sh"

def isFile (path file : String) : Bool := afterLast '/' path.toList == file.toList

/-- The line of the text that a record shows: the one with its number, or else the one that the
report printed. -/
def snippet? (source : String) (line : Option Nat) (printed : Option (List Char)) :
    Option String :=
  (line.bind (sourceLine? source)).or
    (printed.bind fun text => if (trim text).isEmpty then none else some (String.ofList (trim text)))

def recordAt (kind : ErrorKind) (message source : String) (line : Option Nat)
    (printed : Option (List Char)) : ErrorRecord :=
  { ErrorRecord.ofKind kind message with line, snippet := snippet? source line printed }

def trimmed (s : String) : String := String.ofList (trim s.toList)

/-- The kind that the wording of a compiler suggests. -/
def kindOfWording (message : String) : ErrorKind :=
  let m := message.toList
  let tells := fun (pieces : List String) => pieces.any fun p => occursFolded p m
  if tells ["syntax error", "expected", "unexpected", "unterminated", "unclosed"] then .parse
  else if tells ["undeclared", "was not declared", "cannot find symbol", "implicit declaration"]
      || "undefined:".toList.isPrefixOf (foldAscii m) then .unresolvedReference
  else if tells ["incompatible", "cannot convert", "invalid conversion", "cannot use",
      "mismatched types"] then .type
  else .compile

def compilerRecord (source line message : String) : ErrorRecord :=
  recordAt (kindOfWording (trimmed message)) (trimmed message) source (lineNumber? line) none

end Remedy.Report
