import Remedy.Report.Basic

/-!
# Python reports

A text that cannot be read is reported with a frame and the kind of mistake; an exception ends a
traceback whose innermost frame comes last.
-/

namespace Remedy.Report.Python

open Remedy.Text

/-- The last line of a report on a text that cannot be read. -/
def syntaxLine : Pattern :=
  .all [.textStart, .group 1 (.oneOf ["SyntaxError", "IndentationError", "TabError"]), .lit ":",
    .blanks, .group 2 (.many .inLine), .textEnd]

def frame : Pattern :=
  .all [.lit "File", .someBlanks, .lit "\"", .group 1 (.some (.noneOf "\"")), .lit "\",",
    .someBlanks, .lit "line", .someBlanks, .group 2 .digits]

/-- The last line of a traceback: the exception and what it says. -/
def exceptionLine : Pattern :=
  .all [.textStart,
    .group 1 (.all [.many (.char fun c => isWordChar c || c == '.'),
      .oneOf ["Error", "Exception", "Warning", "Exit", "Interrupt", "Iteration"]]),
    .optional (.all [.lit ":", .blanks, .group 2 (.many .inLine)]), .textEnd]

def unreadable? (stderr source : String) : Option ErrorRecord := do
  let (before, m, after) ← lastSome? (fun line => syntaxLine.find? (trim line)) (lines stderr.toList)
  let kind := ErrorKind.ofExceptionName (m.group 1)
  let message := trimmed (m.group 2)
  match lastSome? frame.find? before with
  | some (_, f, rest) =>
    some (recordAt kind message source (lineNumber? (f.group 2)) (rest.drop 1 ++ after).head?)
  | none => some (recordAt kind message source none none)

/-- The innermost frame in the user's file: its line, and the line of the report after it. -/
def innermost? (file : String) (report : List (List Char)) :
    Option (Option Nat × Option (List Char)) :=
  (lastSome? (fun line => (frame.find? line).filter fun f => isFile (f.group 1) file) report).map
    fun (_, f, rest) => (lineNumber? (f.group 2), (rest.drop 1).head?)

/-- Whether a line of a report shows the program and is neither a frame nor a marker. -/
def showsProgram (line : List Char) : Bool :=
  !"File ".toList.isPrefixOf (trimStart line) && !(['^'].isPrefixOf (trim line))

def traceback? (stderr source file : String) : Option ErrorRecord := do
  let report := lines stderr.toList
  let (_, m, _) ← lastSome?
    (fun line => if line.head? = some ' ' then none else exceptionLine.find? (trimEnd line)) report
  let name := String.ofList (afterLast '.' (m.group 1).toList)
  let message := ((m.group? 2).map trimmed).getD name
  let (line, next) := (innermost? file report).getD (none, none)
  some (recordAt (ErrorKind.ofExceptionName name) message source line (next.filter showsProgram))

end Remedy.Report.Python
