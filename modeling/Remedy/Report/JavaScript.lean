import Remedy.Report.Basic

/-!
# JavaScript reports

A text that cannot be read is reported with a header that names file and line; an exception comes
with a stack whose innermost frame is the first.
-/

namespace Remedy.Report.JavaScript

open Remedy.Text

def header : Pattern :=
  .all [.textStart, .group 1 (.all [.some .inked, .lit ".", .optional (.lit "m"), .lit "js"]),
    .lit ":", .group 2 .digits, .textEnd]

/-- The line that says why a text cannot be read. -/
def syntaxLine : Pattern :=
  .all [.textStart, .lit "SyntaxError:", .blanks, .group 1 (.many .inLine), .textEnd]

/-- The line of an exception and what it says. -/
def exceptionLine : Pattern :=
  .all [.textStart, .optional (.all [.lit "Uncaught", .someBlanks]),
    .group 1 (.all [.many .wordChar, .oneOf ["Error", "Exception"]]), .lit ":", .blanks,
    .group 2 (.many .inLine), .textEnd]

def frame : Pattern :=
  .all [.textStart, .blanks, .lit "at", .someBlanks,
    .optional (.all [.fewest .inLine, .lit "("]),
    .group 1 (.someFewest (.char fun c => c != '(' && c != ')' && !isBlank c)), .lit ":",
    .group 2 .digits, .lit ":", .group 3 .digits, .optional (.lit ")"), .textEnd]

def unreadable? (stderr source : String) : Option ErrorRecord := do
  let report := lines stderr.toList
  let (_, m, _) ← firstSome? (fun line => syntaxLine.find? (trim line)) report
  let message := trimmed (m.group 1)
  match firstSome? (fun line => header.find? (trim line)) report with
  | some (_, h, rest) =>
    some (recordAt .parse message source (lineNumber? (h.group 2)) (rest.drop 1).head?)
  | none => some (recordAt .parse message source none none)

/-- The line of a place in a file, given a match with file and line. -/
def lineIn? (file : String) (m : Pattern.Found) : Option Nat :=
  if isFile (m.group 1) file then lineNumber? (m.group 2) else none

/-- The line of the innermost frame in the user's file, or else of a header. -/
def innermost? (file : String) (report : List (List Char)) : Option Nat :=
  (report.findSome? fun line => (frame.find? line).bind (lineIn? file)).or
    (report.findSome? fun line => (header.find? (trim line)).bind (lineIn? file))

def stack? (stderr source file : String) : Option ErrorRecord := do
  let report := lines stderr.toList
  let m ← report.findSome? fun line => exceptionLine.find? (trim line)
  let name := m.group 1
  let message := trimmed (m.group 2)
  let kind :=
    if name = "RangeError" ∧ occursIn "call stack" message then .recursion
    else ErrorKind.ofExceptionName name
  some (recordAt kind message source (innermost? file report) none)

end Remedy.Report.JavaScript
