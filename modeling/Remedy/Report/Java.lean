import Remedy.Report.Basic

/-!
# Reports on Java programs
-/

namespace Remedy.Report.Java

open Remedy.Text

def compilerError : Pattern :=
  .all [.lineStart, .some (.char fun c => !isBlank c && c != ':'), .lit ".java:",
    .group 1 .digits, .lit ":", .blanks, .lit "error:", .blanks, .group 2 (.some .inLine),
    .lineEnd]

/-- An exception that nothing caught: its class and what it says. -/
def uncaught : Pattern :=
  .all [.lit "Exception in thread \"", .many (.noneOf "\""), .lit "\"", .someBlanks,
    .group 1 (.some (.char fun c => isWordChar c || c == '.' || c == '$')),
    .optional (.all [.lit ":", .blanks, .group 2 (.many .inLine)])]

def frame : Pattern :=
  .all [.textStart, .blanks, .lit "at", .someBlanks,
    .some (.char fun c => isWordChar c || ".$<>".toList.contains c), .lit "(",
    .group 1 (.all [.some (.char fun c => isWordChar c || c == '$'), .lit ".java"]), .lit ":",
    .group 2 .digits, .lit ")"]

def compileError? (stderr source : String) : Option ErrorRecord :=
  (compilerError.find? stderr.toList).map fun m =>
    compilerRecord source (m.group 1) (m.group 2)

def stack? (stderr source file : String) : Option ErrorRecord := do
  let m ← uncaught.find? stderr.toList
  let name := String.ofList (afterLast '.' (m.group 1).toList)
  let said := ((m.group? 2).map trimmed).getD ""
  let line := (lines stderr.toList).findSome? fun text =>
    ((frame.find? text).filter fun f => isFile (f.group 1) file).bind
      fun f => lineNumber? (f.group 2)
  some (recordAt (ErrorKind.ofExceptionName name) (if said.isEmpty then name else said) source line
    none)

end Remedy.Report.Java
