import Remedy.Report.Basic

/-!
# Reports on Go programs
-/

namespace Remedy.Report.Go

open Remedy.Text

/-- An error of the compiler: its line and what it says. -/
def compilerError : Pattern :=
  .all [.lineStart, .many .inked, .lit ".go:", .group 1 .digits, .lit ":",
    .optional (.all [.digits, .lit ":"]), .blanks, .group 2 (.some .inLine), .lineEnd]

def panicLine : Pattern :=
  .all [.lineStart, .lit "panic:", .blanks, .group 1 (.some .inLine), .lineEnd]

/-- A frame: its file and its line. -/
def frame : Pattern :=
  .all [.textStart, .someBlanks, .group 1 (.all [.some .inked, .lit ".go"]), .lit ":",
    .group 2 .digits]

def kindOfPanic (message : String) : ErrorKind :=
  let tells := fun (pieces : List String) => pieces.any fun p => occursFolded p message.toList
  if tells ["divide by zero"] then .divideByZero
  else if tells ["index out of range", "slice bounds out of range"] then .index
  else if tells ["nil pointer", "invalid memory address", "nil map"] then .nullReference
  else if tells ["stack overflow"] then .recursion
  else .panic

def compileError? (stderr source : String) : Option ErrorRecord :=
  (compilerError.find? stderr.toList).map fun m =>
    compilerRecord source (m.group 1) (m.group 2)

def panicked? (stderr source file : String) : Option ErrorRecord := do
  let m ← panicLine.find? stderr.toList
  let message := trimmed (m.group 1)
  let line := (lines stderr.toList).findSome? fun text =>
    ((frame.find? text).filter fun f => isFile (f.group 1) file).bind
      fun f => lineNumber? (f.group 2)
  some (recordAt (kindOfPanic message) message source line none)

end Remedy.Report.Go
