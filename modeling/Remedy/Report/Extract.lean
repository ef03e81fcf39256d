import Remedy.Report.Go
import Remedy.Report.Java
import Remedy.Report.JavaScript
import Remedy.Report.Native
import Remedy.Report.Python
import Remedy.Report.Shell

/-!
# From a failed run to an error record

A report on a text that could not be read or compiled comes first, then a stack of calls, then the
signal that ended the run. What the limits stopped is told by its status alone.
-/

namespace Remedy

open Remedy.Text

namespace Report

/-- The record of a text that could not be read or compiled. -/
def diagnostic? (r : RunResult) (source : String) : Option ErrorRecord :=
  match r.language with
  | .python => Python.unreadable? r.stderr source
  | .javaScript => JavaScript.unreadable? r.stderr source
  | .c | .cpp => if r.status = .compileFailed then Native.compileError? r.stderr source else none
  | .java => if r.status = .compileFailed then Java.compileError? r.stderr source else none
  | .go => if r.status = .compileFailed then Go.compileError? r.stderr source else none
  | .shell => Shell.error? r.stderr source

/-- The record of an error that unwound the stack of calls. -/
def unwound? (r : RunResult) (source : String) : Option ErrorRecord :=
  match r.language with
  | .python => Python.traceback? r.stderr source (userFile r)
  | .javaScript => JavaScript.stack? r.stderr source (userFile r)
  | .java => Java.stack? r.stderr source (userFile r)
  | .go => Go.panicked? r.stderr source (userFile r)
  | .c | .cpp => Native.terminated? r.stderr
  | .shell => none

/-- A word for an error, a colon after it. -/
def errorWord : Pattern :=
  .all [.group 1 (.all [.some .wordChar, .oneOf ["Error", "Exception", "Warning"]]), .lit ":"]

/-- The kind that the last line naming an error names. -/
def kindOf? (stderr : String) : Option ErrorKind :=
  (lastSome? errorWord.find? (lines stderr.toList)).map fun (_, m, _) =>
    ErrorKind.ofExceptionName (m.group 1)

end Report

/-- Why a run failed; no error if it did not, and if its report says nothing that is known. -/
def ErrorRecord.ofRun (r : RunResult) (source : String) : ErrorRecord :=
  match r.status with
  | .spawnFailed => noError
  | .timedOut => ofKind .timedOut (Report.trimmed r.stderr)
  | .memoryExceeded =>
    match Report.unwound? r source with
    | some unwound =>
      { ofKind .memoryExceeded "memory limit exceeded" with
        line := unwound.line, snippet := unwound.snippet }
    | none => ofKind .memoryExceeded "memory limit exceeded"
  | .completed | .compileFailed =>
    if r.status = .completed ∧ r.exitCode = 0 then noError
    else
      (((Report.diagnostic? r source).or (Report.unwound? r source)).or
        (Report.Native.crash? r source)).getD noError

end Remedy
