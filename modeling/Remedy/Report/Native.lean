import Remedy.Report.Basic

/-!
# Reports on C and C++ programs

Messages of the compiler and the linker, the message of an exception that nothing caught, and the
signal that ended a run.
-/

namespace Remedy.Report.Native

open Remedy.Text

def compilerError : Pattern :=
  .all [.lineStart, .many (.char fun c => !isBlank c && c != ':'), .lit ".",
    .oneOf ["c", "cc", "cpp", "cxx", "h", "hpp"], .lit ":", .group 1 .digits, .lit ":", .digits,
    .lit ":", .blanks, .optional (.all [.lit "fatal", .someBlanks]), .lit "error:", .blanks,
    .group 2 (.some .inLine), .lineEnd]

/-- A name that the linker misses. -/
def undefinedReference : Pattern :=
  .all [.lit "undefined reference to ", .among "\x60'", .group 1 .word, .lit "'"]

/-- The class of an exception that nothing caught. -/
def uncaught : Pattern :=
  .all [.lit "terminate called after throwing an instance of '",
    .group 1 (.some (.char fun c => isWordChar c || c == ':')), .lit "'"]

/-- An assertion that failed: its line and its text. -/
def failedAssertion : Pattern :=
  .all [.lit ".", .oneOf ["c", "cc", "cpp", "cxx"], .lit ":", .group 1 .digits, .lit ":",
    .many .inLine, .lit "Assertion", .someBlanks, .among "\x60'", .group 2 (.some .inLine),
    .lit "' failed"]

def compileError? (stderr source : String) : Option ErrorRecord :=
  let text := stderr.toList
  match compilerError.find? text with
  | some m => some (compilerRecord source (m.group 1) (m.group 2))
  | none =>
    (undefinedReference.find? text).map fun m =>
      .ofKind .link ("undefined reference to '" ++ m.group 1 ++ "'")

def terminated? (stderr : String) : Option ErrorRecord :=
  (uncaught.find? stderr.toList).map fun m =>
    let name := m.group 1
    let kind := match name with
      | "std::out_of_range" => .index
      | "std::invalid_argument" => .value
      | "std::bad_alloc" => .memoryExceeded
      | _ => ErrorKind.runtime name
    .ofKind kind name

/-- The exit code of a run that a signal ended. -/
def signalled (signal : Int) : Int := 128 + signal

/-- The record of a run that a signal ended, for the signals of a crash. -/
def crash? (r : RunResult) (source : String) : Option ErrorRecord :=
  if r.status ≠ .completed then none
  else if r.exitCode = signalled 11 then
    some (.ofKind .segmentationFault "segmentation fault")
  else if r.exitCode = signalled 8 then some (.ofKind .divideByZero "floating point exception")
  else if r.exitCode = signalled 6 then
    match failedAssertion.find? r.stderr.toList with
    | some m =>
      some (recordAt .assertion ("assertion \x60" ++ m.group 2 ++ "\x60 failed") source
        (lineNumber? (m.group 1)) none)
    | none => some (.ofKind (.runtime "Abort") "aborted")
  else none

end Remedy.Report.Native
