import Remedy.Sandbox.Language

/-!
# Limits of a run, and faults of the sandbox

A program that crashes or runs too long is no fault: that is a result. A fault says that the sandbox
could not do its part.
-/

namespace Remedy

/-- Bounds of one run: seconds for the run and the compile step, and megabytes of address space. -/
structure Limits where
  timeoutSecs : Nat := 5
  compileTimeoutSecs : Nat := 10
  memoryLimitMb : Nat := 512
deriving Repr, DecidableEq, Inhabited

/-- Why the sandbox could not run a program. -/
inductive SandboxFault where
  | unsupportedLanguage (language : Language)
  | unknownExtension (path : String)
  | invalidConfig (reason : String)
  | io (reason : String)
deriving Repr, DecidableEq

def SandboxFault.message : SandboxFault → String
  | .unsupportedLanguage language => "no toolchain registered for " ++ language.name
  | .unknownExtension path => "cannot infer language from " ++ path
  | .invalidConfig reason => "invalid sandbox configuration: " ++ reason
  | .io reason => "sandbox i/o error: " ++ reason

namespace Limits

/-- Limits of a run, with the usual compile limit. -/
def ofRun (timeoutSecs memoryLimitMb : Nat) : Limits := { timeoutSecs, memoryLimitMb }

/-- The first limit that is zero is a fault. -/
def validate (limits : Limits) : Except SandboxFault Unit :=
  if limits.timeoutSecs = 0 then .error (.invalidConfig "timeout_secs must be > 0")
  else if limits.compileTimeoutSecs = 0 then
    .error (.invalidConfig "compile_timeout_secs must be > 0")
  else if limits.memoryLimitMb = 0 then .error (.invalidConfig "memory_limit_mb must be > 0")
  else .ok ()

/-- The address space in bytes, at most the largest 64-bit number. -/
def memoryBytes (limits : Limits) : Nat :=
  min (limits.memoryLimitMb * 0x100000) 0xffffffffffffffff

/-- The processor time for a step that may take some seconds: one second more, so that the deadline
comes first. It is counted in 64 bits, where the greatest number is followed by zero. -/
def cpuSecs (seconds : Nat) : Nat := (seconds + 1) % 0x10000000000000000

theorem validate_eq_ok_iff {limits : Limits} :
    limits.validate = .ok () ↔
      0 < limits.timeoutSecs ∧ 0 < limits.compileTimeoutSecs ∧ 0 < limits.memoryLimitMb := by
  unfold validate
  split
  · simp_all
  · split
    · simp_all
    · split
      · simp_all
      · simp; omega

end Limits

/-- The language of a file, or the fault that its path tells none. -/
def Language.detect (path : String) : Except SandboxFault Language :=
  match Language.ofPath? path with
  | some language => .ok language
  | none => .error (.unknownExtension path)

end Remedy
