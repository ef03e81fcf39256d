import Remedy.Sandbox.Language

/-!
# Results of a run
-/

namespace Remedy

/-- How a run ended. -/
inductive RunStatus where
  /-- The program ended, with any exit code. -/
  | completed
  /-- The compile step failed and the program did not run. -/
  | compileFailed
  /-- Killed at the deadline or by the limit on processor time. -/
  | timedOut
  /-- The program hit the memory limit. -/
  | memoryExceeded
  /-- The command could not be started. -/
  | spawnFailed
deriving Repr, DecidableEq, Inhabited

def RunStatus.isResourceViolation : RunStatus → Bool
  | .timedOut | .memoryExceeded => true
  | _ => false

/-- The durations of the steps in milliseconds. -/
structure Timings where
  compileMs : Option Nat := none
  runMs : Option Nat := none
deriving Repr, DecidableEq, Inhabited

/-- The whole duration, counted in 64 bits. -/
def Timings.totalMs (t : Timings) : Nat :=
  (t.compileMs.getD 0 + t.runMs.getD 0) % 0x10000000000000000

structure RunResult where
  language : Language
  status : RunStatus
  exitCode : Int
  stdout : String
  stderr : String
  /-- The command that was attempted last. -/
  command : List String
  timings : Timings := {}
deriving Repr, DecidableEq, Inhabited

namespace RunResult

/-- The exit code of a run that was killed at its deadline. -/
def timeoutExitCode : Int := 124

/-- The exit code of a command that could not be started. -/
def spawnExitCode : Int := 127

def spawnFailed (language : Language) (command : List String) (reason : String) : RunResult :=
  { language, status := .spawnFailed, exitCode := spawnExitCode, stdout := "", stderr := reason,
    command }

/-- Whether the program ended with exit code zero. -/
def succeeded (r : RunResult) : Bool := r.status = .completed && r.exitCode = 0

/-- Whether the run was killed at a deadline. -/
def timedOut (r : RunResult) : Bool := r.status = .timedOut

@[simp] theorem succeeded_spawnFailed (language : Language) (command : List String)
    (reason : String) : (spawnFailed language command reason).succeeded = false := rfl

theorem succeeded_iff {r : RunResult} :
    r.succeeded = true ↔ r.status = .completed ∧ r.exitCode = 0 := by
  simp [succeeded]

end RunResult

end Remedy
