import Remedy.Sandbox.Limits
import Remedy.Sandbox.Result
import Remedy.Sandbox.Toolchain
import Remedy.Text.Blank

/-!
# Running a program

A run stores the source in a fresh working directory, starts the compile step if there is one, and
starts the program unless the compile step failed. Whatever the steps do, the outcome is one result;
the run keeps a log of the steps that it attempted.
-/

namespace Remedy

open Text

/-- What a step is confined to: seconds of processor time, and bytes of address space. -/
structure Confinement where
  cpuSecs : Nat
  memoryBytes : Option Nat
deriving Repr, DecidableEq

inductive Ending where
  | exited (code : Int)
  | killed (signal : Nat)
  /-- Still running at its deadline. -/
  | overdue
  /-- It could not be started. -/
  | notStarted (reason : String)
deriving Repr, DecidableEq, Inhabited

namespace Ending

/-- The signal of a process that used up its processor time. -/
def cpuSignal : Nat := 24

/-- The exit code of a step that ended: its own, or 128 and the signal that killed it. -/
def exitCode? : Ending → Option Int
  | exited code => some code
  | killed signal => some (128 + signal)
  | overdue | notStarted _ => none

end Ending

/-- A step that was started: how it ended, what it wrote, and how long it took. -/
structure Step where
  ending : Ending
  stdout : String := ""
  stderr : String := ""
  ms : Nat := 0
deriving Repr, DecidableEq, Inhabited

inductive Phase where
  | compile
  | run
deriving Repr, DecidableEq, Inhabited

/-- A step that was attempted, whether or not it could be started. -/
structure Attempt where
  phase : Phase
  command : List String
  step : Step
deriving Repr, DecidableEq, Inhabited

/-- The course of a run so far: what the last step left, and the steps attempted, in order. -/
structure Course (σ : Type) where
  state : σ
  attempts : List Attempt := []

/-- Where steps run. The state is all that a step may leave to the next one, such as files. -/
structure Machine (σ : Type) where
  /-- A working directory that holds one file, or why there is none. -/
  store : (fileName source : String) → Except String σ
  /-- Starts a program with arguments, to be killed after some seconds. -/
  start : (program : String) → (args : List String) → (seconds : Nat) → Confinement → σ → Step × σ

namespace Machine

variable {σ : Type}

/-- Attempts a step; the empty command cannot be started. -/
def step (m : Machine σ) (phase : Phase) (command : List String) (seconds : Nat)
    (confinement : Confinement) : StateM (Course σ) Step := fun p =>
  let (step, state) : Step × σ :=
    match command with
    | [] => ({ ending := .notStarted "empty command" }, p.state)
    | program :: args => m.start program args seconds confinement p.state
  (step, { state, attempts := p.attempts ++ [⟨phase, command, step⟩] })

/-! ## Results of the steps -/

def memoryMarkers : List String :=
  ["MemoryError", "std::bad_alloc", "Cannot allocate memory", "OutOfMemoryError", "out of memory",
    "JavaScript heap out of memory"]

def tellsOfMemory (stderr : String) : Bool := memoryMarkers.any fun m => occursIn m stderr

/-- A text that a further line can follow. -/
def withLineEnd (s : String) : String :=
  if s.isEmpty || s.toList.getLast? == some '\n' then s else s ++ "\n"

/-- What a failed compile step reports: its error output, or its output if that is blank. -/
def compileReport (s : Step) : String :=
  if isBlankText s.stderr.toList then s.stdout else s.stderr

/-- The result of a compile step after which the program is not run. -/
def compileResult? (language : Language) (limits : Limits) (command : List String) (s : Step) :
    Option RunResult :=
  let timings : Timings := { compileMs := some s.ms }
  match s.ending with
  | .notStarted reason => some { RunResult.spawnFailed language command reason with timings }
  | .overdue => some
      { language, status := .timedOut, exitCode := RunResult.timeoutExitCode, stdout := s.stdout
        stderr :=
          "compilation timed out after " ++ toString limits.compileTimeoutSecs ++ "s"
        command, timings }
  | ending =>
    match ending.exitCode? with
    | none | some 0 => none
    | some exitCode => some
        { language, status := .compileFailed, exitCode, stdout := s.stdout
          stderr := compileReport s, command, timings }

def runResult (language : Language) (limits : Limits) (command : List String)
    (compileMs : Option Nat) (s : Step) : RunResult :=
  let timings : Timings := { compileMs, runMs := some s.ms }
  let ended := fun (status : RunStatus) (exitCode : Int) (stderr : String) =>
    { language, status, exitCode, stdout := s.stdout, stderr, command, timings : RunResult }
  match s.ending with
  | .notStarted reason => { RunResult.spawnFailed language command reason with timings }
  | .overdue =>
    ended .timedOut RunResult.timeoutExitCode
      ("execution timed out after " ++ toString limits.timeoutSecs ++ "s")
  | .exited code =>
    if code ≠ 0 ∧ tellsOfMemory s.stderr then ended .memoryExceeded code s.stderr
    else ended .completed code s.stderr
  | .killed signal =>
    if signal = Ending.cpuSignal then
      ended .timedOut RunResult.timeoutExitCode (withLineEnd s.stderr ++ "cpu time limit exceeded")
    else if tellsOfMemory s.stderr then ended .memoryExceeded (128 + signal) s.stderr
    else ended .completed (128 + signal) s.stderr

/-! ## The run -/

/-- Starts the program; the compile step, if any, took some time. -/
def runProgram (m : Machine σ) (t : Toolchain) (limits : Limits) (source : String)
    (language : Language) (compileMs : Option Nat) : StateM (Course σ) RunResult := do
  let command := t.runCommandFor source
  let confinement : Confinement :=
    ⟨Limits.cpuSecs limits.timeoutSecs, if t.limitsMemory then some limits.memoryBytes else none⟩
  let s ← m.step .run command limits.timeoutSecs confinement
  return runResult language limits command compileMs s

/-- Runs a program with its toolchain in a working directory that holds its source. -/
def runIn (m : Machine σ) (t : Toolchain) (limits : Limits) (source : String)
    (language : Language) : StateM (Course σ) RunResult :=
  match t.compileCommand? source with
  | none => m.runProgram t limits source language none
  | some command => do
    let s ← m.step .compile command limits.compileTimeoutSecs
      ⟨Limits.cpuSecs limits.compileTimeoutSecs, none⟩
    match compileResult? language limits command s with
    | some result => return result
    | none => m.runProgram t limits source language (some s.ms)

def run (m : Machine σ) (table : ToolchainTable) (source : String) (language : Language)
    (limits : Limits) : Except SandboxFault RunResult := do
  limits.validate
  match table.get? language with
  | none => throw (.unsupportedLanguage language)
  | some t =>
    match m.store (t.fileName source) source with
    | .error reason => throw (.io reason)
    | .ok state =>
      let (result, _) := m.runIn t limits source language { state }
      pure result

/-- Runs the program in a file, if there is one, under limits with the usual compile limit. -/
def runFile (m : Machine σ) (table : ToolchainTable) (content : Option String)
    (language : Language) (timeoutSecs memoryLimitMb : Nat) : Except SandboxFault RunResult :=
  match content with
  | none => throw (.io "No such file or directory (os error 2)")
  | some source => m.run table source language (.ofRun timeoutSecs memoryLimitMb)

end Machine

end Remedy
