import Remedy.Sandbox.Engine

/-!
# What a result tells of a run

A run attempts at most two steps, and its result is put together in one of many places: where the
compile step fails, where a step cannot be started, is late or is killed, and where the program ends.
`Contract` says what all of these results have in common: whoever reads a result learns from it which
steps were attempted and whether the program ended well. `Answers` says that the log of attempts is
what the machine answered, from one state to the next. `run_keeps_contract` is the law for every
machine, so for everything that the steps may do.

`Refuses` is the law for results of the compile step, `Reports` for those of the program, and
`Contract` follows from them by the log of the run.
-/

namespace Remedy

/-! ## What a run owes -/

/-- A step of a phase was attempted. -/
def Attempted (attempts : List Attempt) (phase : Phase) : Prop := ∃ a ∈ attempts, a.phase = phase

/-- A step of a phase was attempted and exited with code zero. -/
def EndedWell (attempts : List Attempt) (phase : Phase) : Prop :=
  ∃ a ∈ attempts, a.phase = phase ∧ a.step.ending = .exited 0

/-- A text with something to read in it. -/
def Inked (s : String) : Prop := Text.isBlankText s.toList = false

/-- What the result of a run tells of the steps that were attempted. -/
structure Contract (t : Toolchain) (attempts : List Attempt) (r : RunResult) : Prop where
  /-- No step is attempted twice, and none before the compile step. -/
  once : (attempts.map (·.phase)).Sublist [.compile, .run]
  compiles : Attempted attempts .compile ↔ t.compileStep.isSome
  runs : Attempted attempts .run ↔ t.compileStep = none ∨ EndedWell attempts .compile
  succeeds : r.succeeded = true ↔ EndedWell attempts .run
  fails : r.succeeded = false → r.exitCode ≠ 0
  compileMs : r.timings.compileMs.isSome ↔ t.compileStep.isSome
  runMs : r.timings.runMs.isSome ↔ Attempted attempts .run
  command : (attempts.getLast?.map (·.command)) = some r.command
  /-- What a compiler wrote to either stream does not get lost. -/
  report : r.status = .compileFailed → ∀ a ∈ attempts, a.phase = .compile →
    Inked a.step.stdout ∨ Inked a.step.stderr → Inked r.stderr

namespace Machine

variable {σ : Type}

/-- What comes of a command in a state: the machine's answer to the start of its program. The empty
command starts nothing and leaves the state alone. -/
inductive Starts (m : Machine σ) (seconds : Nat) (confinement : Confinement) :
    List String → σ → Step → σ → Prop
  | started {program : String} {args : List String} {state state' : σ} {s : Step}
      (answer : m.start program args seconds confinement state = (s, state')) :
      Starts m seconds confinement (program :: args) state s state'
  | empty (state : σ) :
      Starts m seconds confinement [] state { ending := .notStarted "empty command" } state

/-- The attempts of a run are what the machine answered on the way from one state to another. Each
phase has its own command and its own limits. -/
inductive Answers (m : Machine σ) (t : Toolchain) (limits : Limits) (source : String) :
    σ → List Attempt → σ → Prop
  | done (state : σ) : Answers m t limits source state [] state
  | compile {command : List String} {attempts : List Attempt} {state₀ state₁ state₂ : σ} {s : Step}
      (hcommand : t.compileCommand? source = some command)
      (hstart : m.Starts limits.compileTimeoutSecs
        ⟨Limits.cpuSecs limits.compileTimeoutSecs, none⟩ command state₀ s state₁)
      (rest : Answers m t limits source state₁ attempts state₂) :
      Answers m t limits source state₀ (⟨.compile, command, s⟩ :: attempts) state₂
  | run {attempts : List Attempt} {state₀ state₁ state₂ : σ} {s : Step}
      (hstart : m.Starts limits.timeoutSecs
        ⟨Limits.cpuSecs limits.timeoutSecs,
          if t.limitsMemory then some limits.memoryBytes else none⟩
        (t.runCommandFor source) state₀ s state₁)
      (rest : Answers m t limits source state₁ attempts state₂) :
      Answers m t limits source state₀ (⟨.run, t.runCommandFor source, s⟩ :: attempts) state₂

end Machine

theorem Ending.exitCode?_eq_zero_iff {e : Ending} : e.exitCode? = some 0 ↔ e = .exited 0 := by
  cases e with
  | exited code => simp [exitCode?]
  | killed signal =>
      simp only [exitCode?, Option.some.injEq, reduceCtorEq, iff_false]
      omega
  | overdue => simp [exitCode?]
  | notStarted reason => simp [exitCode?]

namespace Machine

variable {σ : Type} {t : Toolchain} {limits : Limits} {source : String} {language : Language}
  {command : List String} {s : Step}

/-! ## Results of the compile step -/

theorem inked_compileReport (h : Inked s.stdout ∨ Inked s.stderr) : Inked (compileReport s) := by
  unfold compileReport
  split
  · next hblank =>
      refine h.resolve_right fun hink => ?_
      rw [Inked, hblank] at hink
      cases hink
  · next hink => exact Bool.eq_false_iff.mpr hink

/-- A compile step that ended with an exit code lets the program run or reports a failure. -/
theorem compileResult?_of_exitCode {code : Int} (h : s.ending.exitCode? = some code) :
    compileResult? language limits command s =
      if code = 0 then none
      else some
        { language, status := .compileFailed, exitCode := code, stdout := s.stdout
          stderr := compileReport s, command, timings := { compileMs := some s.ms } } := by
  unfold compileResult?
  split
  · next reason hend => simp [hend, Ending.exitCode?] at h
  · next hend => simp [hend, Ending.exitCode?] at h
  · rw [h]
    split
    · next hcode => cases hcode
    · next hcode => rw [if_pos (Option.some.inj hcode)]
    · next code' hzero hcode =>
        obtain rfl := Option.some.inj hcode
        rw [if_neg fun hcode => hzero (by rw [hcode])]

/-- A result after which the program is not run. -/
structure Refuses (command : List String) (s : Step) (r : RunResult) : Prop where
  ending : s.ending ≠ .exited 0
  succeeded : r.succeeded = false
  exitCode : r.exitCode ≠ 0
  timings : r.timings = { compileMs := some s.ms }
  command : r.command = command
  report : r.status = .compileFailed → r.stderr = compileReport s

/-- Only a compile step that exited with code zero gives no result. -/
theorem compileResult?_cases (language : Language) (limits : Limits) (command : List String)
    (s : Step) :
    (compileResult? language limits command s = none ∧ s.ending = .exited 0) ∨
      ∃ r, compileResult? language limits command s = some r ∧ Refuses command s r := by
  have hspawn : RunResult.spawnExitCode ≠ 0 := by decide
  have hlate : RunResult.timeoutExitCode ≠ 0 := by decide
  cases hcode : s.ending.exitCode? with
  | none =>
      refine .inr ?_
      unfold compileResult?
      cases hend : s.ending with
      | exited code => simp [hend, Ending.exitCode?] at hcode
      | killed signal => simp [hend, Ending.exitCode?] at hcode
      | overdue => exact ⟨_, rfl, by simp [hend], rfl, hlate, rfl, rfl, nofun⟩
      | notStarted reason => exact ⟨_, rfl, by simp [hend], rfl, hspawn, rfl, rfl, nofun⟩
  | some code =>
      rw [compileResult?_of_exitCode hcode]
      split
      · next hzero => exact .inl ⟨rfl, Ending.exitCode?_eq_zero_iff.mp (by rw [hcode, hzero])⟩
      · next hzero =>
          have hend : s.ending ≠ .exited 0 := fun hend => by
            rw [Ending.exitCode?_eq_zero_iff.mpr hend] at hcode
            exact hzero (Option.some.inj hcode).symm
          exact .inr ⟨_, rfl, hend, rfl, hzero, rfl, rfl, fun _ => rfl⟩

/-! ## Results of the program -/

/-- A result of a program that was attempted. -/
structure Reports (command : List String) (compileMs : Option Nat) (s : Step) (r : RunResult) :
    Prop where
  succeeds : r.succeeded = true ↔ s.ending = .exited 0
  fails : r.succeeded = false → r.exitCode ≠ 0
  timings : r.timings = { compileMs, runMs := some s.ms }
  command : r.command = command
  status : r.status ≠ .compileFailed

/-- A result that is no success, for a step that did not exit with code zero. -/
theorem Reports.of_failed {compileMs : Option Nat} {r : RunResult} (hend : s.ending ≠ .exited 0)
    (hfailed : r.succeeded = false) (hcode : r.exitCode ≠ 0)
    (htimings : r.timings = { compileMs, runMs := some s.ms }) (hcommand : r.command = command)
    (hstatus : r.status ≠ .compileFailed) : Reports command compileMs s r where
  succeeds := by simp [hfailed, hend]
  fails _ := hcode
  timings := htimings
  command := hcommand
  status := hstatus

theorem reports_runResult (language : Language) (limits : Limits) (command : List String)
    (compileMs : Option Nat) (s : Step) :
    Reports command compileMs s (runResult language limits command compileMs s) := by
  have hspawn : RunResult.spawnExitCode ≠ 0 := by decide
  have hlate : RunResult.timeoutExitCode ≠ 0 := by decide
  unfold runResult
  cases hend : s.ending with
  | notStarted reason =>
      exact .of_failed (by simp [hend]) rfl hspawn rfl rfl (by simp [RunResult.spawnFailed])
  | overdue => exact .of_failed (by simp [hend]) rfl hlate rfl rfl (by simp)
  | exited code =>
      dsimp only
      split
      · next h => exact .of_failed (by simpa [hend] using h.1) rfl h.1 rfl rfl (by simp)
      · exact ⟨by simp [RunResult.succeeded, hend], by simp [RunResult.succeeded], rfl, rfl, by simp⟩
  | killed signal =>
      have hcode : (128 + signal : Int) ≠ 0 := by omega
      dsimp only
      split
      · exact .of_failed (by simp [hend]) rfl hlate rfl rfl (by simp)
      · split
        · exact .of_failed (by simp [hend]) rfl hcode rfl rfl (by simp)
        · exact .of_failed (by simp [hend]) (by simp [RunResult.succeeded, hcode]) hcode rfl rfl
            (by simp)

/-! ## The log of a run -/

/-- An attempt logs what came of its command. -/
theorem step_spec (m : Machine σ) (phase : Phase) (command : List String) (seconds : Nat)
    (confinement : Confinement) (p : Course σ) :
    ∃ s q, m.step phase command seconds confinement p = (s, q)
      ∧ m.Starts seconds confinement command p.state s q.state
      ∧ q.attempts = p.attempts ++ [⟨phase, command, s⟩] := by
  cases command with
  | nil => exact ⟨_, _, rfl, .empty p.state, rfl⟩
  | cons program args => exact ⟨_, _, rfl, .started rfl, rfl⟩

/-- The program is the last step that a run attempts. -/
theorem runProgram_spec (m : Machine σ) (t : Toolchain) (limits : Limits) (source : String)
    (language : Language) (compileMs : Option Nat) (p : Course σ) :
    ∃ r q s, m.runProgram t limits source language compileMs p = (r, q)
      ∧ m.Answers t limits source p.state [⟨.run, t.runCommandFor source, s⟩] q.state
      ∧ q.attempts = p.attempts ++ [⟨.run, t.runCommandFor source, s⟩]
      ∧ Reports (t.runCommandFor source) compileMs s r := by
  obtain ⟨s, q, hstep, hstart, hlog⟩ := m.step_spec .run (t.runCommandFor source)
    limits.timeoutSecs ⟨Limits.cpuSecs limits.timeoutSecs,
      if t.limitsMemory then some limits.memoryBytes else none⟩ p
  refine ⟨runResult language limits (t.runCommandFor source) compileMs s, q, s, ?_,
    .run hstart (.done _), hlog, reports_runResult ..⟩
  simp only [runProgram, bind, StateT.bind, hstep]
  rfl

/-- Without a compile step, a run attempts the program only. -/
theorem contract_of_interpreted (hcompile : t.compileStep = none) {r : RunResult}
    (hr : Reports command none s r) : Contract t [⟨.run, command, s⟩] r where
  once := by simp
  compiles := by simp [Attempted, hcompile]
  runs := by simp [Attempted, hcompile]
  succeeds := by simp [EndedWell, hr.succeeds]
  fails := hr.fails
  compileMs := by simp [hr.timings, hcompile]
  runMs := by simp [hr.timings, Attempted]
  command := by simp [hr.command]
  report hstatus := absurd hstatus hr.status

/-- A compile step that fails is all that a run attempts. -/
theorem contract_of_refused (hcompile : t.compileStep ≠ none) {r : RunResult}
    (hr : Refuses command s r) : Contract t [⟨.compile, command, s⟩] r where
  once := by simp
  compiles := by simpa [Attempted, Option.isSome_iff_ne_none] using hcompile
  runs := by simp [Attempted, EndedWell, hcompile, hr.ending]
  succeeds := by simp [EndedWell, hr.succeeded]
  fails _ := hr.exitCode
  compileMs := by simpa [hr.timings, Option.isSome_iff_ne_none] using hcompile
  runMs := by simp [hr.timings, Attempted]
  command := by simp [hr.command]
  report hstatus a ha _ hink := by
    obtain rfl := List.mem_singleton.mp ha
    rw [hr.report hstatus]
    exact inked_compileReport hink

/-- After a compile step that exited with code zero, a run attempts the program. -/
theorem contract_of_compiled (hcompile : t.compileStep ≠ none) {compiled : Step}
    (hcompiled : compiled.ending = .exited 0) {r : RunResult} {runCommand : List String}
    (hr : Reports runCommand (some compiled.ms) s r) :
    Contract t [⟨.compile, command, compiled⟩, ⟨.run, runCommand, s⟩] r where
  once := by simp
  compiles := by simpa [Attempted, Option.isSome_iff_ne_none] using hcompile
  runs := by simp [Attempted, EndedWell, hcompiled]
  succeeds := by simp [EndedWell, hr.succeeds]
  fails := hr.fails
  compileMs := by simpa [hr.timings, Option.isSome_iff_ne_none] using hcompile
  runMs := by simp [hr.timings, Attempted]
  command := by simp [hr.command]
  report hstatus := absurd hstatus hr.status

theorem runIn_keeps_contract (m : Machine σ) (t : Toolchain) (limits : Limits) (source : String)
    (language : Language) (state : σ) :
    ∃ r p, m.runIn t limits source language { state } = (r, p)
      ∧ m.Answers t limits source state p.attempts p.state ∧ Contract t p.attempts r := by
  unfold runIn
  cases hcompile : t.compileCommand? source with
  | none =>
      obtain ⟨r, p, s, hrun, hanswers, hlog, hr⟩ :=
        m.runProgram_spec t limits source language none { state }
      refine ⟨r, p, hrun, ?_⟩
      rw [hlog]
      exact ⟨hanswers, contract_of_interpreted (Option.map_eq_none_iff.mp hcompile) hr⟩
  | some command =>
      have hcompiles : t.compileStep ≠ none := by
        intro hnone
        simp [Toolchain.compileCommand?, hnone] at hcompile
      obtain ⟨s, p, hstep, hstart, hlog⟩ := m.step_spec .compile command limits.compileTimeoutSecs
        ⟨Limits.cpuSecs limits.compileTimeoutSecs, none⟩ { state }
      simp only [bind, StateT.bind, hstep]
      rcases compileResult?_cases language limits command s with ⟨hres, hend⟩ | ⟨r, hres, hr⟩
      · obtain ⟨r, q, run, hrun, hanswers, hlog', hr⟩ :=
          m.runProgram_spec t limits source language (some s.ms) p
        rw [hres]
        refine ⟨r, q, hrun, ?_⟩
        rw [hlog', hlog]
        exact ⟨.compile hcompile hstart hanswers, contract_of_compiled hcompiles hend hr⟩
      · rw [hres]
        refine ⟨r, p, rfl, ?_⟩
        rw [hlog]
        exact ⟨.compile hcompile hstart (.done _), contract_of_refused hcompiles hr⟩

/-- Under valid limits, whatever the steps do, a run with a registered toolchain gives a result. The
steps that were attempted are those that the machine answered, and the result keeps the contract with
them. -/
theorem run_keeps_contract (m : Machine σ) {table : ToolchainTable} {state : σ}
    (hlimits : limits.validate = .ok ()) (htable : table.get? language = some t)
    (hstore : m.store (t.fileName source) source = .ok state) :
    ∃ r p, m.runIn t limits source language { state } = (r, p)
      ∧ m.run table source language limits = .ok r
      ∧ m.Answers t limits source state p.attempts p.state ∧ Contract t p.attempts r := by
  obtain ⟨r, p, hrun, hanswers, hcontract⟩ :=
    m.runIn_keeps_contract t limits source language state
  refine ⟨r, p, hrun, ?_, hanswers, hcontract⟩
  unfold run
  simp only [hlimits, htable, hstore, hrun]
  rfl

/-- A machine whose compiler complains on its output and leaves a blank line as error output. -/
def grumbling : Machine Unit where
  store _ _ := .ok ()
  start program _ _ _ _ :=
    if program = "gcc" then
      ({ ending := .exited 1, stdout := "main.c:1: error", stderr := "\n", ms := 7 }, ())
    else ({ ending := .killed 11, ms := 3 }, ())

theorem run_keeps_contract_grumbling :
    ({} : Limits).validate = .ok ()
      ∧ ToolchainTable.standard.get? .c = some (.standard .c)
      ∧ grumbling.store ((Toolchain.standard .c).fileName "x") "x" = .ok ()
      ∧ ∃ r p, grumbling.runIn (.standard .c) {} "x" .c { state := () } = (r, p)
          ∧ grumbling.run .standard "x" .c {} = .ok r
          ∧ grumbling.Answers (.standard .c) {} "x" () p.attempts p.state
          ∧ Contract (.standard .c) p.attempts r :=
  ⟨rfl, rfl, rfl, grumbling.run_keeps_contract rfl rfl rfl⟩

end Machine

end Remedy
