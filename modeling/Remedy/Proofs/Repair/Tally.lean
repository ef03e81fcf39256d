import Remedy.Proofs.Repair.Chain

/-!
# What the counters account for

Each part of a repair that runs a program counts its run, with two exceptions: the harnesses of test
cases are not counted at all, and a selection of its own does not look whether its baseline was in
time. So the counters are the log but for these (`Accounts`), along each part, by induction over the
rounds along a repair, and along every selection (`counters_account`). Both exceptions happen
(`uncounted_runs`).
-/

namespace Remedy

open Repairing

/-- The answer to a call is a run that was killed at a deadline. -/
def Call.timedOut (call : Call) : Bool :=
  match call.answer with
  | .ok result => result.timedOut
  | .error _ => false

namespace Repairer

variable {r : Repairer} {executor : Executor} {limits : Limits} {index : Nat} {label : String}
  {language : Language} {s t u : Session}

/-- A call ran the text under repair. -/
def isCurrent (call : Call) : Bool := call.purpose = .current

/-! ## Accounts -/

/-- The counters of `t` are those of `s` with all calls in between, but for runs that are not counted
and late runs that are not noticed. -/
structure Accounts (uncounted unnoticed : Call → Bool) (s t : Session) (calls : List Call)
    (patches : Nat) : Prop where
  log : t.calls = s.calls ++ calls
  sandboxRuns : t.counters.sandboxRuns + calls.countP uncounted
    = s.counters.sandboxRuns + calls.length
  timeouts : t.counters.timeouts + calls.countP (fun c => unnoticed c && c.timedOut)
    = s.counters.timeouts + calls.countP Call.timedOut
  candidatesEvaluated : t.counters.candidatesEvaluated
    = s.counters.candidatesEvaluated + calls.countP isCandidate
  patchesCommitted : t.counters.patchesCommitted = s.counters.patchesCommitted + patches

section Accounts

variable {uncounted unnoticed : Call → Bool} {a b : List Call} {m n : Nat}

theorem Accounts.of_eq (hcalls : t.calls = s.calls) (hcounters : t.counters = s.counters) :
    Accounts uncounted unnoticed s t [] 0 := by
  refine ⟨by rw [hcalls, List.append_nil], ?_, ?_, ?_, ?_⟩ <;> rw [hcounters] <;> rfl

theorem Accounts.trans (h : Accounts uncounted unnoticed s t a m)
    (h' : Accounts uncounted unnoticed t u b n) :
    Accounts uncounted unnoticed s u (a ++ b) (m + n) := by
  refine ⟨by rw [h'.log, h.log, List.append_assoc], ?_, ?_, ?_, ?_⟩
  · have hruns := h.sandboxRuns
    have hruns' := h'.sandboxRuns
    rw [List.countP_append, List.length_append]
    omega
  · have hlate := h.timeouts
    have hlate' := h'.timeouts
    rw [List.countP_append, List.countP_append]
    omega
  · rw [h'.candidatesEvaluated, h.candidatesEvaluated, List.countP_append, Nat.add_assoc]
  · rw [h'.patchesCommitted, h.patchesCommitted, Nat.add_assoc]

/-- The run of a text that is not a candidate, if it is counted as such but not yet noticed to be
late. -/
theorem Accounts.of_current {text : String} {answer : Answer}
    (h₁ : count (fun k => { k with sandboxRuns := k.sandboxRuns + 1 }) s = ((), t))
    (h₂ : run executor language limits .current text t = (answer, u))
    (counted : uncounted ⟨.current, text, answer⟩ = false)
    (late : (⟨.current, text, answer⟩ : Call).timedOut = true →
      unnoticed ⟨.current, text, answer⟩ = true) :
    Accounts uncounted unnoticed s u [⟨.current, text, answer⟩] 0 := by
  obtain rfl := of_count h₁
  obtain ⟨-, rfl⟩ := of_run h₂
  refine ⟨rfl, by simp [counted], ?_, by simp [isCandidate], rfl⟩
  cases hlate : (⟨.current, text, answer⟩ : Call).timedOut with
  | false => simp [hlate]
  | true => simp [hlate, late hlate]

/-- As many runs are counted as there were exactly if each of them is. -/
theorem Accounts.sandboxRuns_eq_iff (h : Accounts uncounted unnoticed s t a m) :
    t.counters.sandboxRuns = s.counters.sandboxRuns + a.length ↔
      ∀ c ∈ a, uncounted c = false := by
  have hruns := h.sandboxRuns
  have hnone : a.countP uncounted = 0 ↔ ∀ c ∈ a, uncounted c = false := by
    simp only [List.countP_eq_zero, Bool.not_eq_true]
  rw [← hnone]
  omega

/-- As many runs are noticed to be late as there were exactly if each of them is. -/
theorem Accounts.timeouts_eq_iff (h : Accounts uncounted unnoticed s t a m) :
    t.counters.timeouts = s.counters.timeouts + a.countP Call.timedOut ↔
      ∀ c ∈ a, c.timedOut = true → unnoticed c = false := by
  have hlate := h.timeouts
  have hnone : a.countP (fun c => unnoticed c && c.timedOut) = 0 ↔
      ∀ c ∈ a, c.timedOut = true → unnoticed c = false := by
    simp only [List.countP_eq_zero, Bool.and_eq_true, not_and', Bool.not_eq_true]
  rw [← hnone]
  omega

end Accounts

/-! ## Candidates -/

theorem timedOut_candidateResult (language : Language) (call : Call) :
    (candidateResult language call.answer).timedOut = call.timedOut := by
  obtain ⟨purpose, source, answer⟩ := call
  cases answer <;> rfl

section Candidates

variable {uncounted unnoticed : Call → Bool}
  (hcounted : ∀ c, isCandidate c = true → uncounted c = false)
  (hnoticed : ∀ c, isCandidate c = true → unnoticed c = false)

include hcounted hnoticed

theorem runCandidate_accounts {c : Candidate} {result : RunResult}
    (h : runCandidate executor language limits c s = (result, t)) :
    ∃ calls, Accounts uncounted unnoticed s t calls 0 := by
  obtain ⟨_, s₁, h₁, h⟩ := of_bind h
  obtain ⟨answer, s₂, h₂, h⟩ := of_bind h
  obtain rfl := of_count h₁
  obtain ⟨-, rfl⟩ := of_run h₂
  have hlate := timedOut_candidateResult language ⟨.candidate, c.patched, answer⟩
  have counted := hcounted ⟨.candidate, c.patched, answer⟩ rfl
  have noticed := hnoticed ⟨.candidate, c.patched, answer⟩ rfl
  refine ⟨[⟨.candidate, c.patched, answer⟩], ?_⟩
  change (if (candidateResult language answer).timedOut = true then _ else _ : Repairing RunResult)
    _ = _ at h
  split at h
  · rename_i late
    obtain ⟨_, s₃, h₃, h⟩ := of_bind h
    obtain ⟨-, rfl⟩ := of_pure h
    obtain rfl := of_count h₃
    rw [late] at hlate
    exact ⟨rfl, by simp [counted], by simp [← hlate, noticed], by simp [isCandidate], rfl⟩
  · rename_i inTime
    obtain ⟨-, rfl⟩ := of_pure h
    rw [Bool.eq_false_iff.mpr inTime] at hlate
    exact ⟨rfl, by simp [counted], by simp [← hlate], by simp [isCandidate], rfl⟩

theorem runCandidates_accounts {cs : List Candidate} {runs : List (Candidate × RunResult)}
    (h : runCandidates executor language limits cs s = (runs, t)) :
    ∃ calls, Accounts uncounted unnoticed s t calls 0 := by
  induction cs generalizing s runs with
  | nil =>
      obtain ⟨-, rfl⟩ := of_pure h
      exact ⟨[], .of_eq rfl rfl⟩
  | cons c cs ih =>
      obtain ⟨result, s₁, h₁, h⟩ := of_bind h
      obtain ⟨others, s₂, h₂, h⟩ := of_bind h
      obtain ⟨-, rfl⟩ := of_pure h
      obtain ⟨calls, haccounts⟩ := runCandidate_accounts hcounted hnoticed h₁
      obtain ⟨calls', haccounts'⟩ := ih h₂
      exact ⟨calls ++ calls', haccounts.trans haccounts'⟩

omit hcounted hnoticed in
theorem tellScores_accounts {scored : List Scored} {w : Unit} (h : tellScores scored s = (w, t)) :
    Accounts uncounted unnoticed s t [] 0 := by
  induction scored generalizing s with
  | nil =>
      obtain ⟨-, rfl⟩ := of_pure h
      exact .of_eq rfl rfl
  | cons a scored ih =>
      obtain ⟨_, s₁, h₁, h⟩ := of_bind h
      obtain rfl := of_tell h₁
      have hrest := ih h
      exact ⟨hrest.log, hrest.sandboxRuns, hrest.timeouts, hrest.candidatesEvaluated,
        hrest.patchesCommitted⟩

theorem selectAgainst_accounts {cs : List Candidate} {baseline : RunResult}
    {found : Option Selection}
    (h : selectAgainst executor language limits cs baseline s = (found, t)) :
    ∃ calls, Accounts uncounted unnoticed s t calls 0 := by
  unfold selectAgainst at h
  split at h
  · obtain ⟨-, rfl⟩ := of_pure h
    exact ⟨[], .of_eq rfl rfl⟩
  · obtain ⟨runs, s₁, h₁, h⟩ := of_bind h
    obtain ⟨_, s₂, h₂, h⟩ := of_bind h
    obtain ⟨-, rfl⟩ := of_pure h
    obtain ⟨calls, haccounts⟩ := runCandidates_accounts hcounted hnoticed h₁
    exact ⟨calls ++ [], haccounts.trans (tellScores_accounts h₂)⟩

end Candidates

/-- A selection of its own counts all its runs, but not a timeout of its baseline. -/
theorem select_accounts {cs : List Candidate} {original : String}
    {found : Except RepairFault (Option Selection)}
    (h : select executor language limits cs original s = (found, t)) :
    ∃ calls, Accounts (fun _ => false) isCurrent s t calls 0 := by
  unfold select at h
  split at h
  · obtain ⟨-, rfl⟩ := of_pure h
    exact ⟨[], .of_eq rfl rfl⟩
  · obtain ⟨_, s₁, h₁, h⟩ := of_bind h
    obtain ⟨answer, s₂, h₂, h⟩ := of_bind h
    have hbaseline : Accounts (fun _ => false) isCurrent s s₂ [⟨.current, original, answer⟩] 0 :=
      .of_current h₁ h₂ rfl fun _ => rfl
    cases answer with
    | error fault =>
        obtain ⟨-, rfl⟩ := of_pure h
        exact ⟨_, hbaseline⟩
    | ok baseline =>
        obtain ⟨selection, h₃, -⟩ := of_map h
        have hcandidate (c : Call) (hc : isCandidate c = true) : isCurrent c = false := by
          simp [isCurrent, of_decide_eq_true hc]
        obtain ⟨calls, haccounts⟩ := selectAgainst_accounts (fun _ _ => rfl) hcandidate h₃
        exact ⟨_, hbaseline.trans haccounts⟩

/-! ## The parts of an iteration -/

/-- What the counters of a repair account for. -/
abbrev Accounted : Session → Session → List Call → Nat → Prop := Accounts isHarness isHarness

theorem frame_counters : Frame fun s t => t.counters = s.counters :=
  ⟨fun _ => rfl, fun h h' => h'.trans h, fun _ _ _ _ _ _ => rfl⟩

/-- Harnesses are run without being counted. -/
theorem Accounted.of_checks {checks : List Call}
    (hg : Grows executor language limits s t checks) (hcounters : t.counters = s.counters)
    (hharness : ∀ c ∈ checks, isHarness c = true) : Accounted s t checks 0 := by
  have hcandidates : checks.countP isCandidate = 0 := by
    rw [List.countP_eq_length_filter, filter_isCandidate_of_harness hharness]
    rfl
  have hlate : checks.countP (fun c => isHarness c && c.timedOut)
      = checks.countP Call.timedOut :=
    List.countP_congr fun c hc => by rw [hharness c hc, Bool.true_and]
  refine ⟨hg.log, ?_, ?_, ?_, ?_⟩
  · rw [hcounters, List.countP_eq_length.mpr hharness]
  · rw [hcounters, hlate]
  · rw [hcounters, hcandidates, Nat.add_zero]
  · rw [hcounters, Nat.add_zero]

theorem logicalDiagnosis_accounts {source : String} {result : RunResult}
    {found : Except RepairFault (Option ErrorRecord)}
    (h : r.logicalDiagnosis language source result s = (found, t)) :
    ∃ calls, Accounted s t calls 0 := by
  obtain ⟨checks, hg, hharness, -⟩ := logicalDiagnosis_spec h
  exact ⟨checks, .of_checks hg (Along.of_eq (frame_counters.logicalDiagnosis r result) h) hharness⟩

theorem Examines.accounts {text : String} {answer : Answer}
    (h : Examines r language text s answer t)
    (inTime : (⟨.current, text, answer⟩ : Call).timedOut = false) :
    Accounted s t [⟨.current, text, answer⟩] 0 := by
  obtain ⟨s₁, h₁, h₂⟩ := h
  exact .of_current h₁ h₂ rfl fun late => absurd (inTime.symm.trans late) nofun

theorem Starts.accounts {text : String} {result : RunResult}
    (h : Starts r language text s result t) :
    Accounted s t [⟨.current, text, .ok result⟩] 0 := by
  obtain ⟨s₁, examines, noted⟩ := h.ran
  unfold noteTimeout at noted
  split at noted
  · rename_i late
    obtain ⟨s₂, h₁, h₂⟩ := examines
    obtain rfl := of_count h₁
    obtain ⟨-, rfl⟩ := of_run h₂
    obtain rfl := of_count noted
    have hlate : (⟨.current, text, .ok result⟩ : Call).timedOut = true := late
    exact ⟨rfl, by simp [isHarness], by simp [hlate, isHarness], by simp [isCandidate], rfl⟩
  · rename_i inTime
    obtain ⟨-, rfl⟩ := of_pure noted
    exact examines.accounts (Bool.eq_false_iff.mpr inTime)

theorem Diagnoses.accounts {text : String} {result : RunResult} {d : ErrorRecord}
    (h : Diagnoses r language text s result d t) : ∃ calls, Accounted s t calls 0 := by
  cases h with
  | crash starts dirty known => exact ⟨_, starts.accounts⟩
  | defect starts clean check =>
      obtain ⟨checks, haccounts⟩ := logicalDiagnosis_accounts check
      exact ⟨_, starts.accounts.trans haccounts⟩

theorem Backed.accounts {p : Progress} (h : Backed r label p s t) : Accounted s t [] 1 := by
  obtain ⟨s₁, h₁, h₂⟩ := h
  rw [backUp_eq] at h₁
  obtain ⟨-, rfl⟩ := Prod.mk.inj h₁
  obtain rfl := of_count h₂
  exact ⟨(List.append_nil _).symm, rfl, rfl, rfl, rfl⟩

theorem Commits.accounts {d : ErrorRecord} {p : Progress} {best : Scored} {turn : Turn}
    (h : Commits r index label language d p best s turn t) :
    ∃ calls, Accounted s t calls 1 := by
  cases h with
  | retrying backed dirty => exact ⟨[], backed.accounts⟩
  | unsettled backed clean check left =>
      obtain ⟨checks, haccounts⟩ := logicalDiagnosis_accounts check
      exact ⟨_, backed.accounts.trans haccounts⟩
  | settled backed clean check =>
      obtain ⟨checks, haccounts⟩ := logicalDiagnosis_accounts check
      exact ⟨_, backed.accounts.trans haccounts⟩

theorem generate_accounts {request : Request} {generated : List Candidate}
    (h : generate r.generators language request s = (generated, t)) : Accounted s t [] 0 := by
  unfold generate at h
  split at h <;> obtain ⟨-, rfl⟩ := Prod.mk.inj h <;> exact .of_eq rfl rfl

theorem Selects.accounts {p : Progress} {baseline : RunResult} {d : ErrorRecord}
    {candidates : List Candidate} {selection : Selection}
    (h : Selects r language p baseline d s candidates selection t) :
    ∃ calls, Accounted s t calls 0 := by
  have hcandidate (c : Call) (hc : isCandidate c = true) : isHarness c = false := by
    simp [isHarness, of_decide_eq_true hc]
  obtain ⟨generated, s₁, h₁, -, h₂⟩ := h
  obtain ⟨calls, haccounts⟩ := selectAgainst_accounts hcandidate hcandidate h₂
  exact ⟨_, (generate_accounts h₁).trans haccounts⟩

/-! ## Rounds -/

def Turn.patches (turn : Turn) : Nat := if turn.record.appliedPatch.isSome then 1 else 0

theorem Treats.accounts {p : Progress} {baseline : RunResult} {d : ErrorRecord} {turn : Turn}
    (h : Treats r index label language p baseline d s turn t) :
    ∃ calls, Accounted s t calls turn.patches := by
  cases h with
  | untreated proposed none => exact ⟨[], generate_accounts proposed⟩
  | unsuitable selects worthless told =>
      obtain ⟨calls, haccounts⟩ := selects.accounts
      obtain rfl := of_tell told
      exact ⟨calls, haccounts.log, haccounts.sandboxRuns, haccounts.timeouts,
        haccounts.candidatesEvaluated, haccounts.patchesCommitted⟩
  | committed selects worth commits =>
      obtain ⟨calls, haccounts⟩ := selects.accounts
      obtain ⟨checks, haccounts'⟩ := commits.accounts
      obtain ⟨status, verdict, rfl, -⟩ := commits.eq_committed
      exact ⟨_, haccounts.trans haccounts'⟩

theorem Iterates.accounts {p : Progress} {turn : Turn}
    (h : Iterates r index label language p s turn t) :
    ∃ calls, Accounted s t calls turn.patches := by
  cases h with
  | faulted examines => exact ⟨_, examines.accounts rfl⟩
  | @notStarted result _ examines spawnFailed =>
      have inTime : result.timedOut = false := by rw [RunResult.timedOut, spawnFailed]; rfl
      exact ⟨_, examines.accounts inTime⟩
  | checkFaulted starts clean check =>
      obtain ⟨checks, haccounts⟩ := logicalDiagnosis_accounts check
      exact ⟨_, starts.accounts.trans haccounts⟩
  | clean starts clean check =>
      obtain ⟨checks, haccounts⟩ := logicalDiagnosis_accounts check
      exact ⟨_, starts.accounts.trans haccounts⟩
  | undiagnosed starts dirty unknown => exact ⟨_, starts.accounts⟩
  | treated diagnoses treats =>
      obtain ⟨calls, haccounts⟩ := diagnoses.accounts
      obtain ⟨calls', haccounts'⟩ := treats.accounts
      refine ⟨calls ++ calls', ?_⟩
      simpa only [Nat.zero_add] using haccounts.trans haccounts'

/-- Linked rounds count their calls, and the patches in their records. -/
theorem Linked.accounts {p last : Progress} {rounds : List Round}
    (h : Linked r label language index p s rounds last t) :
    ∃ calls, Accounted s t calls (rounds.countP Round.patches) := by
  induction h with
  | done => exact ⟨[], .of_eq rfl rfl⟩
  | @step index p last turn s t u v rounds iterates told rest ih =>
      obtain ⟨calls, haccounts⟩ := iterates.accounts
      obtain ⟨calls', haccounts'⟩ := ih
      obtain rfl := of_tell told
      have hrest : Accounted t v calls' (rounds.countP Round.patches) :=
        ⟨haccounts'.log, haccounts'.sandboxRuns, haccounts'.timeouts,
          haccounts'.candidatesEvaluated, haccounts'.patchesCommitted⟩
      refine ⟨calls ++ calls', ?_⟩
      rw [List.countP_cons, Nat.add_comm]
      exact haccounts.trans hrest

/-! ## The law of the counters -/

/-- The counters of a repair account for every applied patch and every call but the harnesses, so for
every call exactly if there was none; those of a selection account for every call, but not for a
timeout of its baseline. -/
theorem counters_account (r : Repairer) (label : String) (executor : Executor) (limits : Limits)
    (candidates : List Candidate) (language : Language) (source : String) (s : Session) :
    (∃ calls,
      let t := (r.repair label language source s).2
      Accounts isHarness isHarness s t calls
          ((r.repair label language source s).1.iterations.countP (·.appliedPatch.isSome))
        ∧ (t.counters.sandboxRuns = s.counters.sandboxRuns + calls.length ↔
          ∀ c ∈ calls, isHarness c = false)
        ∧ (t.counters.timeouts = s.counters.timeouts + calls.countP Call.timedOut ↔
          ∀ c ∈ calls, c.timedOut = true → isHarness c = false))
    ∧ ∃ calls,
      let t := (select executor language limits candidates source s).2
      Accounts (fun _ => false) isCurrent s t calls 0
        ∧ t.counters.sandboxRuns = s.counters.sandboxRuns + calls.length
        ∧ (t.counters.timeouts = s.counters.timeouts + calls.countP Call.timedOut ↔
          ∀ c ∈ calls, c.timedOut = true → isCurrent c = false) := by
  constructor
  · obtain ⟨verdict, last, t', hlinked, -, ht, -, -, hrecords⟩ :=
      repair_runs (Prod.eta (r.repair label language source s)).symm
    obtain ⟨calls, hlog, hruns, hlate, hcandidates, hpatches⟩ := hlinked.accounts
    have haccounts : Accounts isHarness isHarness s (r.repair label language source s).2 calls
        ((r.repair label language source s).1.iterations.countP (·.appliedPatch.isSome)) := by
      rw [hrecords, List.countP_map, ht]
      exact ⟨hlog, hruns, hlate, hcandidates, hpatches⟩
    exact ⟨calls, haccounts, haccounts.sandboxRuns_eq_iff, haccounts.timeouts_eq_iff⟩
  · obtain ⟨calls, haccounts⟩ :=
      select_accounts (Prod.eta (select executor language limits candidates source s)).symm
    exact ⟨calls, haccounts, haccounts.sandboxRuns_eq_iff.mpr fun _ _ => rfl,
      haccounts.timeouts_eq_iff⟩

/-- A program that is killed at its deadline once it printed the result of a test case. -/
def lateRun : RunResult where
  language := .javaScript
  status := .timedOut
  exitCode := 124
  stdout := "__RESULT__: \"x\"\n"
  stderr := ""
  command := ["node", "main.js"]

/-- A program with one test case. -/
def annotated : String := "// TEST: a\n// INPUT: x\n// EXPECTED: x\n"

/-- A repairer without generators, where only the annotated program is in time. -/
def slowChecker : Repairer where
  executor _ _ _ source :=
    .ok (if source = annotated then { lateRun with status := .completed, exitCode := 0 } else lateRun)
  generators := ⟨[]⟩
  sink _ _ := .ok ()
  config := {}

/-- The number of calls next to that of counted runs, and the number of late calls next to that of
counted timeouts. -/
def books (s : Session) : (Nat × Nat) × Nat × Nat :=
  ((s.calls.length, s.counters.sandboxRuns),
    (s.calls.countP Call.timedOut, s.counters.timeouts))

/-- A harness is neither counted nor noticed to be late, and a late baseline is not noticed. -/
theorem uncounted_runs :
    books (slowChecker.repair "main.js" .javaScript annotated {}).2 = ((2, 1), 1, 0)
      ∧ books (select slowChecker.executor .javaScript {}
        [.of "keep" "" "x\n" annotated .correctness true] "x\n" {}).2 = ((2, 2), 1, 0) := by
  decide +kernel

end Repairer

end Remedy
