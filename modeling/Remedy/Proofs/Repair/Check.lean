import Mathlib.Data.List.DropRight
import Remedy.Proofs.Repair.Log

/-!
# The check of a clean run

What it means that a text was found clean (`FoundClean`), read off the log of calls alone: the last
run of the text ended with exit code zero, the runs that end the log are the harnesses of its
annotated cases, one each and all passed, and neither the output of the run nor the text itself
gives a finding. What any check comes to, with a fault or without, is read off the calls of its cases
(`logicalDiagnosis_checked`); `logicalDiagnosis_spec` says that it finds nothing exactly then.
-/

namespace Remedy

open Repairing

namespace Repairer

/-! ## Passed cases and quiet runs -/

/-- Cases with their harnesses, those left out that the language has no harness for. -/
def casePrograms (language : Language) (source : String) (cases : List Cases.TestCase) :
    List (Cases.TestCase × String) :=
  cases.filterMap fun case =>
    (Cases.harness? language source case.input).map fun program => (case, program)

theorem casePrograms_cons_none {language : Language} {source : String} {case : Cases.TestCase}
    {cases : List Cases.TestCase} (h : Cases.harness? language source case.input = none) :
    casePrograms language source (case :: cases) = casePrograms language source cases := by
  simp [casePrograms, h]

theorem casePrograms_cons_some {language : Language} {source program : String}
    {case : Cases.TestCase} {cases : List Cases.TestCase}
    (h : Cases.harness? language source case.input = some program) :
    casePrograms language source (case :: cases)
      = (case, program) :: casePrograms language source cases := by
  simp [casePrograms, h]

/-- A call ran the harness of a case, and the case passed. -/
def CasePassed (case : Cases.TestCase × String) (call : Call) : Prop :=
  call.source = case.2
    ∧ ∃ result, call.answer = .ok result ∧ (Cases.judge case.1 result).passed = true

/-- Calls ran the annotated cases of a text, one each in their order, and all of them passed; where
no cases are run there are no calls. -/
def CasesPass (config : RepairConfig) (language : Language) (source : String)
    (calls : List Call) : Prop :=
  if config.enableTestCases ∧ Cases.supports language then
    List.Forall₂ CasePassed (casePrograms language source (Cases.read source)) calls
  else calls = []

/-- Neither the output of a run nor its text gives a finding. -/
def Quiet (config : RepairConfig) (language : Language) (source : String) (result : RunResult) :
    Prop :=
  Printed.inspect result.stdout = []
    ∧ (config.enableStaticAnalysis = true → analyzeSource language source = [])

def isHarness (call : Call) : Bool := call.purpose = .harness

/-- A text was found clean at the end of a log: its last run before the closing harnesses succeeded
and is quiet, and these harnesses are those of its cases, which pass. -/
def FoundClean (config : RepairConfig) (language : Language) (source : String)
    (calls : List Call) : Prop :=
  ∃ call result,
    ((calls.rdropWhile isHarness).filter fun c => c.source = source).getLast? = some call
      ∧ call.answer = .ok result ∧ result.succeeded = true
      ∧ Quiet config language source result
      ∧ CasesPass config language source (calls.rtakeWhile isHarness)

/-! ## Findings of a check -/

theorem quietFindings_eq_nil {config : RepairConfig} {language : Language} {source : String}
    {result : RunResult} :
    quietFindings config language source result = [] ↔ Quiet config language source result := by
  simp only [quietFindings, Quiet, List.append_eq_nil_iff]
  cases config.enableStaticAnalysis <;> simp

theorem caseFindings_eq_nil {results : List Cases.CaseResult} :
    Cases.findings results = [] ↔ ∀ r ∈ results, r.passed = true := by
  simp [Cases.findings, List.filter_eq_nil_iff]

theorem topPriority?_eq_none {fs : List Finding} : Finding.topPriority? fs = none ↔ fs = [] :=
  firstLeast?_eq_none_iff

/-! ## The runs of a check -/

section Check

variable {executor : Executor} {language : Language} {limits : Limits} {source : String}
  {s t : Session}

/-- Calls ran the harnesses of cases, one each in their order, until one of them faulted, and this is
what they say of the cases. -/
inductive CasesRun : List (Cases.TestCase × String) → List Call →
    Except SandboxFault (List Cases.CaseResult) → Prop
  | done : CasesRun [] [] (.ok [])
  | faulted {case : Cases.TestCase} {program : String} {rest : List (Cases.TestCase × String)}
      {fault : SandboxFault} :
      CasesRun ((case, program) :: rest) [⟨.harness, program, .error fault⟩] (.error fault)
  | ran {case : Cases.TestCase} {program : String} {rest : List (Cases.TestCase × String)}
      {result : RunResult} {calls : List Call}
      {found : Except SandboxFault (List Cases.CaseResult)} (others : CasesRun rest calls found) :
      CasesRun ((case, program) :: rest) (⟨.harness, program, .ok result⟩ :: calls)
        (found.map (Cases.judge case result :: ·))

namespace CasesRun

variable {programs : List (Cases.TestCase × String)} {calls : List Call}
  {found : Except SandboxFault (List Cases.CaseResult)}

theorem isHarness (h : CasesRun programs calls found) : ∀ c ∈ calls, isHarness c = true := by
  induction h with
  | done => exact List.forall_mem_nil _
  | faulted => exact List.forall_mem_singleton.mpr rfl
  | ran others ih => exact List.forall_mem_cons.mpr ⟨rfl, ih⟩

/-- All results are those of passed cases exactly when the calls say so. -/
theorem passed_iff (h : CasesRun programs calls found) :
    (∃ results, found = .ok results ∧ ∀ r ∈ results, r.passed = true) ↔
      List.Forall₂ CasePassed programs calls := by
  induction h with
  | done => simp
  | faulted =>
      constructor
      · rintro ⟨results, hr, -⟩
        cases hr
      · rintro (_ | ⟨⟨-, result, hr, -⟩, -⟩)
        cases hr
  | @ran case program rest result calls found others ih =>
      rw [List.forall₂_cons, ← ih]
      cases found <;> simp [Except.map, CasePassed]

end CasesRun

/-- Cases are run one after the other, those that have a harness. -/
theorem runCases_runs {cases : List Cases.TestCase}
    {found : Except SandboxFault (List Cases.CaseResult)}
    (h : runCases executor language limits source cases s = (found, t)) :
    ∃ calls, Grows executor language limits s t calls
      ∧ CasesRun (casePrograms language source cases) calls found := by
  induction cases generalizing s t found with
  | nil =>
      obtain ⟨rfl, rfl⟩ := of_pure h
      exact ⟨[], Grows.refl rfl, .done⟩
  | cons case cases ih =>
      unfold runCases at h
      cases hp : Cases.harness? language source case.input with
      | none =>
          simp only [hp] at h
          rw [casePrograms_cons_none hp]
          exact ih h
      | some program =>
          simp only [hp] at h
          rw [casePrograms_cons_some hp]
          obtain ⟨answer, s₁, h₁, h⟩ := of_bind h
          have hg : Grows executor language limits s s₁ [⟨.harness, program, answer⟩] :=
            Grows.of_run h₁
          cases answer with
          | error fault =>
              obtain ⟨rfl, rfl⟩ := of_pure h
              exact ⟨_, hg, .faulted⟩
          | ok result =>
              obtain ⟨rest, s₂, h₂, h⟩ := of_bind h
              obtain ⟨calls, hg', hruns⟩ := ih h₂
              cases rest <;> obtain ⟨rfl, rfl⟩ := of_pure h <;>
                exact ⟨_, hg.trans hg', .ran hruns⟩

/-- Calls ran the annotated cases of a text, if cases are to be run, and these are the findings of
those that failed. -/
inductive Checked (config : RepairConfig) (language : Language) (source : String) :
    List Call → Except SandboxFault (List Finding) → Prop
  | run {calls : List Call} {results : Except SandboxFault (List Cases.CaseResult)}
      (enabled : config.enableTestCases = true ∧ Cases.supports language = true)
      (runs : CasesRun (casePrograms language source (Cases.read source)) calls results) :
      Checked config language source calls (results.map Cases.findings)
  | skipped (disabled : ¬ (config.enableTestCases = true ∧ Cases.supports language = true)) :
      Checked config language source [] (.ok [])

namespace Checked

variable {config : RepairConfig} {calls : List Call} {found : Except SandboxFault (List Finding)}

theorem isHarness (h : Checked config language source calls found) :
    ∀ c ∈ calls, isHarness c = true := by
  cases h with
  | run enabled runs => exact runs.isHarness
  | skipped disabled => exact List.forall_mem_nil _

theorem eq_nil_iff (h : Checked config language source calls found) :
    found = .ok [] ↔ CasesPass config language source calls := by
  unfold CasesPass
  cases h with
  | @run calls results enabled runs =>
      rw [if_pos enabled, ← runs.passed_iff]
      cases results <;> simp [Except.map, caseFindings_eq_nil]
  | skipped disabled =>
      rw [if_neg disabled]
      exact iff_of_true rfl rfl

end Checked

/-- The first half of a check: the findings of its cases. -/
def checkCases (r : Repairer) (language : Language) (source : String) :
    Repairing (Except SandboxFault (List Finding)) :=
  if r.config.enableTestCases then caseFindings r.executor language r.config.limits source
  else pure (.ok [])

/-- The second half of a check: what the findings of its cases come to. -/
def settle (config : RepairConfig) (language : Language) (source : String) (result : RunResult) :
    Except SandboxFault (List Finding) → Except RepairFault (Option ErrorRecord)
  | .error fault => .error (.sandbox fault)
  | .ok failed =>
    .ok ((Finding.topPriority? (if failed.isEmpty then quietFindings config language source result
      else failed)).map fun f => .ofFinding f source)

theorem logicalDiagnosis_eq (r : Repairer) (language : Language) (source : String)
    (result : RunResult) :
    r.logicalDiagnosis language source result =
      (r.checkCases language source >>= fun cases =>
        pure (settle r.config language source result cases)) := by
  have hrest : (fun cases : Except SandboxFault (List Finding) =>
      (pure (settle r.config language source result cases) : Repairing _)) = fun cases =>
        match cases with
        | .error fault => pure (.error (.sandbox fault))
        | .ok failed =>
          pure (.ok ((Finding.topPriority? (if failed.isEmpty then
            quietFindings r.config language source result else failed)).map fun f =>
              .ofFinding f source)) := by
    funext cases
    cases cases <;> rfl
  rw [hrest, logicalDiagnosis, checkCases]
  split <;> rfl

theorem settle_eq_ok_none {config : RepairConfig} {result : RunResult}
    {found : Except SandboxFault (List Finding)} :
    settle config language source result found = .ok none ↔
      Quiet config language source result ∧ found = .ok [] := by
  cases found with
  | error fault => simp [settle]
  | ok failed =>
      rw [← quietFindings_eq_nil]
      cases failed <;> simp [settle, topPriority?_eq_none]

theorem checkCases_checked {r : Repairer} {found : Except SandboxFault (List Finding)}
    (h : r.checkCases language source s = (found, t)) :
    ∃ calls, Grows r.executor language r.config.limits s t calls
      ∧ Checked r.config language source calls found := by
  unfold checkCases caseFindings at h
  split at h
  · rename_i hconfig
    split at h
    · rename_i hlanguage
      obtain ⟨results, s₁, h₁, h⟩ := of_bind h
      obtain ⟨calls, hg, hruns⟩ := runCases_runs h₁
      refine ⟨calls, ?_⟩
      cases results <;> obtain ⟨rfl, rfl⟩ := of_pure h <;>
        exact ⟨hg, .run ⟨hconfig, hlanguage⟩ hruns⟩
    · rename_i hlanguage
      obtain ⟨rfl, rfl⟩ := of_pure h
      exact ⟨[], Grows.refl rfl, .skipped fun enabled => hlanguage enabled.2⟩
  · rename_i hconfig
    obtain ⟨rfl, rfl⟩ := of_pure h
    exact ⟨[], Grows.refl rfl, .skipped fun enabled => hconfig enabled.1⟩

/-- The runs of a check, and what they come to. -/
theorem logicalDiagnosis_checked {r : Repairer} {result : RunResult}
    {found : Except RepairFault (Option ErrorRecord)}
    (h : r.logicalDiagnosis language source result s = (found, t)) :
    ∃ calls cases, Grows r.executor language r.config.limits s t calls
      ∧ Checked r.config language source calls cases
      ∧ found = settle r.config language source result cases := by
  rw [logicalDiagnosis_eq] at h
  obtain ⟨cases, s₁, h₁, h⟩ := of_bind h
  obtain ⟨rfl, rfl⟩ := of_pure h
  obtain ⟨calls, hg, hchecked⟩ := checkCases_checked h₁
  exact ⟨calls, cases, hg, hchecked, rfl⟩

/-- The runs of a check are harnesses, and they tell when it finds nothing. -/
theorem logicalDiagnosis_spec {r : Repairer} {result : RunResult}
    {found : Except RepairFault (Option ErrorRecord)}
    (h : r.logicalDiagnosis language source result s = (found, t)) :
    ∃ calls, Grows r.executor language r.config.limits s t calls
      ∧ (∀ c ∈ calls, isHarness c = true)
      ∧ (found = .ok none ↔
          Quiet r.config language source result ∧ CasesPass r.config language source calls) := by
  obtain ⟨calls, cases, hg, hchecked, rfl⟩ := logicalDiagnosis_checked h
  exact ⟨calls, hg, hchecked.isHarness, by rw [settle_eq_ok_none, hchecked.eq_nil_iff]⟩

/-- A defect that a check finds is diagnosed with a kind. -/
theorem logicalDiagnosis_isError {r : Repairer} {result : RunResult} {d : ErrorRecord}
    (h : r.logicalDiagnosis language source result s = (.ok (some d), t)) : d.isError = true := by
  rw [logicalDiagnosis_eq] at h
  obtain ⟨cases, s₁, -, h⟩ := of_bind h
  have hd := (of_pure h).1
  cases cases with
  | error fault => cases hd
  | ok failed =>
      obtain ⟨f, -, rfl⟩ := Option.map_eq_some_iff.mp (Except.ok.inj hd)
      rfl

end Check

/-! ## A text found clean, from the end of a log -/

theorem rdropWhile_append {α : Type} {p : α → Bool} {runs checks : List α}
    (hruns : ∀ c, runs.getLast? = some c → p c = false) (hchecks : ∀ c ∈ checks, p c = true) :
    (runs ++ checks).rdropWhile p = runs ∧ (runs ++ checks).rtakeWhile p = checks := by
  induction checks using List.reverseRecOn with
  | nil =>
      rw [List.append_nil, List.rdropWhile_eq_self_iff, List.rtakeWhile_eq_nil_iff]
      have hlast : ∀ hl : runs ≠ [], ¬p (runs.getLast hl) = true := fun hl => by
        rw [hruns _ (List.getLast?_eq_some_getLast hl)]
        exact Bool.false_ne_true
      exact ⟨hlast, hlast⟩
  | append_singleton checks c ih =>
      obtain ⟨hdrop, htake⟩ := ih fun d hd => hchecks d (List.mem_append_left _ hd)
      have hc : p c = true := hchecks c (by simp)
      rw [← List.append_assoc, List.rdropWhile_concat_pos _ _ _ hc,
        List.rtakeWhile_concat_pos _ _ _ hc, htake]
      exact ⟨hdrop, rfl⟩

/-- A log ends with the last run of a text, possibly runs of other texts, and some harnesses. -/
structure EndsWith (source : String) (call : Call) (checks calls : List Call) : Prop where
  split : ∃ earlier others, calls = earlier ++ call :: others ++ checks
    ∧ ∀ c ∈ others, c.source ≠ source ∧ isHarness c = false
  source_eq : call.source = source
  isRun : isHarness call = false
  harnesses : ∀ c ∈ checks, isHarness c = true

theorem EndsWith.singleton (call : Call) (h : isHarness call = false) :
    EndsWith call.source call [] [call] :=
  ⟨⟨[], [], rfl, List.forall_mem_nil _⟩, rfl, h, List.forall_mem_nil _⟩

theorem EndsWith.append_left {source : String} {call : Call} {checks calls : List Call}
    (h : EndsWith source call checks calls) (earlier : List Call) :
    EndsWith source call checks (earlier ++ calls) := by
  obtain ⟨before, others, rfl, hothers⟩ := h.split
  exact ⟨⟨earlier ++ before, others, by simp only [List.append_assoc], hothers⟩, h.source_eq,
    h.isRun, h.harnesses⟩

theorem EndsWith.append_checks {source : String} {call : Call} {checks calls : List Call}
    (h : EndsWith source call [] calls) (hchecks : ∀ c ∈ checks, isHarness c = true) :
    EndsWith source call checks (calls ++ checks) := by
  obtain ⟨before, others, rfl, hothers⟩ := h.split
  exact ⟨⟨before, others, by rw [List.append_nil], hothers⟩, h.source_eq, h.isRun, hchecks⟩

/-- The last run of a text and the harnesses that end a log tell whether the text was found
clean. -/
theorem EndsWith.foundClean_iff {config : RepairConfig} {language : Language} {source : String}
    {call : Call} {checks calls : List Call} (h : EndsWith source call checks calls) :
    FoundClean config language source calls ↔
      ∃ result, call.answer = .ok result ∧ result.succeeded = true
        ∧ Quiet config language source result ∧ CasesPass config language source checks := by
  obtain ⟨earlier, others, rfl, hothers⟩ := h.split
  have hruns : ∀ c, (earlier ++ call :: others).getLast? = some c → isHarness c = false := by
    intro c hc
    rw [List.getLast?_append_cons] at hc
    rcases List.mem_cons.mp (List.mem_of_getLast? hc) with rfl | hc
    · exact h.isRun
    · exact (hothers c hc).2
  obtain ⟨hdrop, htake⟩ := rdropWhile_append hruns h.harnesses
  have hlast : ((earlier ++ call :: others).filter fun c => c.source = source).getLast?
      = some call := by
    have hnone : others.filter (fun c => c.source = source) = [] :=
      List.filter_eq_nil_iff.mpr fun c hc => by simpa using (hothers c hc).1
    rw [List.filter_append, List.filter_cons_of_pos (by simpa using h.source_eq), hnone,
      List.getLast?_append_cons]
    rfl
  rw [FoundClean, hdrop, htake, hlast]
  constructor
  · rintro ⟨_, result, hcall, hrest⟩
    obtain rfl := Option.some.inj hcall
    exact ⟨result, hrest⟩
  · rintro ⟨result, hrest⟩
    exact ⟨call, result, rfl, hrest⟩

end Repairer

end Remedy
