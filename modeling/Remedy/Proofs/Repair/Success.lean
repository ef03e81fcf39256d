import Remedy.Proofs.Repair.History

/-!
# Success is sound and stable

A repair that succeeds has run its final text, with exit code zero, and the check of that run has
found nothing (`Verified`). If the executor answers a program always the same way, that check finds
nothing again, so that repairing the final text succeeds at once.
-/

namespace Remedy

open Repairing

/-! ## Putting a part of a repair together -/

theorem Repairing.bind_run {α β : Type} {p : Repairing α} {f : α → Repairing β} {s t : Session}
    {a : α} (h : p s = (a, t)) : (p >>= f) s = f a t := by
  change f (p s).1 (p s).2 = f a t
  rw [h]

theorem Repairing.run_eq (purpose : Purpose) {executor : Executor} {language : Language}
    {limits : Limits} {source : String} {s : Session} {answer : Answer}
    (h : executor s.calls language limits source = answer) :
    run executor language limits purpose source s
      = (answer, { s with calls := s.calls ++ [⟨purpose, source, answer⟩] }) := by
  subst h
  rfl

theorem Repairing.bind_tell {β : Type} {f : Unit → Repairing β} {event : Event} {s : Session} :
    (tell event >>= f) s = f () { s with events := s.events ++ [event] } := rfl

theorem Repairing.bind_count {β : Type} {f : Unit → Repairing β} {change : Counters → Counters}
    {s : Session} : (count change >>= f) s = f () { s with counters := change s.counters } := rfl

/-- Calls with the answers of an executor that knows only the source are answered by it, whatever
was called before. -/
theorem answered_of_answer_eq {executor : Executor} {language : Language} {limits : Limits}
    {answer : String → Answer} {calls : List Call}
    (hf : ∀ earlier source, executor earlier language limits source = answer source)
    (h : ∀ c ∈ calls, c.answer = answer c.source) (earlier : List Call) :
    Answered executor language limits earlier calls := by
  induction calls generalizing earlier with
  | nil => trivial
  | cons c calls ih =>
      rw [List.forall_mem_cons] at h
      exact ⟨by rw [hf, h.1], ih h.2 _⟩

namespace Repairer

variable {r : Repairer} {label : String} {language : Language} {source : String} {s t : Session}

/-! ## A check whose calls are known -/

section Check

variable {executor : Executor} {limits : Limits} {checks : List Call}

/-- Cases whose harnesses are answered as in some calls that passed all pass, by these calls. -/
theorem runCases_of_passed {cases : List Cases.TestCase}
    (hans : Answered executor language limits s.calls checks)
    (hharness : ∀ c ∈ checks, isHarness c = true)
    (hpass : List.Forall₂ CasePassed (casePrograms language source cases) checks) :
    ∃ results t, runCases executor language limits source cases s = (.ok results, t)
      ∧ (∀ r ∈ results, r.passed = true) ∧ t.calls = s.calls ++ checks := by
  induction cases generalizing s checks with
  | nil =>
      cases hpass
      exact ⟨[], s, rfl, List.forall_mem_nil _, (List.append_nil _).symm⟩
  | cons case cases ih =>
      unfold runCases
      cases hp : Cases.harness? language source case.input with
      | none =>
          rw [casePrograms_cons_none hp] at hpass
          exact ih hans hharness hpass
      | some program =>
          rw [casePrograms_cons_some hp] at hpass
          cases hpass with
          | @cons _ c _ checks hc hrest =>
              obtain ⟨hsource, result, hanswer, hpassed⟩ := hc
              rw [List.forall_mem_cons] at hharness
              have hc : c = ⟨.harness, program, .ok result⟩ := by
                obtain ⟨purpose, text, answer⟩ := c
                obtain rfl : purpose = .harness := of_decide_eq_true hharness.1
                obtain rfl : text = program := hsource
                obtain rfl : answer = .ok result := hanswer
                rfl
              subst hc
              have hanswered : executor s.calls language limits program = .ok result :=
                hans.1.symm
              obtain ⟨others, t, hothers, hall, hcalls⟩ := ih
                (s := { s with calls := s.calls ++ [⟨.harness, program, .ok result⟩] })
                hans.2 hharness.2 hrest
              refine ⟨Cases.judge case result :: others, t, ?_, ?_, ?_⟩
              · dsimp only
                rw [bind_run (run_eq .harness hanswered)]
                dsimp only
                rw [bind_run hothers]
                rfl
              · exact List.forall_mem_cons.mpr ⟨hpassed, hall⟩
              · rw [hcalls, List.append_assoc, List.singleton_append]

theorem caseFindings_of_passed (hans : Answered executor language limits s.calls checks)
    (hharness : ∀ c ∈ checks, isHarness c = true)
    (hpass : if Cases.supports language then
      List.Forall₂ CasePassed (casePrograms language source (Cases.read source)) checks
      else checks = []) :
    ∃ t, caseFindings executor language limits source s = (.ok [], t)
      ∧ t.calls = s.calls ++ checks := by
  unfold caseFindings
  split at hpass
  · rename_i hlang
    obtain ⟨results, t, hrun, hall, hcalls⟩ := runCases_of_passed hans hharness hpass
    refine ⟨t, ?_, hcalls⟩
    rw [if_pos hlang, bind_run hrun]
    dsimp only
    rw [caseFindings_eq_nil.mpr hall]
    rfl
  · rename_i hlang
    subst hpass
    rw [if_neg hlang]
    exact ⟨s, rfl, (List.append_nil _).symm⟩

/-- The check of a quiet run finds nothing if its harnesses are answered as in some calls that
passed. -/
theorem logicalDiagnosis_of_passed {result : RunResult}
    (hans : Answered r.executor language r.config.limits s.calls checks)
    (hharness : ∀ c ∈ checks, isHarness c = true)
    (hquiet : Quiet r.config language source result)
    (hpass : CasesPass r.config language source checks) :
    ∃ t, r.logicalDiagnosis language source result s = (.ok none, t)
      ∧ t.calls = s.calls ++ checks := by
  have hcheck : ∃ t, r.checkCases language source s = (.ok [], t)
      ∧ t.calls = s.calls ++ checks := by
    unfold checkCases
    split
    · rename_i hcases
      refine caseFindings_of_passed hans hharness ?_
      simpa [CasesPass, hcases] using hpass
    · rename_i hcases
      obtain rfl : checks = [] := by simpa [CasesPass, hcases] using hpass
      exact ⟨s, rfl, (List.append_nil _).symm⟩
  obtain ⟨t, hrun, hcalls⟩ := hcheck
  refine ⟨t, ?_, hcalls⟩
  rw [logicalDiagnosis_eq, bind_run hrun, settle_eq_ok_none.mpr ⟨hquiet, rfl⟩]
  rfl

end Check

/-! ## A repair of a text that is found clean -/

/-- An iteration on a text whose run succeeds and whose check finds nothing. -/
theorem iterate_of_clean {index : Nat} {p : Progress} {result : RunResult}
    (hanswer : r.executor s.calls language r.config.limits p.current = .ok result)
    (clean : result.succeeded = true)
    (hcheck : ∀ s₁, ∃ t, r.logicalDiagnosis language p.current result s₁ = (.ok none, t)) :
    ∃ t, r.iterate index label language p s
      = (⟨⟨index, none, none, .fixed⟩, .succeeded, p⟩, t) := by
  have hstatus : result.status = .completed := (RunResult.succeeded_iff.mp clean).1
  have hstarted : ¬ result.status = .spawnFailed := by rw [hstatus]; nofun
  have hinTime : ¬ result.timedOut = true := by rw [RunResult.timedOut, hstatus]; nofun
  obtain ⟨t, ht⟩ := hcheck { s with
    calls := s.calls ++ [⟨.current, p.current, .ok result⟩]
    counters := { s.counters with sandboxRuns := s.counters.sandboxRuns + 1 } }
  refine ⟨t, ?_⟩
  unfold iterate
  have hrun := run_eq .current
    (s := { s with counters := { s.counters with sandboxRuns := s.counters.sandboxRuns + 1 } })
    hanswer
  rw [bind_count, bind_run hrun]
  dsimp only
  rw [if_neg hstarted, if_neg hinTime, if_pos clean, bind_run ht]
  rfl

/-- A repair of such a text succeeds after one iteration that changes nothing. -/
theorem repair_of_clean {result : RunResult} (hbudget : 0 < r.config.maxIterations)
    (hanswer : r.executor s.calls language r.config.limits source = .ok result)
    (clean : result.succeeded = true)
    (hcheck : ∀ s₁, ∃ t, r.logicalDiagnosis language source result s₁ = (.ok none, t)) :
    (r.repair label language source s).1
      = ⟨true, source, [⟨1, none, none, .fixed⟩], .success, none⟩ := by
  obtain ⟨k, hk⟩ := Nat.exists_eq_add_one_of_ne_zero hbudget.ne'
  have hiterate (events : List Event) : ∃ t,
      r.iterate 1 label language { current := source } { s with events := events }
        = (⟨⟨1, none, none, .fixed⟩, .succeeded, { current := source }⟩, t) :=
    iterate_of_clean hanswer clean hcheck
  obtain ⟨t, ht⟩ := hiterate (s.events ++ [.span label]
    ++ [.repairStarted label language r.config.maxIterations])
  have hiterations : ∃ t, r.iterations label language r.config.maxIterations 1
      { current := source } { s with events := s.events ++ [.span label]
        ++ [.repairStarted label language r.config.maxIterations] }
      = (([⟨1, none, none, .fixed⟩], .succeeded, { current := source }), t) := by
    rw [hk] at ht ⊢
    exact ⟨_, bind_run ht⟩
  obtain ⟨t', ht'⟩ := hiterations
  unfold repair
  rw [bind_tell, bind_tell, bind_run ht']
  rfl

/-! ## Soundness and stability -/

/-- In a part of a repair a text was run and ended with exit code zero, and the check of that run,
which made the last calls, found nothing. -/
structure Verified (r : Repairer) (language : Language) (text : String) (s t : Session)
    (before checks : List Call) (call : Call) (result : RunResult) : Prop where
  grows : Grows r.executor language r.config.limits s t (before ++ checks)
  ran : call ∈ before
  source : call.source = text
  answer : call.answer = .ok result
  completed : result.status = .completed
  exitCode : result.exitCode = 0
  quiet : Quiet r.config language text result
  cases : CasesPass r.config language text checks
  harnesses : ∀ c ∈ checks, isHarness c = true
  check : ∃ s₁ t₁, s₁.calls = s.calls ++ before
    ∧ r.logicalDiagnosis language text result s₁ = (.ok none, t₁) ∧ t₁.calls = t.calls

/-- A text that was found clean at the end of a log was verified. -/
theorem FoundClean.verified {text : String} {calls : List Call}
    (hg : Grows r.executor language r.config.limits s t calls)
    (h : FoundClean r.config language text calls) :
    ∃ call result, Verified r language text s t (calls.rdropWhile isHarness)
      (calls.rtakeWhile isHarness) call result := by
  obtain ⟨call, result, hcall, hanswer, clean, hquiet, hpass⟩ := h
  have hsplit : calls.rdropWhile isHarness ++ calls.rtakeWhile isHarness = calls :=
    List.rdropWhile_append_rtakeWhile ..
  obtain ⟨hmem, hsource⟩ := List.mem_filter.mp (List.mem_of_getLast? hcall)
  obtain ⟨hcompleted, hexit⟩ := RunResult.succeeded_iff.mp clean
  have hgrows : Grows r.executor language r.config.limits s t
      (calls.rdropWhile isHarness ++ calls.rtakeWhile isHarness) := by rwa [hsplit]
  have hchecks := (answered_append.mp hgrows.answered).2
  obtain ⟨t₁, hcheck, hcalls⟩ := logicalDiagnosis_of_passed
    (s := { s with calls := s.calls ++ calls.rdropWhile isHarness }) hchecks
    (fun c hc => List.mem_rtakeWhile_imp hc) hquiet hpass
  refine ⟨call, result, hgrows, hmem, of_decide_eq_true hsource, hanswer, hcompleted, hexit,
    hquiet, hpass, fun c hc => List.mem_rtakeWhile_imp hc, _, t₁, rfl, hcheck, ?_⟩
  rw [hcalls, hgrows.log, List.append_assoc]

/-- Success is sound and stable. A repair that succeeds verified its final text; and if the executor
answers each program always the same way, every repair of the final text under the same settings
succeeds after one iteration, which diagnoses nothing and leaves the text as it is. -/
theorem repair_success_stable {o : RepairOutcome}
    (h : r.repair label language source s = (o, t)) (hs : o.status = .success) :
    (∃ before checks call result,
        Verified r language o.finalSource s t before checks call result)
      ∧ ∀ answer : String → Answer,
        (∀ earlier source, r.executor earlier language r.config.limits source = answer source) →
        ∀ (generators : GeneratorTable) (sink : BackupSink) (label' : String) (s' : Session),
          ((Repairer.mk r.executor generators sink r.config).repair label' language o.finalSource
            s').1 = ⟨true, o.finalSource, [⟨1, none, none, .fixed⟩], .success, none⟩ := by
  obtain ⟨calls, hg, hnone, hwell⟩ := repair_lawful h
  obtain ⟨-, hclean⟩ := hwell.success_iff.mp hs
  obtain ⟨call, result, hverified⟩ := hclean.verified hg
  refine ⟨⟨_, _, call, result, hverified⟩, fun answer hf generators sink label' s' => ?_⟩
  -- without iterations nothing is run, so nothing can have been found clean
  have hbudget : 0 < r.config.maxIterations := by
    refine Nat.pos_of_ne_zero fun hzero => ?_
    rw [hnone hzero] at hclean
    exact not_foundClean_nil hclean
  have hanswers := hverified.grows.answered.answer_eq hf
  have hanswer : answer o.finalSource = .ok result := by
    rw [← hverified.source, ← hverified.answer]
    exact (hanswers call (List.mem_append_left _ hverified.ran)).symm
  have hsucceeded : result.succeeded = true :=
    RunResult.succeeded_iff.mpr ⟨hverified.completed, hverified.exitCode⟩
  refine repair_of_clean hbudget ((hf _ _).trans hanswer) hsucceeded fun s₁ => ?_
  have hchecks := answered_of_answer_eq hf
    (fun c hc => hanswers c (List.mem_append_right _ hc)) s₁.calls
  obtain ⟨t₁, hcheck, -⟩ := logicalDiagnosis_of_passed
    (r := ⟨r.executor, generators, sink, r.config⟩) hchecks hverified.harnesses hverified.quiet
    hverified.cases
  exact ⟨t₁, hcheck⟩

/-- A repairer for a world in which only the program `true` runs well, and is always proposed. -/
def speller : Repairer where
  executor _ language _ source :=
    .ok { language, status := .completed, exitCode := if source = "true" then 0 else 127
          stdout := "", command := ["bash", "script.sh"]
          stderr := if source = "true" then "" else "script.sh: line 1: tru: not found\n" }
  generators := ⟨[(.shell, fun _ _ => [⟨"spelling", "", "true", "", .correctness, true⟩])]⟩
  sink _ _ := .ok ()
  config := {}

/-- The repair of a misspelt program commits the proposal, and needs no second repair. -/
theorem repair_success_stable_speller :
    (∃ before checks call result, Verified speller .shell "true" {}
        (speller.repair "script.sh" .shell "tru" {}).2 before checks call result)
      ∧ (speller.repair "script.sh" .shell "true" {}).1
        = ⟨true, "true", [⟨1, none, none, .fixed⟩], .success, none⟩ := by
  have hs : (speller.repair "script.sh" .shell "tru" {}).1.status = .success := by
    decide +kernel
  have hfinal : (speller.repair "script.sh" .shell "tru" {}).1.finalSource = "true" := by
    decide +kernel
  obtain ⟨hverified, hstable⟩ := repair_success_stable
    (Prod.eta (speller.repair "script.sh" .shell "tru" {})).symm hs
  rw [hfinal] at hverified hstable
  exact ⟨hverified, hstable (fun source => speller.executor [] .shell {} source) (fun _ _ => rfl)
    speller.generators speller.sink "script.sh" {}⟩

end Repairer

end Remedy
