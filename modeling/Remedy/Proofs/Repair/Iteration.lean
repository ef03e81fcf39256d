import Remedy.Proofs.Candidate.Fresh
import Remedy.Proofs.Repair.Turn

/-!
# The law of an iteration

However an iteration goes, its record is paired with the right verdict, and the verdict with what
its calls say of the text that it leaves (`Lawful`). What makes this true of a commit is that no two
candidates have the same text: the last run of the text that is committed is the run that its
candidate was scored by.
-/

namespace Remedy

open Repairing

namespace Repairer

variable {r : Repairer} {index : Nat} {label : String} {language : Language} {s t : Session}

/-! ## Lawful iterations -/

structure IsCommit (record : IterationRecord) : Prop where
  patch : record.appliedPatch.isSome = true
  diagnosis : ∃ d, record.diagnosis = some d ∧ d.kind.isSome = true
  status : record.status = .fixed ∨ record.status = .retrying

/-- The record of an iteration agrees with how it ended, and with what its calls say of the text
that it leaves, whatever calls came before. -/
structure Lawful (r : Repairer) (language : Language) (index : Nat) (turn : Turn)
    (calls : List Call) : Prop where
  index_eq : turn.record.index = index
  failed : ∀ reason, turn.verdict = .failed reason →
    turn.record.status = .failed ∧ turn.record.appliedPatch = none
      ∧ ∀ n, reason ≠ .budgetExhausted n
  succeeded : turn.verdict = .succeeded → turn.record.status = .fixed
    ∧ ∀ earlier, FoundClean r.config language turn.progress.current (earlier ++ calls)
  running : turn.verdict = .running → IsCommit turn.record
    ∧ ∀ earlier, ¬ FoundClean r.config language turn.progress.current (earlier ++ calls)

/-- An iteration that ends the repair without success. -/
theorem lawful_failed {d : Option ErrorRecord} {reason : FailureReason} {p : Progress}
    {calls : List Call} (h : ∀ n, reason ≠ .budgetExhausted n) :
    Lawful r language index (.failed index d reason p) calls where
  index_eq := rfl
  failed := by
    intro reason' heq
    obtain rfl := Verdict.failed.inj heq
    exact ⟨rfl, rfl, h⟩
  succeeded := nofun
  running := nofun

/-- Whoever is related to a list elementwise is related to each of its elements. -/
theorem exists_of_forall₂ {α β : Type} {R : α → β → Prop} {as : List α} {bs : List β} {b : β}
    (h : List.Forall₂ R as bs) (hb : b ∈ bs) : ∃ a ∈ as, R a b := by
  induction h with
  | nil => cases hb
  | @cons a c as bs hac hrest ih =>
      rcases List.mem_cons.mp hb with rfl | hb
      · exact ⟨a, List.mem_cons_self .., hac⟩
      · obtain ⟨a', ha', hab⟩ := ih hb
        exact ⟨a', List.mem_cons_of_mem _ ha', hab⟩

/-- The runs of candidates with distinct texts end with the last run of each of them. -/
theorem endsWith_of_mem {runs : List (Candidate × RunResult)} {calls : List Call}
    {run : Candidate × RunResult} (h : List.Forall₂ (RunOf language) runs calls)
    (hnodup : (runs.map fun run => run.1.patched).Nodup) (hrun : run ∈ runs) :
    ∃ call, EndsWith run.1.patched call [] calls ∧ RunOf language run call := by
  induction h with
  | nil => cases hrun
  | @cons a call runs calls ha hrest ih =>
      rw [List.map_cons, List.nodup_cons] at hnodup
      rcases List.mem_cons.mp hrun with rfl | hrun
      · refine ⟨call, ⟨⟨[], calls, by simp, fun c hc => ?_⟩, ha.source, ?_, List.forall_mem_nil _⟩,
          ha⟩
        · obtain ⟨b, hb, hbc⟩ := exists_of_forall₂ hrest hc
          refine ⟨fun heq => hnodup.1 ?_, by simp [isHarness, hbc.purpose]⟩
          exact List.mem_map.mpr ⟨b, hb, hbc.source.symm.trans heq⟩
        · simp [isHarness, ha.purpose]
      · obtain ⟨c, hends, hc⟩ := ih hnodup.2 hrun
        exact ⟨c, hends.append_left [call], hc⟩

/-! ## The calls of an iteration -/

theorem Examines.grows {text : String} {answer : Answer}
    (h : Examines r language text s answer t) :
    Grows r.executor language r.config.limits s t [⟨.current, text, answer⟩] := by
  obtain ⟨s₁, h₁, h₂⟩ := h
  exact (Grows.of_count h₁).trans (Grows.of_run h₂)

theorem noteTimeout_grows {executor : Executor} {limits : Limits} {result : RunResult} {u : Unit}
    (h : noteTimeout result s = (u, t)) : Grows executor language limits s t [] := by
  unfold noteTimeout at h
  split at h
  · exact Grows.of_count h
  · obtain ⟨-, rfl⟩ := of_pure h
    exact Grows.refl rfl

theorem Starts.grows {text : String} {result : RunResult}
    (h : Starts r language text s result t) :
    Grows r.executor language r.config.limits s t [⟨.current, text, .ok result⟩] := by
  obtain ⟨s₁, h₁, h₂⟩ := h.ran
  simpa only [List.append_nil] using h₁.grows.trans (noteTimeout_grows h₂)

/-- A diagnosis runs the text itself, then possibly its harnesses. -/
theorem Diagnoses.grows {text : String} {result : RunResult} {d : ErrorRecord}
    (h : Diagnoses r language text s result d t) :
    ∃ checks, Grows r.executor language r.config.limits s t
        (⟨.current, text, .ok result⟩ :: checks)
      ∧ ∀ c ∈ checks, isHarness c = true := by
  cases h with
  | crash starts dirty known => exact ⟨[], starts.grows, List.forall_mem_nil _⟩
  | defect starts clean check =>
      obtain ⟨checks, hg, hharness, -⟩ := logicalDiagnosis_spec check
      exact ⟨checks, starts.grows.trans hg, hharness⟩

theorem Backed.grows {executor : Executor} {limits : Limits} {p : Progress}
    (h : Backed r label p s t) : Grows executor language limits s t [] := by
  obtain ⟨s₁, h₁, h₂⟩ := h
  exact (Grows.of_backUp h₁).trans (Grows.of_count h₂)

/-- A commit runs at most the harnesses of the text that it gives. -/
theorem Commits.grows {d : ErrorRecord} {p : Progress} {best : Scored} {turn : Turn}
    (h : Commits r index label language d p best s turn t) :
    ∃ checks, Grows r.executor language r.config.limits s t checks
      ∧ ∀ c ∈ checks, isHarness c = true := by
  cases h with
  | retrying backed dirty => exact ⟨[], backed.grows, List.forall_mem_nil _⟩
  | unsettled backed clean check left =>
      obtain ⟨checks, hg, hharness, -⟩ := logicalDiagnosis_spec check
      exact ⟨checks, backed.grows.trans hg, hharness⟩
  | settled backed clean check =>
      obtain ⟨checks, hg, hharness, -⟩ := logicalDiagnosis_spec check
      exact ⟨checks, backed.grows.trans hg, hharness⟩

/-- The runs of proposed candidates: the last run of the best candidate's text is its own. -/
theorem Selects.spec {p : Progress} {baseline : RunResult} {d : ErrorRecord}
    {candidates : List Candidate} {selection : Selection}
    (h : Selects r language p baseline d s candidates selection t) :
    ∃ calls call, Grows r.executor language r.config.limits s t calls
      ∧ EndsWith selection.best.candidate.patched call [] calls
      ∧ selection.best.result = candidateResult language call.answer := by
  obtain ⟨generated, s₁, h₁, rfl, h₂⟩ := h
  obtain ⟨runs, calls, hmap, hg, hruns, run, hrun, hbest⟩ := selectAgainst_spec h₂
  have hnodup : (runs.map fun run => run.1.patched).Nodup := by
    have h := Candidate.nodup_patched_usable r.config.rules p.current p.tried
      r.config.maxCandidates generated
    rwa [← hmap, List.map_map] at h
  obtain ⟨call, hends, hcall⟩ := endsWith_of_mem hruns hnodup hrun
  refine ⟨calls, call, (Grows.of_generate h₁).trans hg, ?_, ?_⟩
  · rw [hbest]
    exact hends
  · rw [hbest]
    exact hcall.result

/-- A text whose clean run and whose check end a log was found clean exactly when the check found
nothing. -/
theorem EndsWith.foundClean_check {text : String} {call : Call} {calls : List Call}
    {result : RunResult} {found : Except RepairFault (Option ErrorRecord)}
    (hends : EndsWith text call [] calls) (hcall : call.answer = .ok result)
    (clean : result.succeeded = true)
    (check : r.logicalDiagnosis language text result s = (found, t)) :
    ∃ checks, Grows r.executor language r.config.limits s t checks
      ∧ ∀ earlier, FoundClean r.config language text (earlier ++ (calls ++ checks)) ↔
          found = .ok none := by
  obtain ⟨checks, hg, hharness, hiff⟩ := logicalDiagnosis_spec check
  refine ⟨checks, hg, fun earlier => ?_⟩
  rw [((hends.append_checks hharness).append_left earlier).foundClean_iff, hiff, hcall]
  simp [clean]

/-- A commit after the runs of candidates, the last run of the text that it gives among them. -/
theorem Commits.lawful {d : ErrorRecord} {p : Progress} {best : Scored} {turn : Turn}
    {calls : List Call} {call : Call} (h : Commits r index label language d p best s turn t)
    (hd : d.isError = true) (hends : EndsWith best.candidate.patched call [] calls)
    (hresult : best.result = candidateResult language call.answer) :
    ∃ checks, Grows r.executor language r.config.limits s t checks
      ∧ Lawful r language index turn (calls ++ checks) := by
  have hanswer (clean : best.result.succeeded = true) : call.answer = .ok best.result := by
    rw [hresult] at clean ⊢
    exact candidateResult_succeeded clean
  cases h with
  | retrying backed dirty =>
      refine ⟨[], backed.grows, rfl, nofun, nofun, fun _ => ⟨⟨rfl, ⟨d, rfl, hd⟩, .inr rfl⟩, ?_⟩⟩
      intro earlier hclean
      rw [List.append_nil] at hclean
      -- a text found clean ran clean last, and that was the run the candidate was scored by
      obtain ⟨result, hcall, hsucceeded, -⟩ :=
        (hends.append_left earlier).foundClean_iff.mp hclean
      rw [hresult, hcall, candidateResult, hsucceeded] at dirty
      cases dirty
  | unsettled backed clean check left =>
      obtain ⟨checks, hg, hiff⟩ := hends.foundClean_check (hanswer clean) clean check
      refine ⟨checks, backed.grows.trans hg, rfl, nofun, nofun, fun _ => ?_⟩
      exact ⟨⟨rfl, ⟨d, rfl, hd⟩, .inl rfl⟩, fun earlier hclean => left ((hiff earlier).mp hclean)⟩
  | settled backed clean check =>
      obtain ⟨checks, hg, hiff⟩ := hends.foundClean_check (hanswer clean) clean check
      exact ⟨checks, backed.grows.trans hg, rfl, nofun,
        fun _ => ⟨rfl, fun earlier => (hiff earlier).mpr rfl⟩, nofun⟩

theorem Treats.lawful {p : Progress} {baseline : RunResult} {d : ErrorRecord} {turn : Turn}
    (h : Treats r index label language p baseline d s turn t) (hd : d.isError = true) :
    ∃ calls, Grows r.executor language r.config.limits s t calls
      ∧ Lawful r language index turn calls := by
  cases h with
  | untreated proposed none => exact ⟨[], Grows.of_generate proposed, lawful_failed nofun⟩
  | unsuitable selects worthless told =>
      obtain ⟨calls, call, hg, -, -⟩ := selects.spec
      exact ⟨_, hg.trans (Grows.of_tell told), lawful_failed nofun⟩
  | committed selects worth commits =>
      obtain ⟨calls, call, hg, hends, hresult⟩ := selects.spec
      obtain ⟨checks, hg', hlawful⟩ := commits.lawful hd hends hresult
      exact ⟨_, hg.trans hg', hlawful⟩

/-- The calls of an iteration stay the law of its record when further calls stand before them. -/
theorem Lawful.append_left {turn : Turn} {calls : List Call}
    (h : Lawful r language index turn calls) (before : List Call) :
    Lawful r language index turn (before ++ calls) where
  index_eq := h.index_eq
  failed := h.failed
  succeeded hv := by
    refine ⟨(h.succeeded hv).1, fun earlier => ?_⟩
    rw [← List.append_assoc]
    exact (h.succeeded hv).2 _
  running hv := by
    refine ⟨(h.running hv).1, fun earlier => ?_⟩
    rw [← List.append_assoc]
    exact (h.running hv).2 _

/-- Every way that an iteration can go pairs its record with the right verdict. -/
theorem Iterates.lawful {p : Progress} {turn : Turn}
    (h : Iterates r index label language p s turn t) :
    ∃ calls, Grows r.executor language r.config.limits s t calls
      ∧ Lawful r language index turn calls := by
  cases h with
  | faulted examines => exact ⟨_, examines.grows, lawful_failed nofun⟩
  | notStarted examines spawnFailed => exact ⟨_, examines.grows, lawful_failed nofun⟩
  | checkFaulted starts clean check =>
      obtain ⟨checks, hg, -⟩ := logicalDiagnosis_spec check
      exact ⟨_, starts.grows.trans hg, lawful_failed nofun⟩
  | clean starts clean check =>
      obtain ⟨checks, hg, hiff⟩ :=
        (EndsWith.singleton ⟨.current, _, .ok _⟩ rfl).foundClean_check rfl clean check
      exact ⟨_, starts.grows.trans hg, rfl, nofun,
        fun _ => ⟨rfl, fun earlier => (hiff earlier).mpr rfl⟩, nofun⟩
  | undiagnosed starts dirty unknown => exact ⟨_, starts.grows, lawful_failed nofun⟩
  | treated diagnoses treats =>
      obtain ⟨checks, hg, -⟩ := diagnoses.grows
      obtain ⟨calls, hg', hlawful⟩ := treats.lawful diagnoses.isError
      exact ⟨_, hg.trans hg', hlawful.append_left _⟩

end Repairer

end Remedy
