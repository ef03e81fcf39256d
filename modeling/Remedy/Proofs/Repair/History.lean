import Remedy.Proofs.Repair.Iteration

/-!
# The history of a repair

By induction over the loop (`Loops`), from the law of one iteration: the history and the outcome of
every repair are well formed (`WellFormed`, `repair_wellFormed`).
-/

namespace Remedy

open Repairing

namespace Repairer

variable {r : Repairer} {index : Nat} {label : String} {language : Language} {s t : Session}

/-! ## The loop -/

/-- The loop, one constructor for each way that it can go on: it is out of iterations, it stops
after one, or it goes on after one. -/
inductive Loops (r : Repairer) (label : String) (language : Language) :
    (left index : Nat) → Progress → Session → List IterationRecord → Verdict → Progress →
      Session → Prop
  | out {index : Nat} {p : Progress} {s : Session} :
      Loops r label language 0 index p s [] .running p s
  | stop {left index : Nat} {p : Progress} {turn : Turn} {s t u : Session}
      (step : Iterates r index label language p s turn t)
      (told : tell (.iterationFinished index turn.record.status
        (turn.record.appliedPatch.map (·.id))) t = ((), u))
      (ended : turn.verdict ≠ .running) :
      Loops r label language (left + 1) index p s [turn.record] turn.verdict turn.progress u
  | next {left index : Nat} {p last : Progress} {turn : Turn} {s t u v : Session}
      {records : List IterationRecord} {verdict : Verdict}
      (step : Iterates r index label language p s turn t)
      (told : tell (.iterationFinished index turn.record.status
        (turn.record.appliedPatch.map (·.id))) t = ((), u))
      (running : turn.verdict = .running)
      (rest : Loops r label language left (index + 1) turn.progress u records verdict last v) :
      Loops r label language (left + 1) index p s (turn.record :: records) verdict last v

theorem iterations_loops {left : Nat} {p last : Progress} {records : List IterationRecord}
    {verdict : Verdict}
    (h : r.iterations label language left index p s = ((records, verdict, last), t)) :
    Loops r label language left index p s records verdict last t := by
  induction left generalizing index p s records with
  | zero =>
      obtain ⟨heq, rfl⟩ := of_pure h
      cases heq
      exact .out
  | succ left ih =>
      obtain ⟨turn, s₁, h₁, h⟩ := of_bind h
      obtain ⟨_, s₂, h₂, h⟩ := of_bind h
      have step := iterate_iterates h₁
      cases hv : turn.verdict with
      | running =>
          simp only [hv] at h
          obtain ⟨⟨others, v, q⟩, s₃, h₃, h⟩ := of_bind h
          obtain ⟨heq, rfl⟩ := of_pure h
          cases heq
          exact .next step h₂ hv (ih h₃)
      | succeeded =>
          simp only [hv] at h
          obtain ⟨heq, rfl⟩ := of_pure h
          cases heq
          rw [← hv]
          exact .stop step h₂ (by rw [hv]; nofun)
      | failed reason =>
          simp only [hv] at h
          obtain ⟨heq, rfl⟩ := of_pure h
          cases heq
          rw [← hv]
          exact .stop step h₂ (by rw [hv]; nofun)

/-! ## The law of a run of the loop -/

/-- The records of a run of the loop agree with its verdict, and the verdict with whether the text
that it leaves was found clean. -/
structure LawfulRun (left index : Nat) (records : List IterationRecord) (verdict : Verdict)
    (endedClean : Prop) : Prop where
  length_le : records.length ≤ left
  indexes : records.map (·.index) = List.range' index records.length
  before_last : ∀ record ∈ records.dropLast, IsCommit record
  running : verdict = .running →
    records.length = left ∧ (∀ record ∈ records, IsCommit record) ∧ ¬ endedClean
  succeeded : verdict = .succeeded →
    endedClean ∧ ∃ record, records.getLast? = some record ∧ record.status = .fixed
  failed : ∀ reason, verdict = .failed reason → (∀ n, reason ≠ .budgetExhausted n)
    ∧ ∃ record, records.getLast? = some record
      ∧ record.status = .failed ∧ record.appliedPatch = none

theorem LawfulRun.out {endedClean : Prop} (h : ¬ endedClean) :
    LawfulRun 0 index [] .running endedClean where
  length_le := Nat.le_refl 0
  indexes := rfl
  before_last := List.forall_mem_nil _
  running _ := ⟨rfl, List.forall_mem_nil _, h⟩
  succeeded := nofun
  failed := nofun

theorem LawfulRun.stop {left : Nat} {turn : Turn} {calls : List Call}
    (h : Lawful r language index turn calls) (ended : turn.verdict ≠ .running)
    (earlier : List Call) :
    LawfulRun (left + 1) index [turn.record] turn.verdict
      (FoundClean r.config language turn.progress.current (earlier ++ calls)) where
  length_le := Nat.succ_le_succ (Nat.zero_le left)
  indexes := congrArg (fun i => [i]) h.index_eq
  before_last := List.forall_mem_nil _
  running hv := absurd hv ended
  succeeded hv := ⟨(h.succeeded hv).2 earlier, turn.record, rfl, (h.succeeded hv).1⟩
  failed reason hv := by
    obtain ⟨hstatus, hpatch, hreason⟩ := h.failed reason hv
    exact ⟨hreason, turn.record, rfl, hstatus, hpatch⟩

theorem LawfulRun.next {left : Nat} {record : IterationRecord} {records : List IterationRecord}
    {verdict : Verdict} {endedClean : Prop} (hindex : record.index = index)
    (hcommit : IsCommit record) (h : LawfulRun left (index + 1) records verdict endedClean) :
    LawfulRun (left + 1) index (record :: records) verdict endedClean := by
  have hlast {b : IterationRecord} (hb : records.getLast? = some b) :
      (record :: records).getLast? = some b := by
    rw [List.getLast?_cons, hb, Option.getD_some]
  refine ⟨Nat.succ_le_succ h.length_le, ?_, ?_, ?_, ?_, ?_⟩
  · rw [List.map_cons, h.indexes, hindex, List.length_cons, List.range'_succ]
  · cases records with
    | nil => exact List.forall_mem_nil _
    | cons b records =>
        rw [List.dropLast_cons_cons]
        exact List.forall_mem_cons.mpr ⟨hcommit, h.before_last⟩
  · intro hv
    obtain ⟨hlen, hall, hdirty⟩ := h.running hv
    exact ⟨congrArg Nat.succ hlen, List.forall_mem_cons.mpr ⟨hcommit, hall⟩, hdirty⟩
  · intro hv
    obtain ⟨hclean, b, hb, hfixed⟩ := h.succeeded hv
    exact ⟨hclean, b, hlast hb, hfixed⟩
  · intro reason hv
    obtain ⟨hreason, b, hb, hfailed⟩ := h.failed reason hv
    exact ⟨hreason, b, hlast hb, hfailed⟩

/-- Every run of the loop is lawful, if what it starts from was not found clean before. -/
theorem Loops.lawful {left : Nat} {p last : Progress} {records : List IterationRecord}
    {verdict : Verdict} (h : Loops r label language left index p s records verdict last t) :
    ∃ calls, Grows r.executor language r.config.limits s t calls ∧ (left = 0 → calls = [])
      ∧ ∀ earlier, ¬ FoundClean r.config language p.current earlier →
        LawfulRun left index records verdict
          (FoundClean r.config language last.current (earlier ++ calls)) := by
  induction h with
  | @out index p s =>
      refine ⟨[], Grows.refl rfl, fun _ => rfl, fun earlier hdirty => .out ?_⟩
      rwa [List.append_nil]
  | stop step told ended =>
      obtain ⟨calls, hg, hlawful⟩ := step.lawful
      refine ⟨calls ++ [], hg.trans (Grows.of_tell told), nofun, fun earlier _ => ?_⟩
      rw [List.append_nil]
      exact .stop hlawful ended earlier
  | next step told running rest ih =>
      obtain ⟨calls, hg, hlawful⟩ := step.lawful
      obtain ⟨others, hg', -, hrest⟩ := ih
      refine ⟨calls ++ others, ?_, nofun, fun earlier _ => ?_⟩
      · simpa only [List.append_nil] using (hg.trans (Grows.of_tell told)).trans hg'
      · obtain ⟨hcommit, hdirty⟩ := hlawful.running running
        -- the text that the next iteration starts from is still dirty after these calls
        rw [← List.append_assoc]
        exact .next hlawful.index_eq hcommit (hrest _ (hdirty earlier))

/-! ## The law of an outcome -/

/-- An outcome and its history are well formed, under a budget of iterations and for a final text
that was or was not found clean at the end. -/
structure WellFormed (budget : Nat) (endedClean : Prop) (o : RepairOutcome) : Prop where
  length_le : o.totalIterations ≤ budget
  indexes : o.iterations.map (·.index) = List.range' 1 o.totalIterations
  before_last : ∀ record ∈ o.iterations.dropLast, IsCommit record
  failed_record : ∀ i record, o.iterations[i]? = some record → record.status = .failed →
    i + 1 = o.totalIterations ∧ record.appliedPatch = none
  failed_iff : o.status = .failed ↔
    ∃ record, o.iterations.getLast? = some record ∧ record.status = .failed
  failed_reason : o.status = .failed →
    ∃ reason, o.reason = some reason ∧ ∀ n, reason ≠ .budgetExhausted n
  exhausted_iff : o.status = .maxIterationsReached ↔ o.totalIterations = budget
    ∧ (∀ record ∈ o.iterations, record.appliedPatch.isSome = true) ∧ ¬ endedClean
  exhausted_reason : o.status = .maxIterationsReached → o.reason = some (.budgetExhausted budget)
  success_iff : o.status = .success ↔
    (∃ record, o.iterations.getLast? = some record ∧ record.status = .fixed) ∧ endedClean
  success_reason : o.status = .success → o.reason = none
  success_flag : o.success = true ↔ o.status = .success

def outcomeOf (budget : Nat) (records : List IterationRecord) (verdict : Verdict)
    (last : Progress) : RepairOutcome :=
  { success := (verdict.outcome budget).1 = .success, finalSource := last.current,
    iterations := records, status := (verdict.outcome budget).1,
    reason := (verdict.outcome budget).2 }

section Outcome

variable {budget : Nat} {records : List IterationRecord} {verdict : Verdict} {endedClean : Prop}

/-- Only a failed run of the loop ends with a failed record. -/
theorem LawfulRun.failed_of_last (h : LawfulRun budget 1 records verdict endedClean)
    {record : IterationRecord} (hlast : records.getLast? = some record)
    (hstatus : record.status = .failed) :
    (∃ reason, verdict = .failed reason) ∧ record.appliedPatch = none := by
  cases verdict with
  | running =>
      obtain ⟨-, hall, -⟩ := h.running rfl
      rcases (hall record (List.mem_of_getLast? hlast)).status with heq | heq <;>
        cases hstatus.symm.trans heq
  | succeeded =>
      obtain ⟨-, b, hb, hfixed⟩ := h.succeeded rfl
      cases hlast.symm.trans hb
      cases hstatus.symm.trans hfixed
  | failed reason =>
      obtain ⟨-, b, hb, -, hpatch⟩ := h.failed reason rfl
      cases hlast.symm.trans hb
      exact ⟨⟨reason, rfl⟩, hpatch⟩

/-- A failed record is the last one. -/
theorem LawfulRun.last_of_failed (h : LawfulRun budget 1 records verdict endedClean) {i : Nat}
    {record : IterationRecord} (hi : records[i]? = some record)
    (hstatus : record.status = .failed) :
    i + 1 = records.length ∧ records.getLast? = some record := by
  obtain ⟨hlt, rfl⟩ := List.getElem?_eq_some_iff.mp hi
  have hlen : i + 1 = records.length := by
    by_contra hne
    have hlt' : i < records.dropLast.length := by
      rw [List.length_dropLast]
      omega
    have hmem : records[i] ∈ records.dropLast :=
      List.mem_iff_getElem.mpr ⟨i, hlt', List.getElem_dropLast hlt'⟩
    rcases (h.before_last _ hmem).status with heq | heq <;> cases hstatus.symm.trans heq
  refine ⟨hlen, ?_⟩
  rw [List.getLast?_eq_getElem?, ← hlen, Nat.add_sub_cancel]
  exact hi

theorem LawfulRun.wellFormed (h : LawfulRun budget 1 records verdict endedClean)
    (last : Progress) :
    WellFormed budget endedClean (outcomeOf budget records verdict last) where
  length_le := h.length_le
  indexes := h.indexes
  before_last := h.before_last
  failed_record i record hi hstatus := by
    obtain ⟨hlen, hlast⟩ := h.last_of_failed hi hstatus
    exact ⟨hlen, (h.failed_of_last hlast hstatus).2⟩
  failed_iff := by
    constructor
    · intro hs
      cases verdict with
      | running => cases hs
      | succeeded => cases hs
      | failed reason =>
          obtain ⟨-, record, hlast, hstatus, -⟩ := h.failed reason rfl
          exact ⟨record, hlast, hstatus⟩
    · rintro ⟨record, hlast, hstatus⟩
      obtain ⟨⟨reason, rfl⟩, -⟩ := h.failed_of_last hlast hstatus
      rfl
  failed_reason hs := by
    cases verdict with
    | running => cases hs
    | succeeded => cases hs
    | failed reason => exact ⟨reason, rfl, (h.failed reason rfl).1⟩
  exhausted_iff := by
    constructor
    · intro hs
      cases verdict with
      | running =>
          obtain ⟨hlen, hall, hdirty⟩ := h.running rfl
          exact ⟨hlen, fun record hr => (hall record hr).patch, hdirty⟩
      | succeeded => cases hs
      | failed reason => cases hs
    · rintro ⟨-, hall, hdirty⟩
      cases verdict with
      | running => rfl
      | succeeded => exact absurd (h.succeeded rfl).1 hdirty
      | failed reason =>
          obtain ⟨-, record, hlast, -, hpatch⟩ := h.failed reason rfl
          have hsome := hall record (List.mem_of_getLast? hlast)
          rw [hpatch] at hsome
          cases hsome
  exhausted_reason hs := by
    cases verdict with
    | running => rfl
    | succeeded => cases hs
    | failed reason => cases hs
  success_iff := by
    constructor
    · intro hs
      cases verdict with
      | running => cases hs
      | succeeded =>
          obtain ⟨hclean, hlast⟩ := h.succeeded rfl
          exact ⟨hlast, hclean⟩
      | failed reason => cases hs
    · rintro ⟨⟨record, hlast, hfixed⟩, hclean⟩
      cases verdict with
      | running => exact absurd hclean (h.running rfl).2.2
      | succeeded => rfl
      | failed reason =>
          obtain ⟨-, b, hb, hstatus, -⟩ := h.failed reason rfl
          cases hlast.symm.trans hb
          cases hfixed.symm.trans hstatus
  success_reason hs := by
    cases verdict with
    | running => cases hs
    | succeeded => rfl
    | failed reason => cases hs
  success_flag := decide_eq_true_iff

end Outcome

/-! ## The law of a repair -/

/-- A repair is a run of the loop from its text, between calls of no program. -/
theorem repair_loops {source : String} {o : RepairOutcome}
    (h : r.repair label language source s = (o, t)) :
    ∃ s' records verdict last t', s'.calls = s.calls
      ∧ Loops r label language r.config.maxIterations 1 { current := source } s' records verdict
        last t'
      ∧ t'.calls = t.calls ∧ o = outcomeOf r.config.maxIterations records verdict last := by
  unfold repair at h
  obtain ⟨_, s₁, h₁, h⟩ := of_bind h
  obtain ⟨_, s₂, h₂, h⟩ := of_bind h
  obtain ⟨⟨records, verdict, last⟩, s₃, h₃, h⟩ := of_bind h
  obtain ⟨_, s₄, h₄, h⟩ := of_bind h
  obtain ⟨_, s₅, h₅, h⟩ := of_bind h
  obtain ⟨rfl, rfl⟩ := of_pure h
  obtain rfl := of_tell h₁
  obtain rfl := of_tell h₂
  obtain rfl := of_tell h₄
  obtain rfl := of_tell h₅
  refine ⟨_, records, verdict, last, s₃, ?_, iterations_loops h₃, rfl, rfl⟩
  rfl

/-- No text was found clean where nothing was run. -/
theorem not_foundClean_nil {config : RepairConfig} {source : String} :
    ¬ FoundClean config language source [] := by
  rintro ⟨call, result, hcall, -⟩
  cases hcall

/-- Every repair is lawful from its own first call on. -/
theorem repair_lawful {source : String} {o : RepairOutcome}
    (h : r.repair label language source s = (o, t)) :
    ∃ calls, Grows r.executor language r.config.limits s t calls
      ∧ (r.config.maxIterations = 0 → calls = [])
      ∧ WellFormed r.config.maxIterations (FoundClean r.config language o.finalSource calls) o := by
  obtain ⟨s', records, verdict, last, t', hs, hloops, ht, rfl⟩ := repair_loops h
  obtain ⟨calls, hg, hnone, hrun⟩ := hloops.lawful
  refine ⟨calls, ⟨?_, ?_⟩, hnone, (hrun [] not_foundClean_nil).wellFormed last⟩
  · rw [← ht, hg.log, hs]
  · rw [← hs]
    exact hg.answered

/-- The outcome of every repair and its history are well formed, whatever the executor, the
generators and the sink answer. -/
theorem repair_wellFormed (r : Repairer) (label : String) (language : Language) (source : String)
    (s : Session) :
    ∃ calls, (r.repair label language source s).2.calls = s.calls ++ calls
      ∧ (r.config.maxIterations = 0 → calls = [])
      ∧ WellFormed r.config.maxIterations
        (FoundClean r.config language (r.repair label language source s).1.finalSource calls)
        (r.repair label language source s).1 := by
  obtain ⟨calls, hg, hnone, hwell⟩ :=
    repair_lawful (Prod.eta (r.repair label language source s)).symm
  exact ⟨calls, hg.log, hnone, hwell⟩

end Repairer

end Remedy
