import Remedy.Archive.Repair
import Remedy.Proofs.Archive.Sandbox

/-!
# Archived outcomes and settings are read back

The encodings of error records, candidates, outcomes and settings agree with their decodings, type
by type from the parts up, where the numbers fit the machine. With the tables of toolchains this
gives the law of the archive (`archived_reads_back`): a text that was written is read as what was
written.
-/

namespace Remedy

open Archive

/-! ## Findings and error records -/

theorem FindingCategory.agrees :
    Agrees FindingCategory.toJson FindingCategory.ofJson? (fun _ => True) 0 where
  plain _ := plain_str ..
  reads {c} _ := by cases c <;> decide
  ranged _ := trivial

namespace ErrorKind

theorem agrees : Agrees toJson ofJson? (fun _ => True) 1 where
  plain {k} _ := by cases k <;> exact Json.Plain.ofFields (by simp [FindingCategory.toJson])
  reads {k} _ := by
    cases k
    case logical =>
      rw [toJson, ofJson?, tagged?_ofFields rfl, Option.bind_eq_bind, Option.bind_some]
      simp only [Option.bind_eq_bind, Option.bind_eq_some_iff, Option.pure_def, Option.some.injEq]
      exact ⟨_, record?_ofFields .., _, FindingCategory.agrees.get? trivial rfl, rfl⟩
    case runtime =>
      rw [toJson, ofJson?, tagged?_ofFields rfl, Option.bind_eq_bind, Option.bind_some]
      simp only [Option.bind_eq_bind, Option.bind_eq_some_iff, Option.pure_def, Option.some.injEq]
      exact ⟨_, record?_ofFields .., _, agrees_text.get? trivial rfl, rfl⟩
    all_goals rfl
  ranged _ := trivial

end ErrorKind

namespace ErrorRecord

def InRange (r : ErrorRecord) : Prop := ∀ n ∈ r.line, IsNat32 n

theorem agrees : Agrees toJson ofJson? InRange 2 where
  plain {r} hr := by
    have hkind := (ErrorKind.agrees.option rfl).plain (a := r.kind) (by simp)
    have hline := ((agrees_nat32.option rfl).plain hr).mono (Nat.zero_le 1)
    have htext (o : Option String) :=
      ((agrees_text.option rfl).plain (a := o) (by simp)).mono (Nat.zero_le 1)
    exact Json.Plain.ofFields (by simp [Json.ofText?, hkind, hline, htext])
  reads hr := by
    simp only [ofJson?, Option.bind_eq_bind, Option.bind_eq_some_iff, Option.pure_def,
      Option.some.injEq]
    exact ⟨_, record?_ofFields .., _, ErrorKind.agrees.getOption? rfl (by simp) rfl, _,
      agrees_nat32.getOption? rfl hr rfl, _, agrees_text.getOption? rfl (by simp) rfl, _,
      agrees_text.getOption? rfl (by simp) rfl, _, agrees_text.getOption? rfl (by simp) rfl, rfl⟩
  ranged h := by
    simp only [ofJson?, Option.bind_eq_bind, Option.bind_eq_some_iff, Option.pure_def,
      Option.some.injEq] at h
    obtain ⟨fields, -, _, -, line, hline, _, -, _, -, _, -, rfl⟩ := h
    exact agrees_nat32.of_getOption? hline

end ErrorRecord

/-! ## Candidates -/

theorem PatchKind.agrees : Agrees PatchKind.toJson PatchKind.ofJson? (fun _ => True) 0 where
  plain {k} _ := by cases k <;> exact plain_str ..
  reads {k} _ := by cases k <;> rfl
  ranged _ := trivial

theorem Candidate.agrees : Agrees Candidate.toJson Candidate.ofJson? (fun _ => True) 1 where
  plain {c} _ := by
    have hkind := PatchKind.agrees.plain (a := c.kind) trivial
    exact Json.Plain.ofFields (by simp [hkind])
  reads _ := by
    simp only [ofJson?, Option.bind_eq_bind, Option.bind_eq_some_iff, Option.pure_def,
      Option.some.injEq]
    exact ⟨_, record?_ofFields .., _, agrees_text.get? trivial rfl, _,
      agrees_text.get? trivial rfl, _, agrees_text.get? trivial rfl, _,
      agrees_text.get? trivial rfl, _, PatchKind.agrees.get? trivial rfl, _,
      agrees_bool.get? trivial rfl, rfl⟩
  ranged _ := trivial

namespace ScoreBreakdown

structure InRange (s : ScoreBreakdown) : Prop where
  exitBonus : IsInt64 s.exitBonus
  primaryBonus : IsInt64 s.primaryBonus
  errorDelta : IsInt64 s.errorDelta
  kindTransition : IsInt64 s.kindTransition
  diffSize : IsInt64 s.diffSize
  outputBonus : IsInt64 s.outputBonus

theorem agrees : Agrees toJson ofJson? InRange 1 where
  plain hs := by
    have hterm {n : Int} (hn : IsInt64 n) := agrees_int64.plain hn
    exact Json.Plain.ofFields (by
      simp [hterm hs.exitBonus, hterm hs.primaryBonus, hterm hs.errorDelta,
        hterm hs.kindTransition, hterm hs.diffSize, hterm hs.outputBonus])
  reads hs := by
    simp only [ofJson?, Option.bind_eq_bind, Option.bind_eq_some_iff, Option.pure_def,
      Option.some.injEq]
    exact ⟨_, record?_ofFields .., _, agrees_int64.get? hs.exitBonus rfl, _,
      agrees_int64.get? hs.primaryBonus rfl, _, agrees_int64.get? hs.errorDelta rfl, _,
      agrees_int64.get? hs.kindTransition rfl, _, agrees_int64.get? hs.diffSize rfl, _,
      agrees_int64.get? hs.outputBonus rfl, rfl⟩
  ranged h := by
    simp only [ofJson?, Option.bind_eq_bind, Option.bind_eq_some_iff, Option.pure_def,
      Option.some.injEq] at h
    obtain ⟨fields, -, _, hexit, _, hprimary, _, herror, _, hkind, _, hdiff, _, houtput, rfl⟩ := h
    exact ⟨agrees_int64.of_get? hexit, agrees_int64.of_get? hprimary, agrees_int64.of_get? herror,
      agrees_int64.of_get? hkind, agrees_int64.of_get? hdiff, agrees_int64.of_get? houtput⟩

end ScoreBreakdown

namespace Scored

structure InRange (s : Scored) : Prop where
  score : IsInt64 s.score
  breakdown : s.breakdown.InRange
  result : s.result.InRange

theorem agrees : Agrees toJson ofJson? InRange 3 where
  plain {s} hs := by
    have hcandidate := (Candidate.agrees.plain (a := s.candidate) trivial).succ
    have hscore := (agrees_int64.plain hs.score).mono (Nat.zero_le 2)
    have hbreakdown := (ScoreBreakdown.agrees.plain hs.breakdown).succ
    have hresult := RunResult.agrees.plain hs.result
    exact Json.Plain.ofFields (by simp [hcandidate, hscore, hbreakdown, hresult])
  reads hs := by
    simp only [ofJson?, Option.bind_eq_bind, Option.bind_eq_some_iff, Option.pure_def,
      Option.some.injEq]
    exact ⟨_, record?_ofFields .., _, Candidate.agrees.get? trivial rfl, _,
      agrees_int64.get? hs.score rfl, _, ScoreBreakdown.agrees.get? hs.breakdown rfl, _,
      RunResult.agrees.get? hs.result rfl, rfl⟩
  ranged h := by
    simp only [ofJson?, Option.bind_eq_bind, Option.bind_eq_some_iff, Option.pure_def,
      Option.some.injEq] at h
    obtain ⟨fields, -, _, -, _, hscore, _, hbreakdown, _, hresult, rfl⟩ := h
    exact ⟨agrees_int64.of_get? hscore, ScoreBreakdown.agrees.of_get? hbreakdown,
      RunResult.agrees.of_get? hresult⟩

end Scored

namespace Selection

structure InRange (s : Selection) : Prop where
  best : s.best.InRange
  ranked : ∀ c ∈ s.ranked, c.InRange
  baseline : s.baseline.InRange

theorem agrees : Agrees toJson ofJson? InRange 5 where
  plain hs := by
    have hbest := (Scored.agrees.plain hs.best).succ
    have hranked := Scored.agrees.list.plain hs.ranked
    have hbaseline := ((RunResult.agrees.plain hs.baseline).succ).succ
    exact Json.Plain.ofFields (by simp [hbest, hranked, hbaseline])
  reads hs := by
    simp only [ofJson?, Option.bind_eq_bind, Option.bind_eq_some_iff, Option.pure_def,
      Option.some.injEq]
    exact ⟨_, record?_ofFields .., _, Scored.agrees.get? hs.best rfl, _,
      Scored.agrees.list.get? hs.ranked rfl, _, RunResult.agrees.get? hs.baseline rfl, rfl⟩
  ranged h := by
    simp only [ofJson?, Option.bind_eq_bind, Option.bind_eq_some_iff, Option.pure_def,
      Option.some.injEq] at h
    obtain ⟨fields, -, _, hbest, _, hranked, _, hbaseline, rfl⟩ := h
    exact ⟨Scored.agrees.of_get? hbest, Scored.agrees.list.of_get? hranked,
      RunResult.agrees.of_get? hbaseline⟩

end Selection

namespace CandidateScore

def InRange (s : CandidateScore) : Prop := IsInt64 s.score

theorem agrees : Agrees toJson ofJson? InRange 1 where
  plain hs := Json.Plain.ofFields (by simp [agrees_int64.plain hs])
  reads hs := by
    simp only [ofJson?, Option.bind_eq_bind, Option.bind_eq_some_iff, Option.pure_def,
      Option.some.injEq]
    exact ⟨_, record?_ofFields .., _, agrees_text.get? trivial rfl, _, agrees_int64.get? hs rfl,
      rfl⟩
  ranged h := by
    simp only [ofJson?, Option.bind_eq_bind, Option.bind_eq_some_iff, Option.pure_def,
      Option.some.injEq] at h
    obtain ⟨fields, -, _, -, _, hscore, rfl⟩ := h
    exact agrees_int64.of_get? hscore

end CandidateScore

/-! ## Outcomes -/

theorem IterationStatus.agrees :
    Agrees IterationStatus.toJson IterationStatus.ofJson? (fun _ => True) 0 where
  plain {s} _ := by cases s <;> exact plain_str ..
  reads {s} _ := by cases s <;> rfl
  ranged _ := trivial

namespace AppliedPatch

def InRange (p : AppliedPatch) : Prop := IsInt64 p.score

theorem agrees : Agrees toJson ofJson? InRange 1 where
  plain {p} hp := by
    have hkind := PatchKind.agrees.plain (a := p.kind) trivial
    exact Json.Plain.ofFields (by simp [hkind, agrees_int64.plain hp])
  reads hp := by
    simp only [ofJson?, Option.bind_eq_bind, Option.bind_eq_some_iff, Option.pure_def,
      Option.some.injEq]
    exact ⟨_, record?_ofFields .., _, agrees_text.get? trivial rfl, _,
      agrees_text.get? trivial rfl, _, PatchKind.agrees.get? trivial rfl, _,
      agrees_int64.get? hp rfl, rfl⟩
  ranged h := by
    simp only [ofJson?, Option.bind_eq_bind, Option.bind_eq_some_iff, Option.pure_def,
      Option.some.injEq] at h
    obtain ⟨fields, -, _, -, _, -, _, -, _, hscore, rfl⟩ := h
    exact agrees_int64.of_get? hscore

end AppliedPatch

namespace IterationRecord

structure InRange (r : IterationRecord) : Prop where
  index : IsNat32 r.index
  diagnosis : ∀ d ∈ r.diagnosis, d.InRange
  appliedPatch : ∀ p ∈ r.appliedPatch, p.InRange

theorem agrees : Agrees toJson ofJson? InRange 3 where
  plain {r} hr := by
    have hindex := (agrees_nat32.plain hr.index).mono (Nat.zero_le 2)
    have hdiagnosis := (ErrorRecord.agrees.option rfl).plain hr.diagnosis
    have hpatch := ((AppliedPatch.agrees.option rfl).plain hr.appliedPatch).succ
    have hstatus := (IterationStatus.agrees.plain (a := r.status) trivial).mono (Nat.zero_le 2)
    exact Json.Plain.ofFields (by simp [hindex, hdiagnosis, hpatch, hstatus])
  reads hr := by
    simp only [ofJson?, Option.bind_eq_bind, Option.bind_eq_some_iff, Option.pure_def,
      Option.some.injEq]
    exact ⟨_, record?_ofFields .., _, agrees_nat32.get? hr.index rfl, _,
      ErrorRecord.agrees.getOption? rfl hr.diagnosis rfl, _,
      AppliedPatch.agrees.getOption? rfl hr.appliedPatch rfl, _,
      IterationStatus.agrees.get? trivial rfl, rfl⟩
  ranged h := by
    simp only [ofJson?, Option.bind_eq_bind, Option.bind_eq_some_iff, Option.pure_def,
      Option.some.injEq] at h
    obtain ⟨fields, -, _, hindex, _, hdiagnosis, _, hpatch, _, -, rfl⟩ := h
    exact ⟨agrees_nat32.of_get? hindex, ErrorRecord.agrees.of_getOption? hdiagnosis,
      AppliedPatch.agrees.of_getOption? hpatch⟩

end IterationRecord

theorem RepairStatus.agrees :
    Agrees RepairStatus.toJson RepairStatus.ofJson? (fun _ => True) 0 where
  plain {s} _ := by cases s <;> exact plain_str ..
  reads {s} _ := by cases s <;> rfl
  ranged _ := trivial

namespace FailureReason

/-- The numbers that a reason tells fit the machine. -/
def InRange : FailureReason → Prop
  | undiagnosable exitCode => IsInt32 exitCode
  | noSuitablePatch scored => ∀ s ∈ scored, s.InRange
  | budgetExhausted maxIterations => IsNat32 maxIterations
  | environment _ | noCandidates _ => True

theorem agrees : Agrees toJson ofJson? InRange 3 where
  plain {r} hr := by
    cases r with
    | environment message => exact Json.Plain.ofFields (by simp)
    | undiagnosable exitCode =>
        have hcode := (agrees_int32.plain hr).mono (Nat.zero_le 2)
        exact Json.Plain.ofFields (by simp [hcode])
    | noCandidates kind =>
        have hkind := ((ErrorKind.agrees.option rfl).plain (a := kind) (by simp)).succ
        exact Json.Plain.ofFields (by simp [hkind])
    | noSuitablePatch scored =>
        have hscored := CandidateScore.agrees.list.plain hr
        exact Json.Plain.ofFields (by simp [hscored])
    | budgetExhausted maxIterations =>
        have hmax := (agrees_nat32.plain hr).mono (Nat.zero_le 2)
        exact Json.Plain.ofFields (by simp [hmax])
  reads {r} hr := by
    cases r
    all_goals
      rw [toJson, ofJson?, tagged?_ofFields rfl, Option.bind_eq_bind, Option.bind_some]
      simp only [Option.bind_eq_bind, Option.bind_eq_some_iff, Option.pure_def, Option.some.injEq]
      refine ⟨_, record?_ofFields .., _, ?_, rfl⟩
    case environment => exact agrees_text.get? trivial rfl
    case undiagnosable => exact agrees_int32.get? hr rfl
    case noCandidates => exact ErrorKind.agrees.getOption? rfl (by simp) rfl
    case noSuitablePatch => exact CandidateScore.agrees.list.get? hr rfl
    case budgetExhausted => exact agrees_nat32.get? hr rfl
  ranged h := by
    obtain ⟨⟨tag, rest⟩, -, h⟩ := Option.bind_eq_some_iff.mp h
    split at h
    case h_6 => cases h
    all_goals
      simp only [Option.bind_eq_bind, Option.bind_eq_some_iff, Option.pure_def,
        Option.some.injEq] at h
    · obtain ⟨fields, -, _, -, rfl⟩ := h
      trivial
    · obtain ⟨fields, -, _, hcode, rfl⟩ := h
      exact agrees_int32.of_get? hcode
    · obtain ⟨fields, -, _, -, rfl⟩ := h
      trivial
    · obtain ⟨fields, -, _, hscored, rfl⟩ := h
      exact CandidateScore.agrees.list.of_get? hscored
    · obtain ⟨fields, -, _, hmax, rfl⟩ := h
      exact agrees_nat32.of_get? hmax

end FailureReason

namespace RepairOutcome

structure InRange (o : RepairOutcome) : Prop where
  iterations : ∀ r ∈ o.iterations, r.InRange
  reason : ∀ r ∈ o.reason, r.InRange

theorem agrees : Agrees toJson ofJson? InRange 5 where
  plain {o} ho := by
    have hiterations := IterationRecord.agrees.list.plain ho.iterations
    have hstatus := (RepairStatus.agrees.plain (a := o.status) trivial).mono (Nat.zero_le 4)
    have hreason := ((FailureReason.agrees.option rfl).plain ho.reason).succ
    exact Json.Plain.ofFields (by simp [hiterations, hstatus, hreason])
  reads ho := by
    simp only [ofJson?, Option.bind_eq_bind, Option.bind_eq_some_iff, Option.pure_def,
      Option.some.injEq]
    exact ⟨_, record?_ofFields .., _, agrees_bool.get? trivial rfl, _,
      agrees_text.get? trivial rfl, _, IterationRecord.agrees.list.get? ho.iterations rfl, _,
      RepairStatus.agrees.get? trivial rfl, _, FailureReason.agrees.getOption? rfl ho.reason rfl,
      rfl⟩
  ranged h := by
    simp only [ofJson?, Option.bind_eq_bind, Option.bind_eq_some_iff, Option.pure_def,
      Option.some.injEq] at h
    obtain ⟨fields, -, _, -, _, -, _, hiterations, _, -, _, hreason, rfl⟩ := h
    exact ⟨IterationRecord.agrees.list.of_get? hiterations,
      FailureReason.agrees.of_getOption? hreason⟩

end RepairOutcome

/-! ## Settings -/

theorem RuleSet.eq_of_toList_eq {set set' : RuleSet} (h : set.toList = set'.toList) :
    set = set' := by
  cases set
  cases set'
  cases h
  rfl

/-- A set is made again from its rules. -/
theorem RuleSet.ofList_toList (set : RuleSet) : ofList set.toList = set := by
  have hmem : ∀ (rules : List String) (front : RuleSet) (r : String),
      r ∈ (rules.foldl insert front).toList ↔ r ∈ front.toList ∨ r ∈ rules := by
    intro rules
    induction rules with
    | nil => simp
    | cons rule rules ih =>
        intro front r
        rw [List.foldl_cons, ih, mem_toList_insert, List.mem_cons]
        tauto
  refine eq_of_toList_eq ((ofList set.toList).sorted.eq_of_mem_iff set.sorted fun r => ?_)
  rw [ofList, hmem]
  exact or_iff_right List.not_mem_nil

namespace RuleFilter

theorem agrees : Agrees toJson ofJson? (fun _ => True) 2 where
  plain {f} _ := by
    have hlist (rules : List String) := agrees_text.list.plain (a := rules) (by simp)
    exact Json.Plain.ofFields (by simp [hlist])
  reads {f} _ := by
    simp only [ofJson?, Option.bind_eq_bind, Option.bind_eq_some_iff, Option.pure_def,
      Option.some.injEq]
    refine ⟨_, settings?_ofFields .., _, agrees_text.list.getD? (by simp) rfl, _,
      agrees_text.list.getD? (by simp) rfl, ?_⟩
    rw [ofLists, RuleSet.ofList_toList, RuleSet.ofList_toList]
  ranged _ := trivial

end RuleFilter

namespace RepairConfig

/-- The counts and the limits fit the machine. -/
structure InRange (c : RepairConfig) : Prop where
  maxIterations : IsNat32 c.maxIterations
  maxCandidates : IsNat64 c.maxCandidates
  maxParallelEvaluations : IsNat64 c.maxParallelEvaluations
  limits : c.limits.InRange

theorem inRange_default : InRange {} := ⟨by decide, by decide, by decide, Limits.inRange_default⟩

theorem agrees : Agrees toJson ofJson? InRange 3 where
  plain {c} hc := by
    have hiterations := (agrees_nat32.plain hc.maxIterations).mono (Nat.zero_le 2)
    have hcandidates := (agrees_nat64.plain hc.maxCandidates).mono (Nat.zero_le 2)
    have hparallel := (agrees_nat64.plain hc.maxParallelEvaluations).mono (Nat.zero_le 2)
    have hrules := RuleFilter.agrees.plain (a := c.rules) trivial
    have hlimits := (Limits.agrees.plain hc.limits).succ
    exact Json.Plain.ofFields
      (by simp [hiterations, hcandidates, hparallel, hrules, hlimits])
  reads hc := by
    simp only [ofJson?, Option.bind_eq_bind, Option.bind_eq_some_iff, Option.pure_def,
      Option.some.injEq]
    exact ⟨_, settings?_ofFields .., _, agrees_nat32.getD? hc.maxIterations rfl, _,
      agrees_bool.getD? trivial rfl, _, agrees_nat64.getD? hc.maxCandidates rfl, _,
      agrees_nat64.getD? hc.maxParallelEvaluations rfl, _, agrees_bool.getD? trivial rfl, _,
      agrees_bool.getD? trivial rfl, _, RuleFilter.agrees.getD? trivial rfl, _,
      Limits.agrees.getD? hc.limits rfl, rfl⟩
  ranged h := by
    simp only [ofJson?, Option.bind_eq_bind, Option.bind_eq_some_iff, Option.pure_def,
      Option.some.injEq] at h
    obtain ⟨fields, -, _, hiterations, _, -, _, hcandidates, _, hparallel, _, -, _, -, _, -, _,
      hlimits, rfl⟩ := h
    have hdefault := inRange_default
    exact ⟨agrees_nat32.of_getD? hdefault.maxIterations hiterations,
      agrees_nat64.of_getD? hdefault.maxCandidates hcandidates,
      agrees_nat64.of_getD? hdefault.maxParallelEvaluations hparallel,
      Limits.agrees.of_getD? hdefault.limits hlimits⟩

end RepairConfig

/-! ## What was archived -/

/-- Archived values come back unchanged. The text of an outcome, of a ranking and of settings is
read as that value exactly if its numbers fit the machine, and the text of a table of toolchains
always. -/
theorem archived_reads_back (outcome : RepairOutcome) (ranking : Selection)
    (config : RepairConfig) (table : ToolchainTable) :
    (decoded? RepairOutcome.ofJson? outcome.toJson.render = some outcome ↔ outcome.InRange)
      ∧ (decoded? Selection.ofJson? ranking.toJson.render = some ranking ↔ ranking.InRange)
      ∧ (decoded? RepairConfig.ofJson? config.toJson.render = some config ↔ config.InRange)
      ∧ decoded? ToolchainTable.ofJson? table.toJson.render = some table :=
  ⟨RepairOutcome.agrees.decoded?_render (by decide) outcome,
    Selection.agrees.decoded?_render (by decide) ranking,
    RepairConfig.agrees.decoded?_render (by decide) config,
    (ToolchainTable.agrees.decoded?_render (by decide) table).mpr trivial⟩

end Remedy
