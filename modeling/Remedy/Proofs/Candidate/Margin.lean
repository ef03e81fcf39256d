import Remedy.Proofs.Candidate.Ranking

/-!
# The margin of a clean run

The best of a selection is the run that leads (`Ranks.exists_leads`, `Ranks.best_eq_of_leads`). A
clean run earns 100. The other terms of a score (its merit) have no common bound, so that a run
that failed can be ahead by more than that: the best candidate ran clean exactly if some clean run
is not outweighed by a failed one (`Ranks.best_succeeded_iff`). A clean run that prints no error
lines and keeps the kind of error never is, if its patch changes at most seven lines
(`prevails_of_small`).
-/

namespace Remedy

/-- The terms of a score other than the one for a clean end. -/
def ScoreBreakdown.merit (s : ScoreBreakdown) : Int :=
  s.primaryBonus + s.errorDelta + s.kindTransition + s.diffSize + s.outputBonus

def Candidate.merit (baseline : RunResult) (run : Candidate × RunResult) : Int :=
  (run.1.score run.2 baseline).merit

open Candidate (merit)

variable {baseline : RunResult} {run : Candidate × RunResult}

/-! ## Scores by merit -/

theorem Scored.score_of_clean (h : run.2.succeeded = true) :
    (Scored.of baseline run.1 run.2).score = merit baseline run + 100 := by
  simp only [Scored.of, ScoreBreakdown.total, merit, ScoreBreakdown.merit, Candidate.score,
    Score.exitBonus, if_pos h]
  omega

theorem Scored.score_of_dirty (h : run.2.succeeded = false) :
    (Scored.of baseline run.1 run.2).score = merit baseline run := by
  simp only [Scored.of, ScoreBreakdown.total, merit, ScoreBreakdown.merit, Candidate.score,
    Score.exitBonus, h, Bool.false_eq_true, if_false]
  omega

namespace Selection

variable {runs : List (Candidate × RunResult)} {selection : Selection}

/-! ## The run that leads -/

def scoreOf (baseline : RunResult) (run : Candidate × RunResult) : Int :=
  (Scored.of baseline run.1 run.2).score

/-- A run leads some runs: it is one of them, ahead of those before it and not behind those after
it. -/
def Leads (baseline : RunResult) (runs : List (Candidate × RunResult))
    (run : Candidate × RunResult) : Prop :=
  ∃ before after, runs = before ++ run :: after
    ∧ (∀ other ∈ before, scoreOf baseline other < scoreOf baseline run)
    ∧ ∀ other ∈ after, scoreOf baseline other ≤ scoreOf baseline run

theorem Leads.mem (h : Leads baseline runs run) : run ∈ runs := by
  obtain ⟨before, after, rfl, -⟩ := h
  exact List.mem_append_right before List.mem_cons_self

theorem Leads.le (h : Leads baseline runs run) :
    ∀ other ∈ runs, scoreOf baseline other ≤ scoreOf baseline run := by
  obtain ⟨before, after, rfl, hbefore, hafter⟩ := h
  intro other hother
  rcases List.mem_append.mp hother with hother | hother
  · exact (hbefore other hother).le
  · rcases List.mem_cons.mp hother with rfl | hother
    · exact Int.le_refl _
    · exact hafter other hother

theorem Ranks.exists_leads
    (h : Ranks baseline (runs.map fun run => .of baseline run.1 run.2) selection) :
    ∃ run ∈ runs, selection.best = .of baseline run.1 run.2 ∧ Leads baseline runs run := by
  obtain ⟨scoredBefore, scoredAfter, hsplit, hbefore, hafter⟩ := h.earliest
  obtain ⟨before, rest, rfl, rfl, hrest⟩ := List.map_eq_append_iff.mp hsplit
  obtain ⟨run, after, rfl, hbest, rfl⟩ := List.map_eq_cons_iff.mp hrest
  rw [← hbest] at hbefore hafter
  refine ⟨run, by simp, hbest.symm, before, after, rfl, fun other hother => ?_,
    fun other hother => ?_⟩
  · exact hbefore _ (List.mem_map_of_mem hother)
  · exact hafter _ (List.mem_map_of_mem hother)

theorem Ranks.best_eq_of_leads
    (h : Ranks baseline (runs.map fun run => .of baseline run.1 run.2) selection)
    (hleads : Leads baseline runs run) : selection.best = .of baseline run.1 run.2 := by
  have hfind := h.find?_score
  obtain ⟨best, hmem, hbest, -⟩ := h.exists_leads
  have hle : selection.best.score ≤ scoreOf baseline run := by
    rw [hbest]
    exact hleads.le best hmem
  have hge : scoreOf baseline run ≤ selection.best.score :=
    h.score_le _ (List.mem_map_of_mem hleads.mem)
  have hscore : selection.best.score = scoreOf baseline run := Int.le_antisymm hle hge
  obtain ⟨before, after, rfl, hbefore, -⟩ := hleads
  -- a run that leads is found before any other one of its score
  have hfirst : (List.map (fun run => Scored.of baseline run.1 run.2)
      (before ++ run :: after)).find? (·.score = selection.best.score)
        = some (.of baseline run.1 run.2) := by
    rw [List.map_append, List.map_cons]
    refine List.find?_eq_some_iff_append.mpr ⟨?_, _, _, rfl, fun scored hscored => ?_⟩
    · exact decide_eq_true hscore.symm
    · obtain ⟨other, hother, rfl⟩ := List.mem_map.mp hscored
      have hne : scoreOf baseline other ≠ scoreOf baseline run := (hbefore other hother).ne
      simp only [hscore, Bool.not_eq_true', decide_eq_false_iff_not]
      exact hne
  exact Option.some.inj (hfind.symm.trans hfirst)

theorem exists_ranks (baseline : RunResult) (hrun : run ∈ runs) : ∃ selection,
    Ranks baseline (runs.map fun run => .of baseline run.1 run.2) selection := by
  cases hsel : of? baseline (runs.map fun run => .of baseline run.1 run.2) with
  | none =>
      rw [List.map_eq_nil_iff.mp (of?_eq_none.mp hsel)] at hrun
      cases hrun
  | some selection => exact ⟨selection, ranks_of? hsel⟩

theorem exists_leads (baseline : RunResult) (hrun : run ∈ runs) :
    ∃ best ∈ runs, Leads baseline runs best := by
  obtain ⟨selection, hranks⟩ := exists_ranks baseline hrun
  obtain ⟨best, hmem, -, hleads⟩ := hranks.exists_leads
  exact ⟨best, hmem, hleads⟩

/-! ## Clean runs -/

theorem scoreOf_of_dirty (h : run.2.succeeded = false) :
    scoreOf baseline run = merit baseline run :=
  Scored.score_of_dirty h

/-- Among some runs there is a clean one that no failed run outweighs; one that was declared later
has to be ahead by more than the 100 that it lacks. -/
def Prevails (baseline : RunResult) (runs : List (Candidate × RunResult)) : Prop :=
  ∃ before run after, runs = before ++ run :: after ∧ run.2.succeeded = true
    ∧ (∀ other ∈ before, other.2.succeeded = false →
        merit baseline other < merit baseline run + 100)
    ∧ ∀ other ∈ after, other.2.succeeded = false →
        merit baseline other ≤ merit baseline run + 100

theorem prevails_of_best
    (h : Ranks baseline (runs.map fun run => .of baseline run.1 run.2) selection)
    (clean : selection.best.result.succeeded = true) : Prevails baseline runs := by
  obtain ⟨run, -, hbest, before, after, rfl, hbefore, hafter⟩ := h.exists_leads
  have hclean : run.2.succeeded = true := by
    rw [hbest] at clean
    exact clean
  have hscore : scoreOf baseline run = merit baseline run + 100 := Scored.score_of_clean hclean
  rw [hscore] at hbefore hafter
  refine ⟨before, run, after, rfl, hclean, fun other ho dirty => ?_, fun other ho dirty => ?_⟩
  · rw [← scoreOf_of_dirty dirty]
    exact hbefore other ho
  · rw [← scoreOf_of_dirty dirty]
    exact hafter other ho

theorem best_succeeded_of_prevails
    (h : Ranks baseline (runs.map fun run => .of baseline run.1 run.2) selection)
    (hprevails : Prevails baseline runs) : selection.best.result.succeeded = true := by
  obtain ⟨before, run, after, rfl, clean, hbefore, hafter⟩ := hprevails
  have hfind := h.find?_score
  have hrun : (Scored.of baseline run.1 run.2).score ≤ selection.best.score :=
    h.score_le _ (List.mem_map_of_mem (List.mem_append_right _ (List.mem_cons_self ..)))
  rw [Scored.score_of_clean clean] at hrun
  by_contra hdirty
  rw [Bool.not_eq_true] at hdirty
  -- the run of the best is before, at or after the clean run that is not outweighed
  rw [List.map_append, List.map_cons, List.find?_append, Option.or_eq_some_iff] at hfind
  rcases hfind with hfind | ⟨-, hfind⟩
  · obtain ⟨other, hother, hbest⟩ := List.mem_map.mp (List.mem_of_find?_eq_some hfind)
    rw [← hbest] at hdirty hrun
    rw [Scored.score_of_dirty hdirty] at hrun
    exact absurd (hbefore other hother hdirty) (Int.not_lt.mpr hrun)
  · rw [List.find?_cons] at hfind
    split at hfind
    · rw [← Option.some.inj hfind] at hdirty
      exact absurd (clean.symm.trans hdirty) nofun
    · rename_i hne
      rw [Scored.score_of_clean clean, decide_eq_false_iff_not] at hne
      obtain ⟨other, hother, hbest⟩ := List.mem_map.mp (List.mem_of_find?_eq_some hfind)
      rw [← hbest] at hdirty hrun hne
      rw [Scored.score_of_dirty hdirty] at hrun hne
      exact hne (Int.le_antisymm hrun (hafter other hother hdirty))

theorem Ranks.best_succeeded_iff
    (h : Ranks baseline (runs.map fun run => .of baseline run.1 run.2) selection) :
    selection.best.result.succeeded = true ↔ Prevails baseline runs :=
  ⟨prevails_of_best h, best_succeeded_of_prevails h⟩

/-- The run that leads is clean exactly if some clean run prevails. -/
theorem Leads.succeeded_iff (h : Leads baseline runs run) :
    run.2.succeeded = true ↔ Prevails baseline runs := by
  obtain ⟨selection, hranks⟩ := exists_ranks baseline h.mem
  rw [← hranks.best_succeeded_iff, hranks.best_eq_of_leads h]
  rfl

/-! ## Small patches -/

theorem primaryBonus_bounds (c : Candidate) :
    0 ≤ Score.primaryBonus c ∧ Score.primaryBonus c ≤ 30 := by
  unfold Score.primaryBonus
  split <;> omega

theorem errorDelta_le (before after : Nat) : Score.errorDelta before after ≤ 20 * before := by
  simp only [Score.errorDelta]
  split <;> omega

theorem errorDelta_zero (before : Nat) : Score.errorDelta before 0 = 20 * before := by
  simp only [Score.errorDelta]
  split <;> omega

theorem kindTransition_le (before after : Option ErrorKind) :
    Score.kindTransition before after ≤ 0 := by
  unfold Score.kindTransition
  repeat' split <;> omega

theorem diffSize_le (changed : Nat) : Score.diffSize changed ≤ 10 := by
  unfold Score.diffSize
  repeat' split <;> omega

theorem le_diffSize {changed : Nat} (h : changed ≤ 7) : -40 ≤ Score.diffSize changed := by
  unfold Score.diffSize
  repeat' split <;> omega

theorem outputBonus_bounds (r baseline : RunResult) :
    0 ≤ Score.outputBonus r baseline ∧ Score.outputBonus r baseline ≤ 15 := by
  unfold Score.outputBonus
  split <;> omega

/-- The merit of a run is bounded by the error lines that it can make go. -/
theorem merit_le : merit baseline run ≤ 55 + 20 * Score.errorLines baseline := by
  have hprimary := primaryBonus_bounds run.1
  have herror := errorDelta_le (Score.errorLines baseline) (Score.errorLines run.2)
  have hkind := kindTransition_le (Report.kindOf? baseline.stderr) (Report.kindOf? run.2.stderr)
  have hdiff := diffSize_le run.1.changedLines
  have houtput := outputBonus_bounds run.2 baseline
  simp only [merit, ScoreBreakdown.merit, Candidate.score]
  omega

/-- The merit of a small patch whose run prints no error lines and keeps the kind of error. -/
theorem le_merit_of_small (quiet : Score.errorLines run.2 = 0)
    (same : (run.1.score run.2 baseline).kindTransition = 0) (small : run.1.changedLines ≤ 7) :
    20 * Score.errorLines baseline - 40 ≤ merit baseline run := by
  have hprimary := primaryBonus_bounds run.1
  have herror := errorDelta_zero (Score.errorLines baseline)
  have hdiff := le_diffSize small
  have houtput := outputBonus_bounds run.2 baseline
  simp only [Candidate.score] at same
  simp only [merit, ScoreBreakdown.merit, Candidate.score, quiet]
  omega

/-- A clean run of a small patch is never outweighed. -/
theorem prevails_of_small (hrun : run ∈ runs) (clean : run.2.succeeded = true)
    (quiet : Score.errorLines run.2 = 0)
    (same : (run.1.score run.2 baseline).kindTransition = 0) (small : run.1.changedLines ≤ 7) :
    Prevails baseline runs := by
  have hlower := le_merit_of_small quiet same small
  have hahead (other : Candidate × RunResult) :
      merit baseline other < merit baseline run + 100 := by
    have hupper : merit baseline other ≤ 55 + 20 * Score.errorLines baseline := merit_le
    omega
  obtain ⟨before, after, rfl⟩ := List.append_of_mem hrun
  exact ⟨before, run, after, rfl, clean, fun other _ _ => hahead other,
    fun other _ _ => (hahead other).le⟩

end Selection

end Remedy
