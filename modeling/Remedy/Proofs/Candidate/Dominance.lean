import Remedy.Proofs.Candidate.Margin

/-!
# Scores are monotone

A run that is at least as good as another in every respect that a score looks at has at least its
score (`Dominates.score_le`), and a higher one if it is better in its end, in being a first choice
or in its error lines (`Outdoes.score_lt`). So the best of a selection is outdone by no other
candidate (`Ranks.not_outdone`).
-/

namespace Remedy

variable {baseline : RunResult} {run other : Candidate × RunResult}

/-! ## Terms -/

namespace Score

/-- What has a bonus where another has it has at least the other's. -/
theorem bonus_mono {worth : Int} {a b : Bool} (hworth : 0 ≤ worth) (h : b = true → a = true) :
    (if b then worth else 0) ≤ if a then worth else 0 := by
  cases b with
  | true => rw [h rfl]
  | false =>
      rw [if_neg Bool.false_ne_true]
      split
      · exact hworth
      · exact Int.le_refl 0

theorem bonus_lt {worth : Int} {a b : Bool} (hworth : 0 < worth) (ha : a = true)
    (hb : b = false) : (if b then worth else 0) < if a then worth else 0 := by
  rw [ha, hb]
  exact hworth

/-- An error line less is worth at least 20, on either side of the baseline and across it. -/
theorem errorDelta_add_le (before : Nat) {a b : Nat} (h : a ≤ b) :
    errorDelta before b + 20 * ((b : Int) - a) ≤ errorDelta before a := by
  simp only [errorDelta]
  split <;> split <;> omega

/-- A diff's size is worth less from each of its three bands to the next. -/
theorem diffSize_anti {a b : Nat} (h : a ≤ b) : diffSize b ≤ diffSize a := by
  unfold diffSize
  -- a case for each pair of bands; where that of `b` is the lower one, `a ≤ b` fails
  repeat' split
  all_goals omega

theorem outputBonus_mono (baseline : RunResult) {a b : RunResult}
    (h : printsOutput b = true → printsOutput a = true) :
    outputBonus b baseline ≤ outputBonus a baseline := by
  refine bonus_mono (by decide) fun hb => ?_
  rw [Bool.and_eq_true] at hb ⊢
  exact ⟨h hb.1, hb.2⟩

end Score

/-! ## Runs -/

namespace Selection

/-- A run is at least as good as another in every respect that a score looks at. -/
structure Dominates (baseline : RunResult) (run other : Candidate × RunResult) : Prop where
  clean : other.2.succeeded = true → run.2.succeeded = true
  primary : other.1.primary = true → run.1.primary = true
  errors : Score.errorLines run.2 ≤ Score.errorLines other.2
  changed : run.1.changedLines ≤ other.1.changedLines
  output : Score.printsOutput other.2 = true → Score.printsOutput run.2 = true
  kind : (other.1.score other.2 baseline).kindTransition
    ≤ (run.1.score run.2 baseline).kindTransition

/-- A run that dominates another, and is better in its end, in being a first choice or in its error
lines. -/
structure Outdoes (baseline : RunResult) (run other : Candidate × RunResult) : Prop
    extends Dominates baseline run other where
  better : run.2.succeeded = true ∧ other.2.succeeded = false
    ∨ run.1.primary = true ∧ other.1.primary = false
    ∨ Score.errorLines run.2 < Score.errorLines other.2

theorem scoreOf_eq (baseline : RunResult) (run : Candidate × RunResult) :
    scoreOf baseline run = Score.exitBonus run.2 + Score.primaryBonus run.1
      + Score.errorDelta (Score.errorLines baseline) (Score.errorLines run.2)
      + (run.1.score run.2 baseline).kindTransition + Score.diffSize run.1.changedLines
      + Score.outputBonus run.2 baseline := rfl

/-- A score is ahead by what the end, the first choice and the error lines put it ahead. -/
theorem Dominates.score_add_le (h : Dominates baseline run other) :
    scoreOf baseline other + (Score.exitBonus run.2 - Score.exitBonus other.2)
        + (Score.primaryBonus run.1 - Score.primaryBonus other.1)
        + 20 * ((Score.errorLines other.2 : Int) - Score.errorLines run.2)
      ≤ scoreOf baseline run := by
  have herror := Score.errorDelta_add_le (Score.errorLines baseline) h.errors
  have hkind := h.kind
  have hdiff := Score.diffSize_anti h.changed
  have houtput := Score.outputBonus_mono baseline h.output
  rw [scoreOf_eq, scoreOf_eq]
  omega

theorem Dominates.exitBonus_le (h : Dominates baseline run other) :
    Score.exitBonus other.2 ≤ Score.exitBonus run.2 :=
  Score.bonus_mono (by decide) h.clean

theorem Dominates.primaryBonus_le (h : Dominates baseline run other) :
    Score.primaryBonus other.1 ≤ Score.primaryBonus run.1 :=
  Score.bonus_mono (by decide) h.primary

theorem Dominates.score_le (h : Dominates baseline run other) :
    scoreOf baseline other ≤ scoreOf baseline run := by
  have hahead := h.score_add_le
  have hexit := h.exitBonus_le
  have hprimary := h.primaryBonus_le
  have herrors := h.errors
  omega

theorem Outdoes.score_lt (h : Outdoes baseline run other) :
    scoreOf baseline other < scoreOf baseline run := by
  have hahead := h.score_add_le
  have hexit := h.exitBonus_le
  have hprimary := h.primaryBonus_le
  have herrors := h.errors
  rcases h.better with ⟨hrun, hother⟩ | ⟨hrun, hother⟩ | hless
  · have hclean : Score.exitBonus other.2 < Score.exitBonus run.2 :=
      Score.bonus_lt (by decide) hrun hother
    omega
  · have hfirst : Score.primaryBonus other.1 < Score.primaryBonus run.1 :=
      Score.bonus_lt (by decide) hrun hother
    omega
  · omega

/-- The best of a selection is the candidate of a run that no run outdoes. -/
theorem Ranks.not_outdone {runs : List (Candidate × RunResult)} {selection : Selection}
    (h : Ranks baseline (runs.map fun run => .of baseline run.1 run.2) selection) :
    ∃ best ∈ runs, selection.best = .of baseline best.1 best.2
      ∧ ∀ run ∈ runs, ¬ Outdoes baseline run best := by
  obtain ⟨best, hmem, hbest, hleads⟩ := h.exists_leads
  refine ⟨best, hmem, hbest, fun run hrun houtdoes => ?_⟩
  exact absurd (hleads.le run hrun) (Int.not_le.mpr houtdoes.score_lt)

end Selection

end Remedy
