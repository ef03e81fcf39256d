import Remedy.Candidate.Selection
import Remedy.Proofs.Order.Stable

/-!
# The law of a ranking

Ranking keeps every candidate, orders candidates by score, and leaves those of one score in the order
in which they were declared (`filter_rank`). From this the law of a selection (`Ranks`): its best
candidate is the earliest one that no other candidate outscores.
-/

namespace Remedy

namespace Selection

variable {baseline : RunResult} {scored : List Scored} {selection : Selection}

/-! ## Ranking -/

theorem rank_perm (scored : List Scored) : (rank scored).Perm scored :=
  List.mergeSort_perm ..

theorem pairwise_rank (scored : List Scored) :
    (rank scored).Pairwise fun a b => b.score ≤ a.score :=
  List.pairwise_mergeSort' (fun a b : Scored => b.score ≤ a.score) scored

/-- The candidates of one score are ranked in the order in which they were declared. -/
theorem filter_rank (scored : List Scored) (score : Int) :
    (rank scored).filter (·.score = score) = scored.filter (·.score = score) := by
  refine filter_mergeSort (fun a b : Scored => b.score ≤ a.score) (fun a b ha hb => ?_) scored
  rw [of_decide_eq_true ha, of_decide_eq_true hb]

/-! ## Selection -/

/-- A selection ranks scored candidates: it keeps all of them, the best first and those of one score
in the order in which they were declared; and its best is the earliest of the highest score. -/
structure Ranks (baseline : RunResult) (scored : List Scored) (selection : Selection) : Prop where
  baseline_eq : selection.baseline = baseline
  perm : selection.ranked.Perm scored
  descending : selection.ranked.Pairwise fun a b => b.score ≤ a.score
  stable : ∀ score,
    selection.ranked.filter (·.score = score) = scored.filter (·.score = score)
  head : selection.ranked.head? = some selection.best
  earliest : ∃ before after, scored = before ++ selection.best :: after
    ∧ (∀ s ∈ before, s.score < selection.best.score)
    ∧ ∀ s ∈ after, s.score ≤ selection.best.score

theorem of?_eq_none : of? baseline scored = none ↔ scored = [] := by
  have hrank : rank scored = [] ↔ scored = [] := by
    rw [← List.length_eq_zero_iff, (rank_perm scored).length_eq, List.length_eq_zero_iff]
  rw [← hrank, of?]
  split <;> simp_all

theorem of?_eq_some (h : of? baseline scored = some selection) :
    rank scored = selection.ranked ∧ selection.baseline = baseline
      ∧ selection.ranked.head? = some selection.best := by
  unfold of? at h
  split at h
  · cases h
  · rename_i best rest hrank
    obtain rfl := Option.some.inj h
    exact ⟨hrank, rfl, rfl⟩

/-- Candidates that are declared in the order of their scores are ranked as they stand. -/
theorem of?_of_pairwise {best : Scored} {rest : List Scored}
    (h : (best :: rest).Pairwise fun a b => b.score ≤ a.score) :
    of? baseline (best :: rest) = some ⟨best, best :: rest, baseline⟩ := by
  rw [of?, rank, List.mergeSort_of_pairwise (h.imp decide_eq_true)]

theorem earliest_of_head {best : Scored} {rest : List Scored} (h : rank scored = best :: rest) :
    ∃ before after, scored = before ++ best :: after
      ∧ (∀ s ∈ before, s.score < best.score) ∧ ∀ s ∈ after, s.score ≤ best.score := by
  have hbound : ∀ s ∈ scored, s.score ≤ best.score := by
    intro s hs
    have hdesc := pairwise_rank scored
    rw [← (rank_perm scored).mem_iff, h] at hs
    rw [h, List.pairwise_cons] at hdesc
    rcases List.mem_cons.mp hs with rfl | hs
    · exact Int.le_refl _
    · exact hdesc.1 s hs
  -- the head of the ranking is also the first of its score in the order of declaration
  have hfirst : scored.filter (·.score = best.score)
      = best :: rest.filter (·.score = best.score) := by
    rw [← filter_rank, h, List.filter_cons_of_pos (by simp)]
  obtain ⟨before, after, rfl, hbefore, -, -⟩ := List.filter_eq_cons_iff.mp hfirst
  refine ⟨before, after, rfl, fun s hs => ?_, fun s hs => hbound s (by simp [hs])⟩
  have hne : s.score ≠ best.score := by simpa using hbefore s hs
  exact lt_of_le_of_ne (hbound s (by simp [hs])) hne

theorem ranks_of? (h : of? baseline scored = some selection) :
    Ranks baseline scored selection := by
  obtain ⟨hrank, hbaseline, hhead⟩ := of?_eq_some h
  obtain ⟨rest, hranked⟩ := List.head?_eq_some_iff.mp hhead
  refine ⟨hbaseline, ?_, ?_, ?_, hhead, earliest_of_head (hrank.trans hranked)⟩
  · rw [← hrank]
    exact rank_perm scored
  · rw [← hrank]
    exact pairwise_rank scored
  · intro score
    rw [← hrank]
    exact filter_rank scored score

theorem Ranks.find?_score {scored : List Scored} (h : Ranks baseline scored selection) :
    scored.find? (·.score = selection.best.score) = some selection.best := by
  obtain ⟨before, after, rfl, hbefore, -⟩ := h.earliest
  refine List.find?_eq_some_iff_append.mpr
    ⟨decide_eq_true rfl, before, after, rfl, fun s hs => ?_⟩
  simpa using (hbefore s hs).ne

theorem Ranks.score_le {scored : List Scored} (h : Ranks baseline scored selection) :
    ∀ s ∈ scored, s.score ≤ selection.best.score := by
  obtain ⟨before, after, rfl, hbefore, hafter⟩ := h.earliest
  intro s hs
  rcases List.mem_append.mp hs with hs | hs
  · exact (hbefore s hs).le
  · rcases List.mem_cons.mp hs with rfl | hs
    · exact Int.le_refl _
    · exact hafter s hs

theorem Ranks.best_mem (h : Ranks baseline scored selection) : selection.best ∈ scored :=
  h.perm.mem_iff.mp (List.mem_of_mem_head? h.head)

end Selection

end Remedy
