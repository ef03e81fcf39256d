import Mathlib.Data.List.Sort

/-!
# Sorting and searching by position

A stable sort leaves elements that tie in their order (`filter_mergeSort`). The first element that a
search finds is the least one of a sorted list (`key_le_of_find?`), and no other that would do
stands before it (`idxOf_le_of_find?`).
-/

namespace Remedy

variable {α : Type} {a b : α} {as : List α} {p : α → Bool}

/-- Sorting leaves the elements of a class in their order if they all tie. -/
theorem filter_mergeSort (r : α → α → Prop) [DecidableRel r] [Std.Total r] [IsTrans α r]
    (htied : ∀ a b, p a → p b → r a b) (as : List α) :
    (as.mergeSort (r · ·)).filter p = as.filter p := by
  have hclass : (as.filter p).Pairwise r :=
    List.pairwise_of_forall_mem_list fun a ha b hb =>
      htied a b (List.mem_filter.mp ha).2 (List.mem_filter.mp hb).2
  -- stability keeps the class in order; none of it is missing, so it is all there is
  have hkeeps : (as.filter p).Sublist (as.mergeSort (r · ·)) :=
    List.sublist_mergeSort (fun a b c => by simpa using trans_of r) (by simpa using total_of r)
      (hclass.imp decide_eq_true) List.filter_sublist
  have hsub := hkeeps.filter p
  rw [List.filter_filter] at hsub
  simp only [Bool.and_self] at hsub
  refine (hsub.eq_of_length ?_).symm
  exact ((List.mergeSort_perm as _).filter _).length_eq.symm

theorem key_le_of_find? (key : α → Nat) (hsorted : as.Pairwise fun a b => key a ≤ key b)
    (hfind : as.find? p = some a) (hb : b ∈ as) (hpb : p b) : key a ≤ key b := by
  obtain ⟨-, before, after, rfl, hbefore⟩ := List.find?_eq_some_iff_append.mp hfind
  rcases List.mem_append.mp hb with hb | hb
  · exact absurd hpb (by simpa using hbefore b hb)
  · rcases List.mem_cons.mp hb with rfl | hb
    · exact Nat.le_refl _
    · exact (List.pairwise_cons.mp (List.pairwise_append.mp hsorted).2.1).1 b hb

theorem idxOf_le_of_find? [DecidableEq α] (hfind : as.find? p = some a) (hpb : p b) :
    as.idxOf a ≤ as.idxOf b := by
  obtain ⟨hpa, before, after, rfl, hbefore⟩ := List.find?_eq_some_iff_append.mp hfind
  have hout {c : α} (hc : p c) : c ∉ before := fun hmem => by
    simpa [hc] using hbefore c hmem
  rw [List.idxOf_append_of_notMem (hout hpa), List.idxOf_append_of_notMem (hout hpb),
    List.idxOf_cons_self]
  exact Nat.add_le_add_left (Nat.zero_le _) _

end Remedy
