import Mathlib.Data.List.Nodup
import Mathlib.Data.List.Sort
import Remedy.Diagnosis.Finding

/-!
# The normal form of findings

Of the findings of each category and line the first one is kept (`mem_normalize`), and what is kept
is in the order of the lines (`pairwise_line_normalize`).
-/

namespace Remedy

/-! ## First of their kind -/

section Distinct

variable {α κ : Type} [DecidableEq κ] {key : α → κ} {seen : List κ} {as : List α} {a : α}

/-- An element is kept if its key was not seen and no element before it has the same. -/
theorem mem_distinctBy :
    a ∈ distinctBy key seen as ↔
      key a ∉ seen ∧ as.find? (fun b => key b = key a) = some a := by
  induction as generalizing seen with
  | nil => simp [distinctBy]
  | cons b as ih =>
      rw [distinctBy]
      by_cases heq : key b = key a
      · -- only the head can be the first one with this key
        have hfind : (b :: as).find? (fun b => key b = key a) = some b :=
          List.find?_cons_of_pos (decide_eq_true heq)
        rw [hfind, Option.some.injEq, heq]
        split
        · rename_i hseen
          simp [ih, hseen]
        · rename_i hseen
          simp [ih, hseen, eq_comm]
      · have hfind : (b :: as).find? (fun b => key b = key a) = as.find? fun b => key b = key a :=
          List.find?_cons_of_neg (by simpa using heq)
        have hne : a ≠ b := by
          rintro rfl
          exact heq rfl
        rw [hfind]
        split
        · exact ih
        · simp [ih, hne, Ne.symm heq]

theorem nodup_map_distinctBy (key : α → κ) (seen : List κ) (as : List α) :
    ((distinctBy key seen as).map key).Nodup := by
  induction as generalizing seen with
  | nil => exact List.nodup_nil
  | cons a as ih =>
      rw [distinctBy]
      split
      · exact ih seen
      · refine List.nodup_cons.mpr ⟨fun hmem => ?_, ih _⟩
        obtain ⟨b, hb, heq⟩ := List.mem_map.mp hmem
        exact (mem_distinctBy.mp hb).1 (heq ▸ List.mem_cons_self ..)

theorem key_of_find? {k : κ} (h : as.find? (fun b => key b = k) = some a) : key a = k := by
  simpa only [decide_eq_true_eq] using List.find?_some h

theorem find?_eq_some_iff_of_nodup {k : κ} (h : (as.map key).Nodup) :
    as.find? (fun b => key b = k) = some a ↔ a ∈ as ∧ key a = k := by
  constructor
  · intro hfind
    exact ⟨List.mem_of_find?_eq_some hfind, key_of_find? hfind⟩
  · rintro ⟨ha, rfl⟩
    cases hfind : as.find? fun b => key b = key a with
    | none => exact absurd (decide_eq_true rfl) (List.find?_eq_none.mp hfind a ha)
    | some b =>
        rw [List.inj_on_of_nodup_map h (List.mem_of_find?_eq_some hfind) ha (key_of_find? hfind)]

end Distinct

/-! ## Normal form -/

namespace Finding

variable {f : Finding} {fs : List Finding}

theorem perm_normalize (fs : List Finding) : (normalize fs).Perm (distinctBy place [] fs) :=
  List.mergeSort_perm ..

/-- The findings that are kept are the first of their category and line. -/
theorem mem_normalize :
    f ∈ normalize fs ↔ fs.find? (fun g => g.place = f.place) = some f := by
  rw [(perm_normalize fs).mem_iff, mem_distinctBy]
  simp only [List.not_mem_nil, not_false_eq_true, true_and]

theorem mem_of_mem_normalize (h : f ∈ normalize fs) : f ∈ fs :=
  List.mem_of_find?_eq_some (mem_normalize.mp h)

theorem nodup_normalize (fs : List Finding) : ((normalize fs).map place).Nodup :=
  ((perm_normalize fs).map place).nodup_iff.mpr (nodup_map_distinctBy place [] fs)

theorem find?_normalize (p : FindingCategory × Option Nat) :
    (normalize fs).find? (fun f => f.place = p) = fs.find? fun f => f.place = p := by
  ext f
  rw [find?_eq_some_iff_of_nodup (nodup_normalize fs), mem_normalize]
  constructor
  · rintro ⟨hfirst, rfl⟩
    exact hfirst
  · intro hfirst
    obtain rfl : f.place = p := key_of_find? hfirst
    exact ⟨hfirst, rfl⟩

theorem pairwise_lineKey_normalize (fs : List Finding) :
    (normalize fs).Pairwise fun f g => f.lineKey ≤ g.lineKey :=
  List.pairwise_mergeSort' (fun f g : Finding => f.lineKey ≤ g.lineKey) _

theorem pairwise_line_normalize (fs : List Finding) :
    ((normalize fs).filterMap line).Pairwise (· ≤ ·) := by
  refine List.pairwise_filterMap.mpr ((pairwise_lineKey_normalize fs).imp fun hle a ha b hb => ?_)
  rwa [lineKey, lineKey, ha, hb] at hle

/-- Findings in the order in which they are come upon, and what is kept of them: one for each
category and line, the first one, in the order of the lines. -/
structure NormalForm (found kept : List Finding) : Prop where
  distinct : (kept.map place).Nodup
  first : ∀ p, kept.find? (fun f => f.place = p) = found.find? fun f => f.place = p
  sorted : (kept.filterMap line).Pairwise (· ≤ ·)

theorem normalForm_normalize (fs : List Finding) : NormalForm fs (normalize fs) :=
  ⟨nodup_normalize fs, find?_normalize, pairwise_line_normalize fs⟩

end Finding

end Remedy
