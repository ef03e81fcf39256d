import Mathlib.Data.List.Nodup
import Remedy.Candidate.Filter

/-!
# New candidates

The candidates that are run have distinct fingerprints, none of them known before; so their texts
are distinct too. Those that are cut off because there are too many have yet other fingerprints.
-/

namespace Remedy

namespace Candidate

theorem not_mem_known_of_mem_fresh {known : List String} {cs : List Candidate} {c : Candidate}
    (h : c ∈ fresh known cs) : c.fingerprint ∉ known := by
  induction cs generalizing known with
  | nil => cases h
  | cons d cs ih =>
      rw [fresh] at h
      split at h
      · exact ih h
      · rename_i hd
        rcases List.mem_cons.mp h with rfl | h
        · exact hd
        · exact fun hc => ih h (List.mem_cons_of_mem _ hc)

theorem nodup_fresh (known : List String) (cs : List Candidate) :
    ((fresh known cs).map fingerprint).Nodup := by
  induction cs generalizing known with
  | nil => exact List.nodup_nil
  | cons d cs ih =>
      rw [fresh]
      split
      · exact ih known
      · rw [List.map_cons, List.nodup_cons]
        refine ⟨fun hd => ?_, ih _⟩
        obtain ⟨c, hc, heq⟩ := List.mem_map.mp hd
        exact not_mem_known_of_mem_fresh hc (heq ▸ List.mem_cons_self ..)

theorem nodup_usable (filter : RuleFilter) (current : String) (tried : List String) (limit : Nat)
    (generated : List Candidate) :
    ((usable filter current tried limit generated).map fingerprint).Nodup := by
  rw [usable, List.map_take]
  exact (nodup_fresh _ _).sublist (List.take_sublist ..)

theorem mem_of_mem_fresh {known : List String} {cs : List Candidate} {c : Candidate}
    (h : c ∈ fresh known cs) : c ∈ cs := by
  induction cs generalizing known with
  | nil => cases h
  | cons d cs ih =>
      rw [fresh] at h
      split at h
      · exact List.mem_cons_of_mem _ (ih h)
      · rcases List.mem_cons.mp h with rfl | h
        · exact List.mem_cons_self ..
        · exact List.mem_cons_of_mem _ (ih h)

section Usable

variable {filter : RuleFilter} {current : String} {tried : List String} {limit : Nat}
  {generated : List Candidate} {c : Candidate}

theorem length_usable_le : (usable filter current tried limit generated).length ≤ limit :=
  List.length_take_le ..

theorem usable_nil : usable filter current tried limit [] = [] := by
  simp [usable, RuleFilter.apply, fresh]

theorem mem_generated_of_mem_usable (h : c ∈ usable filter current tried limit generated) :
    c ∈ generated ∧ filter.allows c.id = true :=
  List.mem_filter.mp (mem_of_mem_fresh (List.mem_of_mem_take h))

theorem fingerprint_ne_of_mem_usable (h : c ∈ usable filter current tried limit generated) :
    c.fingerprint ≠ Digest.fingerprint current ∧ c.fingerprint ∉ tried := by
  have hnew := not_mem_known_of_mem_fresh (List.mem_of_mem_take h)
  rwa [List.mem_cons, not_or] at hnew

/-- The candidates that would be run if there were not too many. -/
def cutOff (filter : RuleFilter) (current : String) (tried : List String) (limit : Nat)
    (generated : List Candidate) : List Candidate :=
  (fresh (Digest.fingerprint current :: tried) (filter.apply generated)).drop limit

theorem fingerprint_not_mem_of_mem_cutOff (h : c ∈ cutOff filter current tried limit generated) :
    c.fingerprint ∉ tried ++ (usable filter current tried limit generated).map fingerprint := by
  have hnodup := nodup_fresh (Digest.fingerprint current :: tried) (filter.apply generated)
  rw [← List.take_append_drop limit (fresh ..), List.map_append, List.nodup_append] at hnodup
  rw [List.mem_append, not_or]
  constructor
  · intro hmem
    exact not_mem_known_of_mem_fresh (List.mem_of_mem_drop h) (List.mem_cons_of_mem _ hmem)
  · intro hmem
    exact hnodup.2.2 _ hmem _ (List.mem_map_of_mem h) rfl

end Usable

/-- No text is run twice in one iteration. -/
theorem nodup_patched_usable (filter : RuleFilter) (current : String) (tried : List String)
    (limit : Nat) (generated : List Candidate) :
    ((usable filter current tried limit generated).map patched).Nodup := by
  have h := nodup_usable filter current tried limit generated
  rw [show fingerprint = Digest.fingerprint ∘ patched from rfl, ← List.map_map] at h
  exact h.of_map _

end Candidate

end Remedy
