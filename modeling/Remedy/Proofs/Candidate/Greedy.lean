import Mathlib.Data.List.Induction
import Remedy.Candidate.Filter

/-!
# Candidates are kept greedily

Which candidates of a list are deleted is said by the reasons to delete one (`Rejected`), one of
which is that an earlier candidate with the same fingerprint was not deleted (`Deletes`). What is
left, cut off after the first few, are the candidates to run (`usable_eq_take_remaining`).
-/

namespace Remedy

namespace Candidate

variable {filter : RuleFilter} {current : String} {tried : List String} {cs : List Candidate}
  {deleted deleted' : Nat → Bool} {c d : Candidate} {i : Nat}

/-! ## Reasons -/

/-- The reasons to delete candidate number `i` of a list, given which others are deleted. -/
inductive Rejected (filter : RuleFilter) (current : String) (tried : List String)
    (cs : List Candidate) (deleted : Nat → Bool) (i : Nat) (c : Candidate) : Prop
  | denied (rule : filter.allows c.id = false)
  | unchanged (same : c.fingerprint = Digest.fingerprint current)
  | known (before : c.fingerprint ∈ tried)
  | repeated (j : Nat) (d : Candidate) (earlier : j < i) (at_j : cs[j]? = some d)
      (kept : deleted j = false) (same : d.fingerprint = c.fingerprint)

/-- The candidates of a list that are deleted are those that there is a reason to delete. -/
def Deletes (filter : RuleFilter) (current : String) (tried : List String)
    (cs : List Candidate) (deleted : Nat → Bool) : Prop :=
  ∀ i c, cs[i]? = some c → (deleted i = true ↔ Rejected filter current tried cs deleted i c)

def remaining (deleted : Nat → Bool) (cs : List Candidate) : List Candidate :=
  (cs.zipIdx.filter fun entry => !deleted entry.2).map Prod.fst

/-- Only what is earlier in the list matters. -/
theorem Rejected.congr {cs' : List Candidate} (hcs : ∀ j < i, cs[j]? = cs'[j]?)
    (hdeleted : ∀ j < i, deleted j = deleted' j)
    (h : Rejected filter current tried cs deleted i c) :
    Rejected filter current tried cs' deleted' i c := by
  cases h with
  | denied rule => exact .denied rule
  | unchanged same => exact .unchanged same
  | known before => exact .known before
  | repeated j d earlier at_j kept same =>
      exact .repeated j d earlier ((hcs j earlier).symm.trans at_j)
        ((hdeleted j earlier).symm.trans kept) same

theorem getElem?_concat_of_lt (hi : i < cs.length) : (cs ++ [c])[i]? = cs[i]? :=
  List.getElem?_append_left hi

/-- What is deleted from a list is what is deleted from a longer one, as far as it goes. -/
theorem Deletes.of_concat (h : Deletes filter current tried (cs ++ [c]) deleted) :
    Deletes filter current tried cs deleted := by
  intro i d hd
  have hi : i < cs.length := (List.getElem?_eq_some_iff.mp hd).1
  have hbefore (j : Nat) (hj : j < i) : (cs ++ [c])[j]? = cs[j]? :=
    getElem?_concat_of_lt (Nat.lt_trans hj hi)
  rw [h i d ((getElem?_concat_of_lt hi).trans hd)]
  exact ⟨.congr hbefore fun _ _ => rfl, .congr (fun j hj => (hbefore j hj).symm) fun _ _ => rfl⟩

/-- For every list there is a way to delete candidates by these reasons. -/
theorem exists_deletes (filter : RuleFilter) (current : String) (tried : List String)
    (cs : List Candidate) : ∃ deleted, Deletes filter current tried cs deleted := by
  classical
  induction cs using List.reverseRecOn with
  | nil => exact ⟨fun _ => false, nofun⟩
  | append_singleton cs c ih =>
      obtain ⟨deleted, hdeletes⟩ := ih
      -- whether the last one is deleted depends on the others only
      let whole (i : Nat) : Bool :=
        if i < cs.length then deleted i
        else decide (Rejected filter current tried cs deleted i c)
      have hwhole (j : Nat) (hj : j < cs.length) : deleted j = whole j := (if_pos hj).symm
      have hcongr (i : Nat) (hi : i ≤ cs.length) (d : Candidate) :
          Rejected filter current tried cs deleted i d
            ↔ Rejected filter current tried (cs ++ [c]) whole i d := by
        have hbefore (j : Nat) (hj : j < i) : cs[j]? = (cs ++ [c])[j]? :=
          (getElem?_concat_of_lt (Nat.lt_of_lt_of_le hj hi)).symm
        have hsame (j : Nat) (hj : j < i) : deleted j = whole j :=
          hwhole j (Nat.lt_of_lt_of_le hj hi)
        exact ⟨.congr hbefore hsame,
          .congr (fun j hj => (hbefore j hj).symm) fun j hj => (hsame j hj).symm⟩
      refine ⟨whole, fun i d hd => ?_⟩
      rcases Nat.lt_or_ge i cs.length with hi | hi
      · rw [← hwhole i hi, ← hcongr i (Nat.le_of_lt hi)]
        exact hdeletes i d ((getElem?_concat_of_lt hi).symm.trans hd)
      · have hlast : i = cs.length := by
          have := (List.getElem?_eq_some_iff.mp hd).1
          rw [List.length_append, List.length_singleton] at this
          omega
        subst hlast
        rw [List.getElem?_concat_length, Option.some.injEq] at hd
        subst hd
        rw [← hcongr cs.length (Nat.le_refl _)]
        simp [whole]

/-! ## What is left -/

theorem mem_remaining : d ∈ remaining deleted cs ↔ ∃ j, cs[j]? = some d ∧ deleted j = false := by
  simp only [remaining, List.mem_map, List.mem_filter, Prod.exists, exists_and_right,
    exists_eq_right, List.mem_zipIdx_iff_getElem?, Bool.not_eq_true']

theorem remaining_concat (deleted : Nat → Bool) (cs : List Candidate) (c : Candidate) :
    remaining deleted (cs ++ [c])
      = remaining deleted cs ++ if deleted cs.length then [] else [c] := by
  rw [remaining, List.zipIdx_append, List.filter_append, List.map_append, remaining]
  cases h : deleted cs.length <;> simp [h]

theorem fresh_concat (known : List String) (cs : List Candidate) (c : Candidate) :
    fresh known (cs ++ [c]) = fresh known cs ++
      if c.fingerprint ∈ known ∨ c.fingerprint ∈ (fresh known cs).map fingerprint then []
      else [c] := by
  induction cs generalizing known with
  | nil => by_cases h : c.fingerprint ∈ known <;> simp [fresh, h]
  | cons d cs ih =>
      rw [List.cons_append, fresh, fresh]
      split
      · exact ih known
      · rw [ih, List.cons_append, List.map_cons]
        simp only [List.mem_cons, or_left_comm, or_assoc]

/-- The last candidate of a list is deleted if it is denied or known or repeats one that is left. -/
theorem Deletes.last_iff (h : Deletes filter current tried (cs ++ [c]) deleted) :
    deleted cs.length = true ↔ filter.allows c.id = false
      ∨ c.fingerprint ∈ Digest.fingerprint current :: tried
      ∨ c.fingerprint ∈ (remaining deleted cs).map fingerprint := by
  rw [h cs.length c List.getElem?_concat_length]
  constructor
  · intro hrejected
    cases hrejected with
    | denied rule => exact .inl rule
    | unchanged same => exact .inr (.inl (same ▸ List.mem_cons_self))
    | known before => exact .inr (.inl (List.mem_cons_of_mem _ before))
    | repeated j d earlier at_j kept same =>
        rw [getElem?_concat_of_lt earlier] at at_j
        exact .inr (.inr (List.mem_map.mpr ⟨d, mem_remaining.mpr ⟨j, at_j, kept⟩, same⟩))
  · rintro (rule | hknown | hleft)
    · exact .denied rule
    · rcases List.mem_cons.mp hknown with same | before
      · exact .unchanged same
      · exact .known before
    · obtain ⟨d, hd, same⟩ := List.mem_map.mp hleft
      obtain ⟨j, at_j, kept⟩ := mem_remaining.mp hd
      have earlier : j < cs.length := (List.getElem?_eq_some_iff.mp at_j).1
      exact .repeated j d earlier ((getElem?_concat_of_lt earlier).trans at_j) kept same

theorem apply_concat (filter : RuleFilter) (cs : List Candidate) (c : Candidate) :
    filter.apply (cs ++ [c]) = filter.apply cs ++ if filter.allows c.id then [c] else [] := by
  rw [RuleFilter.apply, RuleFilter.apply, List.filter_append]
  cases hrule : filter.allows c.id <;> simp [hrule]

/-- What is left of a list is what is new among the candidates that the filter allows. -/
theorem fresh_eq_remaining (h : Deletes filter current tried cs deleted) :
    fresh (Digest.fingerprint current :: tried) (filter.apply cs) = remaining deleted cs := by
  induction cs using List.reverseRecOn with
  | nil => rfl
  | append_singleton cs c ih =>
      have hlast := h.last_iff
      rw [← ih h.of_concat] at hlast
      rw [remaining_concat, ← ih h.of_concat, apply_concat]
      cases hrule : filter.allows c.id with
      | false =>
          rw [if_pos (hlast.mpr (.inl hrule)), if_neg Bool.false_ne_true, List.append_nil,
            List.append_nil]
      | true =>
          simp only [hrule, Bool.true_eq_false, false_or] at hlast
          rw [if_pos rfl, fresh_concat, if_congr hlast.symm rfl rfl]

/-- A candidate is left exactly if it is the first one that is allowed with its fingerprint, and
this is new. -/
theorem Deletes.kept_iff (h : Deletes filter current tried cs deleted) (hc : cs[i]? = some c) :
    deleted i = false ↔ filter.allows c.id = true ∧ c.fingerprint ≠ Digest.fingerprint current
      ∧ c.fingerprint ∉ tried ∧ ∀ j d, j < i → cs[j]? = some d → filter.allows d.id = true →
        d.fingerprint ≠ c.fingerprint := by
  rw [← Bool.not_eq_true, h i c hc]
  constructor
  · intro hkept
    have hrule : filter.allows c.id = true := by
      rw [← Bool.not_eq_false]
      exact fun rule => hkept (.denied rule)
    refine ⟨hrule, fun same => hkept (.unchanged same), fun before => hkept (.known before),
      fun j d earlier at_j allowed same => ?_⟩
    cases hj : deleted j with
    | false => exact hkept (.repeated j d earlier at_j hj same)
    | true =>
        -- the reason to delete the earlier one would be one to delete this one
        cases (h j d at_j).mp hj with
        | denied rule => exact absurd (allowed.symm.trans rule) nofun
        | unchanged current => exact hkept (.unchanged (same.symm.trans current))
        | known before => exact hkept (.known (same ▸ before))
        | repeated k e first at_k kept again =>
            exact hkept (.repeated k e (Nat.lt_trans first earlier) at_k kept (again.trans same))
  · rintro ⟨hrule, hchanged, hnew, hfirst⟩ hrejected
    cases hrejected with
    | denied rule => exact absurd (hrule.symm.trans rule) nofun
    | unchanged same => exact hchanged same
    | known before => exact hnew before
    | repeated j d earlier at_j kept same =>
        have hallowed : filter.allows d.id = true := by
          rw [← Bool.not_eq_false]
          intro rule
          exact absurd (kept.symm.trans ((h j d at_j).mpr (.denied rule))) nofun
        exact hfirst j d earlier at_j hallowed same

/-- The candidates to run are the first few of what is left of the generated ones: a candidate is
deleted exactly if the filter denies it, if its text is the current one or was tried, or if an
earlier candidate that was not deleted has the same text, by their fingerprints. So what is left is
the first allowed candidate of each new fingerprint, and one that is denied shadows no later one. -/
theorem usable_eq_take_remaining (filter : RuleFilter) (current : String) (tried : List String)
    (limit : Nat) (generated : List Candidate) :
    (∃ deleted, Deletes filter current tried generated deleted)
      ∧ ∀ deleted, Deletes filter current tried generated deleted →
        usable filter current tried limit generated = (remaining deleted generated).take limit
          ∧ ∀ i c, generated[i]? = some c →
            (deleted i = false ↔ filter.allows c.id = true
              ∧ c.fingerprint ≠ Digest.fingerprint current ∧ c.fingerprint ∉ tried
              ∧ ∀ j d, j < i → generated[j]? = some d → filter.allows d.id = true →
                d.fingerprint ≠ c.fingerprint) := by
  refine ⟨exists_deletes filter current tried generated, fun deleted hdeletes => ⟨?_, ?_⟩⟩
  · rw [usable, fresh_eq_remaining hdeletes]
  · exact fun i c hc => hdeletes.kept_iff hc

end Candidate

end Remedy
