import Remedy.Proofs.Cases.Closeness
import Remedy.Proofs.Json.Over

/-!
# Matching is a structural similarity

Values match if they have the same shape and their numbers are close. Where closeness is reflexive
and symmetric, so is matching (`matchesWith_self`, `matchesWith_symm`), and between values without
numbers it is equality (`eq_of_matchesWith`). The search for the fields of an object looks up the
keys of one side only; that it finds all keys of the other one is a matter of counting
(`matchesWith_obj_iff`).
-/

namespace Remedy.Cases

open Json

variable {close : Number → Number → Bool} {P : Number → Prop}

/-! ## Arrays and objects -/

theorem matchItems_iff {as bs : List Json} :
    matchItems close as bs = true ↔ List.Forall₂ (matchesWith close · · = true) as bs := by
  induction as generalizing bs with
  | nil => cases bs <;> simp [matchItems]
  | cons a as ih => cases bs <;> simp [matchItems, ih]

theorem matchesWith_arr_iff {as bs : List Json} :
    matchesWith close (.arr as) (.arr bs) = true ↔
      List.Forall₂ (matchesWith close · · = true) as bs := by
  rw [matchesWith, matchItems_iff]

theorem matchFields_iff {as bs : List (String × Json)} (hb : (bs.map Prod.fst).Nodup) :
    matchFields close as bs = true ↔
      ∀ kv ∈ as, ∃ w, (kv.1, w) ∈ bs ∧ matchesWith close kv.2 w = true := by
  induction as with
  | nil => simp [matchFields]
  | cons kv as ih =>
      rw [matchFields, Bool.and_eq_true, ih, List.forall_mem_cons]
      refine and_congr_left' ?_
      simp only [← lookup_eq_some_iff_mem hb]
      cases bs.lookup kv.1 <;> simp

/-- Objects match exactly if they have the same keys and matching values under each. -/
theorem matchesWith_obj_iff {as bs : List (String × Json)} (ha : Over P (.obj as))
    (hb : Over P (.obj bs)) :
    matchesWith close (.obj as) (.obj bs) = true ↔
      (∀ k, k ∈ as.map Prod.fst ↔ k ∈ bs.map Prod.fst) ∧
        ∀ k v w, (k, v) ∈ as → (k, w) ∈ bs → matchesWith close v w = true := by
  rw [matchesWith, Bool.and_eq_true, beq_iff_eq, matchFields_iff hb.nodup_keys]
  constructor
  · rintro ⟨hlength, hmatch⟩
    have hsub : as.map Prod.fst ⊆ bs.map Prod.fst := by
      intro k hk
      obtain ⟨kv, hkv, rfl⟩ := List.mem_map.mp hk
      obtain ⟨w, hw, -⟩ := hmatch kv hkv
      exact List.mem_map.mpr ⟨_, hw, rfl⟩
    -- Of two sets of one size neither is a proper part of the other.
    have hperm : (as.map Prod.fst).Perm (bs.map Prod.fst) :=
      (List.subperm_of_subset ha.nodup_keys hsub).perm_of_length_le (by simp [hlength])
    refine ⟨fun k => hperm.mem_iff, fun k v w hv hw => ?_⟩
    obtain ⟨w', hw', h⟩ := hmatch (k, v) hv
    exact hb.value_unique hw' hw ▸ h
  · rintro ⟨hkeys, hmatch⟩
    have hperm := (List.perm_ext_iff_of_nodup ha.nodup_keys hb.nodup_keys).mpr hkeys
    refine ⟨by simpa using hperm.length_eq, fun kv hkv => ?_⟩
    obtain ⟨⟨k, w⟩, hw, hk⟩ := List.mem_map.mp ((hkeys kv.1).mp (List.mem_map_of_mem hkv))
    cases hk
    exact ⟨w, hw, hmatch _ _ _ hkv hw⟩

/-! ## Values -/

theorem matchesWith_self (hrefl : ∀ n, P n → close n n = true) {v : Json} (h : Over P v) :
    matchesWith close v v = true := by
  induction h with
  | null => rw [matchesWith]
  | bool b => simp [matchesWith]
  | num h => rw [matchesWith, hrefl _ h]
  | str s => simp [matchesWith]
  | arr _ ih => exact matchesWith_arr_iff.mpr (List.forall₂_same.mpr ih)
  | obj hkeys h ih =>
      have hobj := Over.obj hkeys h
      refine (matchesWith_obj_iff hobj hobj).mpr ⟨fun k => Iff.rfl, fun k v w hv hw => ?_⟩
      exact hobj.value_unique hv hw ▸ ih _ hv

theorem matchesWith_symm (hsymm : ∀ m n, P m → P n → close m n = close n m) {a b : Json}
    (ha : Over P a) (hb : Over P b) (h : matchesWith close a b = true) :
    matchesWith close b a = true := by
  induction ha generalizing b with
  | null | bool | str => cases hb <;> simp_all [matchesWith]
  | num hm =>
      cases hb with
      | num hn => rwa [matchesWith, hsymm _ _ hn hm]
      | _ => simp [matchesWith] at h
  | arr has ih =>
      cases hb with
      | arr hbs =>
          rw [matchesWith_arr_iff, List.forall₂_iff_get] at h ⊢
          exact ⟨h.1.symm, fun i hi hj =>
            ih _ (List.get_mem ..) (hbs _ (List.get_mem ..)) (h.2 i hj hi)⟩
      | _ => simp [matchesWith] at h
  | obj hkeys has ih =>
      cases hb with
      | obj hkeys' hbs =>
          rw [matchesWith_obj_iff (.obj hkeys has) (.obj hkeys' hbs)] at h
          rw [matchesWith_obj_iff (.obj hkeys' hbs) (.obj hkeys has)]
          exact ⟨fun k => (h.1 k).symm, fun k v w hv hw => ih _ hw (hbs _ hv) (h.2 k w v hw hv)⟩
      | _ => simp [matchesWith] at h

theorem matchesWith_comm (hsymm : ∀ m n, P m → P n → close m n = close n m) {a b : Json}
    (ha : Over P a) (hb : Over P b) : matchesWith close a b = matchesWith close b a :=
  Bool.eq_iff_iff.mpr ⟨matchesWith_symm hsymm ha hb, matchesWith_symm hsymm hb ha⟩

theorem eq_of_matchesWith {a b : Json} (ha : Over (fun _ => False) a) (hb : Over P b)
    (h : matchesWith close a b = true) : a = b := by
  induction ha generalizing b with
  | null | bool | str => cases hb <;> simp_all [matchesWith]
  | num hm => exact hm.elim
  | arr has ih =>
      cases hb with
      | arr hbs =>
          rw [matchesWith_arr_iff, List.forall₂_iff_get] at h
          refine congrArg Json.arr (List.ext_get h.1 fun i hi hj => ?_)
          exact ih _ (List.get_mem ..) (hbs _ (List.get_mem ..)) (h.2 i hi hj)
      | _ => simp [matchesWith] at h
  | obj hkeys has ih =>
      cases hb with
      | obj hkeys' hbs =>
          have ha := Over.obj hkeys fun kv hkv => (has kv hkv).mono (Q := P) nofun
          have hb := Over.obj hkeys' hbs
          obtain ⟨hkeys, hvalues⟩ := (matchesWith_obj_iff ha hb).mp h
          refine congrArg Json.obj (ha.fields_ext hb hkeys fun k v w hv hw => ?_)
          exact ih _ hv (hbs _ hw) (hvalues k v w hv hw)
      | _ => simp [matchesWith] at h

/-! ## Similarity -/

/-- A comparison of values over some numbers that goes by their structure. -/
structure Similarity (P : Number → Prop) (same : Json → Json → Bool) : Prop where
  self {v : Json} : Over P v → same v v = true
  comm {a b : Json} : Over P a → Over P b → same a b = same b a
  eq_iff {a b : Json} : Over (fun _ => False) a → Over (fun _ => False) b →
    (same a b = true ↔ a = b)
  arr_iff {as bs : List Json} : same (.arr as) (.arr bs) = true ↔
    as.length = bs.length ∧ ∀ i (ha : i < as.length) (hb : i < bs.length), same as[i] bs[i] = true
  obj_iff {as bs : List (String × Json)} : Over P (.obj as) → Over P (.obj bs) →
    (same (.obj as) (.obj bs) = true ↔
      (∀ k, k ∈ as.map Prod.fst ↔ k ∈ bs.map Prod.fst) ∧
        ∀ k v w, (k, v) ∈ as → (k, w) ∈ bs → same v w = true)

/-- Matching is a similarity wherever closeness is reflexive and symmetric. -/
theorem matchesWith_similarity (hrefl : ∀ n, P n → close n n = true)
    (hsymm : ∀ m n, P m → P n → close m n = close n m) : Similarity P (matchesWith close) where
  self := matchesWith_self hrefl
  comm := matchesWith_comm hsymm
  eq_iff ha hb := by
    refine ⟨eq_of_matchesWith ha hb, ?_⟩
    rintro rfl
    exact matchesWith_self nofun ha
  arr_iff := matchesWith_arr_iff.trans List.forall₂_iff_get
  obj_iff := matchesWith_obj_iff

/-- The tolerance is reflexive and symmetric on finite numbers, so outputs are compared by a
similarity; it is not equality on numbers. -/
theorem valuesMatch_similarity : Similarity Number.IsFinite valuesMatch ∧
    Over Number.IsFinite (.arr [.num (.int 6)]) ∧
    Over Number.IsFinite (.arr [.num (.float 0x4018000000000000)]) ∧
    valuesMatch (.arr [.num (.int 6)]) (.arr [.num (.float 0x4018000000000000)]) = true :=
  ⟨matchesWith_similarity (fun _ => isClose_self) fun m n _ _ => isClose_comm m n,
    .arr (by simp; exact .num (by decide)), .arr (by simp; exact .num (by decide)), by decide⟩

end Remedy.Cases
