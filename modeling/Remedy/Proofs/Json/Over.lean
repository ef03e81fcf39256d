import Mathlib.Data.List.Sort
import Remedy.Proofs.Archive.Agreement

/-!
# Values over some numbers

What is read from a text is well formed (`over_of_parse`): the fields of each object stand in the
order of their keys, each key once. Of two such objects it is enough to compare keys, and the values
under each (`Over.fields_ext`).
-/

namespace Remedy.Json

section Reading

variable {α β : Type} {reading : Except Fault (α × List Char)} {p : α → Prop} {q : β → Prop}

/-- Whatever a reading gives has a property. -/
def Gives (reading : Except Fault (α × List Char)) (p : α → Prop) : Prop :=
  ∀ a rest, reading = .ok (a, rest) → p a

theorem gives_error (fault : Fault) : Gives (.error fault) p := nofun

theorem gives_ok {a : α} (h : p a) (rest : List Char) : Gives (.ok (a, rest)) p := by
  rintro b rest' heq
  cases heq
  exact h

theorem Gives.bind {f : α × List Char → Except Fault (β × List Char)} (h : Gives reading p)
    (hf : ∀ a rest, p a → Gives (f (a, rest)) q) : Gives (reading >>= f) q := by
  cases reading with
  | error fault => exact gives_error fault
  | ok result => exact hf _ _ (h _ _ rfl)

theorem Gives.map {f : α × List Char → β × List Char} (h : Gives reading p)
    (hf : ∀ a rest, p a → q (f (a, rest)).1) : Gives (reading.map f) q := by
  cases reading with
  | error fault => exact gives_error fault
  | ok result => exact gives_ok (hf _ _ (h _ _ rfl)) _

variable {read : List Char → Except Fault (Json × List Char)} {P : Json → Prop}

theorem gives_readItems (hread : ∀ s, Gives (read s) P) (first : Bool) (fuel : Nat)
    (s : List Char) : Gives (readItems read first fuel s) fun vs => ∀ v ∈ vs, P v := by
  induction fuel generalizing first s with
  | zero => exact gives_error _
  | succ fuel ih =>
      unfold readItems
      extract_lets item
      have hitem (s : List Char) : Gives (item s) fun vs => ∀ v ∈ vs, P v := by
        refine (hread s).bind fun v rest hv => ?_
        refine (ih false rest).bind fun vs rest hvs => gives_ok ?_ rest
        exact List.forall_mem_cons.mpr ⟨hv, hvs⟩
      split
      · exact gives_error _
      · exact gives_ok (List.forall_mem_nil _) _
      split
      · exact hitem _
      split
      · split
        · exact gives_error _
        · exact gives_error _
        · exact hitem _
      · exact gives_error _

theorem gives_readField (hread : ∀ s, Gives (read s) P) (s : List Char) :
    Gives (readField read s) fun kv => P kv.2 := by
  have hkey : Gives (readString s) fun _ => True := fun _ _ _ => trivial
  refine hkey.bind fun key rest _ => ?_
  dsimp only
  split
  · exact gives_error _
  · exact (hread _).bind fun v rest hv => gives_ok (a := (String.ofList key, v)) hv rest
  · exact gives_error _

theorem gives_readFields (hread : ∀ s, Gives (read s) P) (first : Bool) (fuel : Nat)
    (s : List Char) : Gives (readFields read first fuel s) fun kvs => ∀ kv ∈ kvs, P kv.2 := by
  induction fuel generalizing first s with
  | zero => exact gives_error _
  | succ fuel ih =>
      unfold readFields
      extract_lets field
      have hfield (s : List Char) : Gives (field s) fun kvs => ∀ kv ∈ kvs, P kv.2 := by
        refine (gives_readField hread s).bind fun kv rest hkv => ?_
        refine (ih false rest).bind fun kvs rest hkvs => gives_ok ?_ rest
        exact List.forall_mem_cons.mpr ⟨hkv, hkvs⟩
      split
      · exact gives_error _
      · exact gives_ok (List.forall_mem_nil _) _
      split
      · split
        · exact hfield _
        · exact gives_error _
      split
      · split
        · exact gives_error _
        · exact hfield _
        · exact gives_error _
        · exact gives_error _
      · exact gives_error _

end Reading

/-! ## Well-formed values -/

/-- A value over some numbers: it holds no others, and the fields of each object in it stand in the
order of their keys, each key once. -/
inductive Over (P : Number → Prop) : Json → Prop
  | null : Over P .null
  | bool (b : Bool) : Over P (.bool b)
  | num {n : Number} (h : P n) : Over P (.num n)
  | str (s : String) : Over P (.str s)
  | arr {items : List Json} (h : ∀ v ∈ items, Over P v) : Over P (.arr items)
  | obj {fields : List (String × Json)} (hkeys : (fields.map Prod.fst).Pairwise (· < ·))
    (h : ∀ kv ∈ fields, Over P kv.2) : Over P (.obj fields)

namespace Over

variable {P Q : Number → Prop} {fields as bs : List (String × Json)}

theorem mono (hPQ : ∀ n, P n → Q n) {v : Json} (h : Over P v) : Over Q v := by
  induction h with
  | null => exact .null
  | bool b => exact .bool b
  | num h => exact .num (hPQ _ h)
  | str s => exact .str s
  | arr _ ih => exact .arr ih
  | obj hkeys _ ih => exact .obj hkeys ih

/-- An object of given fields is a value over the numbers in the fields. -/
theorem ofFields (h : ∀ kv ∈ fields, Over P kv.2) : Over P (Json.ofFields fields) := by
  obtain ⟨sorted, hsorted, hpairwise, hmem⟩ := exists_ofFields fields
  rw [hsorted]
  exact .obj (List.pairwise_map.mpr hpairwise) fun kv hkv => h kv (hmem kv hkv)

theorem pairwise_keys (h : Over P (.obj fields)) : (fields.map Prod.fst).Pairwise (· < ·) := by
  cases h with
  | obj hkeys _ => exact hkeys

theorem nodup_keys (h : Over P (.obj fields)) : (fields.map Prod.fst).Nodup :=
  h.pairwise_keys.imp String.ne_of_lt

/-- A key has one value only. -/
theorem value_unique (h : Over P (.obj fields)) {k : String} {v w : Json} (hv : (k, v) ∈ fields)
    (hw : (k, w) ∈ fields) : v = w := by
  rw [← lookup_eq_some_iff_mem h.nodup_keys] at hv hw
  exact Option.some.inj (hv.symm.trans hw)

/-- Objects with the same keys and the same value under each are the same. -/
theorem fields_ext (ha : Over P (.obj as)) (hb : Over P (.obj bs))
    (hkeys : ∀ k, k ∈ as.map Prod.fst ↔ k ∈ bs.map Prod.fst)
    (hvalues : ∀ k v w, (k, v) ∈ as → (k, w) ∈ bs → v = w) : as = bs := by
  have hmem : ∀ kv, kv ∈ as ↔ kv ∈ bs := by
    rintro ⟨k, v⟩
    constructor
    · intro hv
      obtain ⟨⟨k', w⟩, hw, rfl⟩ := List.mem_map.mp ((hkeys k).mp (List.mem_map_of_mem hv))
      exact hvalues _ _ _ hv hw ▸ hw
    · intro hw
      obtain ⟨⟨k', v⟩, hv, rfl⟩ := List.mem_map.mp ((hkeys k).mpr (List.mem_map_of_mem hw))
      exact hvalues _ _ _ hv hw ▸ hv
  have hperm : as.Perm bs :=
    (List.perm_ext_iff_of_nodup ha.nodup_keys.of_map hb.nodup_keys.of_map).mpr hmem
  have hanti (a b : String × Json) (_ : a ∈ as) (_ : b ∈ bs) (hlt : a.1 < b.1) (hgt : b.1 < a.1) :
      a = b := absurd hgt (String.lt_asymm hlt)
  exact hperm.eq_of_pairwise hanti (List.pairwise_map.mp ha.pairwise_keys)
    (List.pairwise_map.mp hb.pairwise_keys)

end Over

/-! ## Reading gives well-formed values -/

theorem gives_readWord {P : Json → Prop} {v : Json} (h : P v) (word s : List Char) :
    Gives (readWord v word s) P := by
  fun_induction readWord v word s with
  | case1 s => exact gives_ok h s
  | case2 => exact gives_error _
  | case3 _ _ _ ih => exact ih
  | case4 => exact gives_error _

theorem gives_readValue (depth : Nat) (s : List Char) :
    Gives (readValue depth s) (Over fun _ => True) := by
  have hany {α : Type} (reading : Except Fault (α × List Char)) : Gives reading fun _ => True :=
    fun _ _ _ => trivial
  induction depth using Nat.strong_induction_on generalizing s with
  | h depth ih =>
      unfold readValue
      split
      · exact gives_error _
      · exact gives_readWord .null _ _
      · exact gives_readWord (.bool true) _ _
      · exact gives_readWord (.bool false) _ _
      · exact (hany _).map fun _ _ _ => .str _
      · exact (hany _).map fun _ _ _ => .num trivial
      · split
        · exact gives_error _
        · next depth =>
          exact (gives_readItems (ih depth (Nat.lt_succ_self depth)) _ _ _).map fun _ _ h => .arr h
      · split
        · exact gives_error _
        · next depth =>
          exact (gives_readFields (ih depth (Nat.lt_succ_self depth)) _ _ _).map
            fun _ _ h => .ofFields h
      split
      · exact (hany _).map fun _ _ _ => .num trivial
      · exact gives_error _

/-- What is read from a text is well formed. -/
theorem over_of_parse {text : String} {v : Json} (h : parse text = .ok v) :
    Over (fun _ => True) v := by
  rw [parse] at h
  cases hvalue : readValue maxDepth text.toList with
  | error fault =>
      rw [hvalue] at h
      cases h
  | ok result =>
      have hover := gives_readValue _ _ _ _ hvalue
      rw [hvalue] at h
      simp only [bind, Except.bind] at h
      split at h
      · cases h
        exact hover
      · cases h

end Remedy.Json
