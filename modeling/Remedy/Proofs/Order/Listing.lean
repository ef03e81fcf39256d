import Mathlib.Data.List.Nodup

/-!
# Listing what stands at places

A list has what stands at some places, one element for each place (`ListsOnce`). Such lists are put
together as the places are: under other names (`ListsOnce.image`), side by side (`ListsOnce.sum`,
`ListsOnce.option`, `ListsOnce.flatMap`), or from parts when each place belongs to one of them
(`ListsOnce.parts`).
-/

namespace Remedy

variable {ι κ α β : Type}

/-- A list has what stands at some places, one element for each place where something stands. -/
def ListsOnce (at? : ι → Option α) (as : List α) : Prop :=
  ∃ entries : List (ι × α), (entries.map (·.1)).Nodup
    ∧ (∀ i a, (i, a) ∈ entries ↔ at? i = some a) ∧ entries.map (·.2) = as

namespace ListsOnce

variable {f : ι → Option α} {as : List α}

/-- Places may be named otherwise, if those where something stands keep distinct names. -/
theorem image {at? : κ → Option α} (h : ListsOnce f as) (name : ι → κ)
    (hat : ∀ i a, f i = some a → at? (name i) = some a)
    (hinj : ∀ i j a b, f i = some a → f j = some b → name i = name j → i = j)
    (hcover : ∀ k a, at? k = some a → ∃ i, f i = some a ∧ name i = k) : ListsOnce at? as := by
  obtain ⟨entries, hnodup, hmem, rfl⟩ := h
  have hheld {i : ι} (hi : i ∈ entries.map (·.1)) : ∃ a, f i = some a := by
    obtain ⟨⟨_, a⟩, hentry, rfl⟩ := List.mem_map.mp hi
    exact ⟨a, (hmem _ _).mp hentry⟩
  refine ⟨entries.map fun entry => (name entry.1, entry.2), ?_,
    fun k a => ⟨fun h => ?_, fun h => ?_⟩, ?_⟩
  · have hnames : ((entries.map (·.1)).map name).Nodup := by
      refine hnodup.map_on fun i hi j hj => ?_
      obtain ⟨a, ha⟩ := hheld hi
      obtain ⟨b, hb⟩ := hheld hj
      exact hinj i j a b ha hb
    simpa only [List.map_map, Function.comp_def] using hnames
  · obtain ⟨⟨i, _⟩, hentry, heq⟩ := List.mem_map.mp h
    obtain ⟨rfl, rfl⟩ := Prod.mk.inj heq
    exact hat i _ ((hmem _ _).mp hentry)
  · obtain ⟨i, hi, rfl⟩ := hcover k a h
    exact List.mem_map.mpr ⟨(i, a), (hmem i a).mpr hi, rfl⟩
  · simp only [List.map_map, Function.comp_def]

theorem nil : ListsOnce (fun _ : ι => (none : Option α)) [] :=
  ⟨[], List.nodup_nil, fun _ _ => iff_of_false List.not_mem_nil nofun, rfl⟩

theorem single (a? : Option α) : ListsOnce (fun _ : Unit => a?) a?.toList := by
  refine ⟨a?.toList.map fun a => ((), a), ?_, fun _ a => ?_, ?_⟩
  · cases a? <;> simp
  · cases a? <;> simp [eq_comm]
  · cases a? <;> rfl

/-- What stands at places of two kinds is listed one kind after the other. -/
theorem sum {g : κ → Option α} {bs : List α} (hf : ListsOnce f as) (hg : ListsOnce g bs) :
    ListsOnce (Sum.elim f g) (as ++ bs) := by
  obtain ⟨left, hleft, hmemLeft, rfl⟩ := hf
  obtain ⟨right, hright, hmemRight, rfl⟩ := hg
  refine ⟨left.map (Prod.map .inl id) ++ right.map (Prod.map .inr id), ?_, ?_, ?_⟩
  · have hkeys : ((left.map (·.1)).map Sum.inl ++ (right.map (·.1)).map Sum.inr :
        List (ι ⊕ κ)).Nodup := by
      refine List.nodup_append.mpr
        ⟨hleft.map fun _ _ => Sum.inl.inj, hright.map fun _ _ => Sum.inr.inj, ?_⟩
      rintro _ hi _ hj rfl
      obtain ⟨i, -, rfl⟩ := List.mem_map.mp hi
      obtain ⟨j, -, heq⟩ := List.mem_map.mp hj
      cases heq
    simpa only [List.map_append, List.map_map, Function.comp_def, Prod.map_fst] using hkeys
  · rintro (i | j) a
    · simp [← hmemLeft]
    · simp [← hmemRight]
  · simp [List.map_map, Function.comp_def]

/-- One more place comes first. -/
theorem option (a? : Option α) (h : ListsOnce f as) :
    ListsOnce (fun i? : Option ι => i?.elim a? f) (a?.toList ++ as) := by
  refine ((single a?).sum h).image (Sum.elim (fun _ => none) some) ?_ ?_ ?_
  · rintro (_ | i) a ha <;> exact ha
  · rintro (_ | i) (_ | j) - - - - heq
    · rfl
    · cases heq
    · cases heq
    · rw [Option.some.inj heq]
  · rintro (_ | i) a ha
    · exact ⟨.inl (), ha, rfl⟩
    · exact ⟨.inr i, ha, rfl⟩

/-- What stands at the places of each element is listed element by element. -/
theorem flatMap {f : β → ι → Option α} {listing : β → List α} {bs : List β}
    (h : ∀ b ∈ bs, ListsOnce (f b) (listing b)) :
    ListsOnce (fun i : Nat × ι => bs[i.1]?.bind fun b => f b i.2) (bs.flatMap listing) := by
  induction bs with
  | nil => exact nil
  | cons b bs ih =>
      obtain ⟨hfirst, hrest⟩ := List.forall_mem_cons.mp h
      refine (hfirst.sum (ih hrest)).image
        (Sum.elim (fun i => (0, i)) fun i => (i.1 + 1, i.2)) ?_ ?_ ?_
      · rintro (i | i) a ha <;> exact ha
      · rintro (i | ⟨n, i⟩) (j | ⟨m, j⟩) - - - - heq
        · rw [(Prod.mk.inj heq).2]
        · cases (Prod.mk.inj heq).1
        · cases (Prod.mk.inj heq).1
        · obtain ⟨hn, rfl⟩ := Prod.mk.inj heq
          obtain rfl := Nat.succ.inj hn
          rfl
      · rintro ⟨_ | n, i⟩ a ha
        · exact ⟨.inl i, ha, rfl⟩
        · exact ⟨.inr (n, i), ha, rfl⟩

/-- What stands at places that each belong to one part is listed part by part. -/
theorem parts [DecidableEq ι] {part : κ → ι} {at? : κ → Option β} {listing : α → List β}
    (h : ListsOnce f as)
    (hpart : ∀ i a, f i = some a →
      ListsOnce (fun k => if part k = i then at? k else none) (listing a))
    (hcover : ∀ k b, at? k = some b → ∃ a, f (part k) = some a) :
    ListsOnce at? (as.flatMap listing) := by
  obtain ⟨entries, hnodup, hmem, rfl⟩ := h
  have hall : ListsOnce
      (fun i : Nat × κ => entries[i.1]?.bind fun entry =>
        if part i.2 = entry.1 then at? i.2 else none)
      (entries.flatMap fun entry => listing entry.2) :=
    flatMap fun entry hentry => hpart _ _ ((hmem _ _).mp hentry)
  -- a place is listed where its part is, and there is one entry for that
  have hentry {i : Nat × κ} {b : β} (hi : (entries[i.1]?.bind fun entry =>
      if part i.2 = entry.1 then at? i.2 else none) = some b) :
      (entries.map (·.1))[i.1]? = some (part i.2) ∧ at? i.2 = some b := by
    obtain ⟨entry, hget, hb⟩ := Option.bind_eq_some_iff.mp hi
    split at hb
    · rename_i hpart
      exact ⟨by rw [List.getElem?_map, hget, Option.map_some, hpart], hb⟩
    · cases hb
  rw [List.flatMap_map]
  refine hall.image Prod.snd (fun i b hi => (hentry hi).2) ?_ fun k b hb => ?_
  · rintro ⟨n, k⟩ ⟨m, _⟩ b c hn hm rfl
    have hget := (hentry hn).1
    obtain rfl : n = m := (List.getElem?_inj (List.getElem?_eq_some_iff.mp hget).1 hnodup).mp
      (hget.trans (hentry hm).1.symm)
    rfl
  · obtain ⟨a, ha⟩ := hcover k b hb
    obtain ⟨n, hn⟩ := List.mem_iff_getElem?.mp ((hmem _ _).mpr ha)
    exact ⟨(n, k), by rw [hn, Option.bind_some, if_pos rfl, hb], rfl⟩

end ListsOnce

end Remedy
