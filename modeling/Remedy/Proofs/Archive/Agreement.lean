import Remedy.Archive.Record
import Remedy.Proofs.Json.RoundTrip

/-!
# Encodings and decodings that agree

An encoding and a decoding agree on the values of a range (`Agrees`): what is encoded is plain and
decoded to the same value, and nothing outside the range is decoded. Agreement passes to options,
lists and the fields of records, and an agreeing decoding undoes the printing of an agreeing
encoding exactly on the range (`Agrees.decoded?_render`).
-/

namespace Remedy

namespace Json

/-! ## The fields of a value -/

section Lookup

variable {α β : Type} [DecidableEq α] [BEq α] [LawfulBEq α]

theorem lookup_cons_eq_ite (a : α) (kv : α × β) (entries : List (α × β)) :
    (kv :: entries).lookup a = if a = kv.1 then some kv.2 else entries.lookup a := by
  rw [List.lookup_cons]
  by_cases h : a = kv.1
  · rw [if_pos h, beq_iff_eq.mpr h]
  · rw [if_neg h, beq_false_of_ne h]

theorem lookup_eq_some_iff_mem {entries : List (α × β)} (h : (entries.map Prod.fst).Nodup) {a : α}
    {b : β} : entries.lookup a = some b ↔ (a, b) ∈ entries := by
  induction entries with
  | nil => simp
  | cons kv entries ih =>
      obtain ⟨hkv, hentries⟩ := List.nodup_cons.mp h
      rw [lookup_cons_eq_ite, List.mem_cons]
      split
      · next heq =>
          have hnot : (a, b) ∉ entries := fun hmem => hkv (heq ▸ List.mem_map_of_mem hmem)
          rw [or_iff_left hnot, Prod.ext_iff, Option.some_inj, eq_comm]
          exact (and_iff_right heq).symm
      · next hne =>
          rw [ih hentries, or_iff_right fun heq => hne (congrArg Prod.fst heq)]

/-- A list of entries got one more, in the stead of an entry of its key. -/
inductive Inserts (key : α) (value : β) : List (α × β) → List (α × β) → Prop where
  | first : Inserts key value [] [(key, value)]
  | replace (old : β) (rest : List (α × β)) :
    Inserts key value ((key, old) :: rest) ((key, value) :: rest)
  | before (entries : List (α × β)) : Inserts key value entries ((key, value) :: entries)
  | behind {e : α × β} {rest rest' : List (α × β)} (hne : e.1 ≠ key) :
    Inserts key value rest rest' → Inserts key value (e :: rest) (e :: rest')

theorem Inserts.lookup {key : α} {value : β} {entries entries' : List (α × β)}
    (h : Inserts key value entries entries') (a : α) :
    entries'.lookup a = if a = key then some value else entries.lookup a := by
  induction h with
  | first => exact lookup_cons_eq_ite a (key, value) []
  | replace old rest =>
      rw [lookup_cons_eq_ite, lookup_cons_eq_ite]
      by_cases ha : a = key
      · rw [if_pos ha, if_pos ha]
      · rw [if_neg ha, if_neg ha, if_neg ha]
  | before entries => exact lookup_cons_eq_ite a (key, value) entries
  | @behind e rest rest' hne _ ih =>
      rw [lookup_cons_eq_ite, lookup_cons_eq_ite, ih]
      by_cases ha : a = e.1
      · rw [if_pos ha, if_pos ha, if_neg fun hkey => hne (ha.symm.trans hkey)]
      · rw [if_neg ha, if_neg ha]

end Lookup

theorem inserts_insertField (key : String) (value : Json) (fields : List (String × Json)) :
    Inserts key value fields (insertField key value fields) := by
  induction fields with
  | nil => exact .first
  | cons kv fields ih =>
      rw [insertField]
      split
      · next heq =>
          subst heq
          exact .replace kv.2 fields
      split
      · exact .before _
      · next hne _ => exact .behind (Ne.symm hne) ih

/-- The last of the fields with a name counts. -/
theorem lookup_foldl_insertField (name : String) (fields front : List (String × Json)) :
    (fields.foldl (fun sorted kv => insertField kv.1 kv.2 sorted) front).lookup name
      = (fields.reverse.lookup name).or (front.lookup name) := by
  induction fields generalizing front with
  | nil => rfl
  | cons kv fields ih =>
      rw [List.foldl_cons, ih, (inserts_insertField kv.1 kv.2 front).lookup, List.reverse_cons,
        List.lookup_append, Option.or_assoc, lookup_cons_eq_ite]
      congr 1
      split <;> rfl

end Json

namespace Archive

def fieldsOf (fields : List (String × Json)) : Fields := fun name => fields.reverse.lookup name

theorem fieldsOf_eq_lookup {fields sorted : List (String × Json)}
    (h : Json.ofFields fields = .obj sorted) (name : String) :
    fieldsOf fields name = sorted.lookup name := by
  cases h
  exact ((Json.lookup_foldl_insertField name fields []).trans Option.or_none).symm

theorem fields?_ofFields (names : List String) (required : Nat) (fields : List (String × Json)) :
    fields? names required (.ofFields fields) = some (fieldsOf fields) :=
  congrArg some (funext fun name => (fieldsOf_eq_lookup rfl name).symm)

theorem record?_ofFields (names : List String) (fields : List (String × Json)) :
    record? names (.ofFields fields) = some (fieldsOf fields) :=
  fields?_ofFields names names.length fields

theorem settings?_ofFields (names : List String) (fields : List (String × Json)) :
    settings? names (.ofFields fields) = some (fieldsOf fields) :=
  fields?_ofFields names 0 fields

theorem tagged?_ofFields {fields : List (String × Json)} {tag : String}
    (h : fieldsOf fields "type" = some (.str tag)) :
    tagged? (.ofFields fields) = some (tag, .ofFields fields) := by
  rw [fieldsOf_eq_lookup rfl] at h
  rw [Json.ofFields, tagged?, h]
  rfl

/-! ## Agreement -/

/-- On the values of a range, what is encoded is printed without loss and decoded to the same value;
only such values are decoded. -/
structure Agrees {α : Type} (toJson : α → Json) (ofJson? : Json → Option α) (InRange : α → Prop)
    (depth : Nat) : Prop where
  plain : ∀ {a}, InRange a → (toJson a).Plain depth
  reads : ∀ {a}, InRange a → ofJson? (toJson a) = some a
  ranged : ∀ {j a}, ofJson? j = some a → InRange a

/-- The value in a text. -/
def decoded? {α : Type} (ofJson? : Json → Option α) (text : String) : Option α :=
  (Json.parse text).toOption.bind ofJson?

section Agreement

variable {α : Type} {toJson : α → Json} {ofJson? : Json → Option α} {InRange : α → Prop}
  {depth : Nat}

/-- Exactly the values of the range come back from their texts. -/
theorem Agrees.decoded?_render (h : Agrees toJson ofJson? InRange depth)
    (hdepth : depth ≤ Json.maxDepth) (a : α) :
    decoded? ofJson? (toJson a).render = some a ↔ InRange a := by
  constructor
  · intro hread
    obtain ⟨_, -, hj⟩ := Option.bind_eq_some_iff.mp hread
    exact h.ranged hj
  · intro ha
    rw [decoded?, Json.parse_render (h.plain ha) hdepth]
    exact h.reads ha

theorem Agrees.ranged_option? (h : Agrees toJson ofJson? InRange depth) {j : Json} {o : Option α}
    (hread : option? ofJson? j = some o) : ∀ a ∈ o, InRange a := by
  intro a ha
  cases j with
  | null =>
      cases hread
      cases ha
  | _ =>
      obtain ⟨b, hb, rfl⟩ := Option.map_eq_some_iff.mp hread
      cases ha
      exact h.ranged hb

/-- An option agrees where its values do, if null is none of them. -/
theorem Agrees.option (h : Agrees toJson ofJson? InRange depth) (hnull : ofJson? .null = none) :
    Agrees (.ofOption toJson) (option? ofJson?) (fun o => ∀ a ∈ o, InRange a) depth where
  plain := by
    rintro (_ | a) ho
    · cases depth <;> trivial
    · exact h.plain (ho a rfl)
  reads := by
    rintro (_ | a) ho
    · rfl
    · have hread := h.reads (ho a rfl)
      rw [Json.ofOption, option?, hread]
      · rfl
      · intro heq
        rw [heq, hnull] at hread
        cases hread
  ranged := h.ranged_option?

theorem exists_of_mem_mapM {js : List Json} {items : List α} (h : js.mapM ofJson? = some items)
    {a : α} (ha : a ∈ items) : ∃ j ∈ js, ofJson? j = some a := by
  induction js generalizing items with
  | nil =>
      cases h
      cases ha
  | cons j js ih =>
      rw [List.mapM_cons] at h
      obtain ⟨b, hb, h⟩ := Option.bind_eq_some_iff.mp h
      obtain ⟨rest, hrest, h⟩ := Option.bind_eq_some_iff.mp h
      cases h
      rcases List.mem_cons.mp ha with rfl | ha
      · exact ⟨j, List.mem_cons_self .., hb⟩
      · obtain ⟨i, hi, hread⟩ := ih hrest ha
        exact ⟨i, List.mem_cons_of_mem _ hi, hread⟩

/-- A list agrees where its items do. -/
theorem Agrees.list (h : Agrees toJson ofJson? InRange depth) :
    Agrees (.ofList toJson) (list? ofJson?) (fun items => ∀ a ∈ items, InRange a)
      (depth + 1) where
  plain := by
    intro items hitems j hj
    obtain ⟨a, ha, rfl⟩ := List.mem_map.mp hj
    exact h.plain (hitems a ha)
  reads hitems := list?_ofList fun a ha => h.reads (hitems a ha)
  ranged := by
    intro j items hread a ha
    cases j with
    | arr js =>
        obtain ⟨i, -, hi⟩ := exists_of_mem_mapM hread ha
        exact h.ranged hi
    | _ => cases hread

/-! ## Fields -/

variable {fields : Fields} {name : String}

theorem Agrees.get? (h : Agrees toJson ofJson? InRange depth) {a : α} (ha : InRange a)
    (hfield : fields name = some (toJson a)) : fields.get? name ofJson? = some a := by
  rw [Fields.get?, hfield]
  exact h.reads ha

theorem Agrees.getOption? (h : Agrees toJson ofJson? InRange depth) (hnull : ofJson? .null = none)
    {o : Option α} (ho : ∀ a ∈ o, InRange a) (hfield : fields name = some (.ofOption toJson o)) :
    fields.getOption? name ofJson? = some o := by
  rw [Fields.getOption?, hfield]
  exact (h.option hnull).reads ho

theorem Agrees.getD? (h : Agrees toJson ofJson? InRange depth) {fallback a : α} (ha : InRange a)
    (hfield : fields name = some (toJson a)) : fields.getD? name fallback ofJson? = some a := by
  rw [Fields.getD?, hfield]
  exact h.reads ha

theorem Agrees.of_get? (h : Agrees toJson ofJson? InRange depth) {a : α}
    (hread : fields.get? name ofJson? = some a) : InRange a := by
  obtain ⟨j, -, hj⟩ := Option.bind_eq_some_iff.mp hread
  exact h.ranged hj

theorem Agrees.of_getOption? (h : Agrees toJson ofJson? InRange depth) {o : Option α}
    (hread : fields.getOption? name ofJson? = some o) : ∀ a ∈ o, InRange a := by
  rw [Fields.getOption?] at hread
  split at hread
  · cases hread
    nofun
  · exact h.ranged_option? hread

theorem Agrees.of_getD? (h : Agrees toJson ofJson? InRange depth) {fallback a : α}
    (hfallback : InRange fallback) (hread : fields.getD? name fallback ofJson? = some a) :
    InRange a := by
  rw [Fields.getD?] at hread
  split at hread
  · cases hread
    exact hfallback
  · exact h.ranged hread

end Agreement

/-! ## Simple values -/

def IsInt32 (n : Int) : Prop := -0x80000000 ≤ n ∧ n < 0x80000000

def IsInt64 (n : Int) : Prop := -0x8000000000000000 ≤ n ∧ n < 0x8000000000000000

def IsNat32 (n : Nat) : Prop := n < 0x100000000

def IsNat64 (n : Nat) : Prop := n < 0x10000000000000000

instance : DecidablePred IsNat32 := fun n => inferInstanceAs (Decidable (n < _))

instance : DecidablePred IsNat64 := fun n => inferInstanceAs (Decidable (n < _))

@[simp] theorem plain_str (depth : Nat) (s : String) : Json.Plain depth (.str s) :=
  Json.Plain.mono (show Json.Plain 0 (.str s) from trivial) (Nat.zero_le depth)

@[simp] theorem plain_bool (depth : Nat) (b : Bool) : Json.Plain depth (.bool b) :=
  Json.Plain.mono (show Json.Plain 0 (.bool b) from trivial) (Nat.zero_le depth)

theorem agrees_text : Agrees .str text? (fun _ => True) 0 :=
  ⟨fun _ => plain_str .., fun _ => rfl, fun _ => trivial⟩

theorem agrees_bool : Agrees .bool bool? (fun _ => True) 0 :=
  ⟨fun _ => plain_bool .., fun _ => rfl, fun _ => trivial⟩

theorem intIn?_eq_some_iff {low high n : Int} {j : Json} :
    intIn? low high j = some n ↔ j = .ofInt n ∧ low ≤ n ∧ n < high := by
  constructor
  · intro hread
    unfold intIn? at hread
    split at hread
    · obtain ⟨hn, heq⟩ := Option.ite_none_right_eq_some.mp hread
      cases heq
      exact ⟨rfl, hn⟩
    · cases hread
  · rintro ⟨rfl, hn⟩
    exact intIn?_ofInt.mpr hn

/-- Whole numbers agree within bounds that 64 bits can hold. -/
theorem agrees_intIn {low high : Int} (hlow : -0x8000000000000000 ≤ low)
    (hhigh : high ≤ 0x10000000000000000) :
    Agrees .ofInt (intIn? low high) (fun n => low ≤ n ∧ n < high) 0 where
  plain hn := ⟨by omega, by omega⟩
  reads := intIn?_ofInt.mpr
  ranged hread := (intIn?_eq_some_iff.mp hread).2

/-- Natural numbers agree below a bound that 64 bits can hold. -/
theorem agrees_natIn {high : Nat} (hhigh : high ≤ 0x10000000000000000) :
    Agrees .ofNat (fun j => (intIn? 0 high j).map Int.toNat) (fun n => n < high) 0 where
  plain hn := ⟨by omega, by omega⟩
  reads hn := Option.map_eq_some_iff.mpr
    ⟨_, intIn?_ofInt.mpr ⟨Int.natCast_nonneg _, Int.ofNat_lt.mpr hn⟩, Int.toNat_natCast _⟩
  ranged := by
    intro j n hread
    obtain ⟨m, hm, rfl⟩ := Option.map_eq_some_iff.mp hread
    have hrange := (intIn?_eq_some_iff.mp hm).2
    omega

theorem agrees_int32 : Agrees .ofInt int32? IsInt32 0 := agrees_intIn (by decide) (by decide)

theorem agrees_int64 : Agrees .ofInt int64? IsInt64 0 := agrees_intIn (by decide) (by decide)

theorem agrees_nat32 : Agrees .ofNat nat32? IsNat32 0 := agrees_natIn (by decide)

theorem agrees_nat64 : Agrees .ofNat nat64? IsNat64 0 := agrees_natIn (by decide)

end Archive

end Remedy
