import Mathlib.Data.List.Basic
import Remedy.Json.Parser
import Remedy.Json.Printer

/-!
# Printed values are read back

Printing is undone by reading, part by part: a string (`readString_escape`), a number of 64 bits
(`readNumber_toDigits`), the items of an array and the fields of an object (`readItems_tail`,
`readFields_tail`), and by induction on the nesting every value that is printed without loss
(`parse_render`).
-/

namespace Remedy.Json

/-! ## Strings -/

theorem hexValue4?_hexDigit : ∀ n < 32,
    hexValue4? '0' '0' (hexDigit (n / 16)) (hexDigit (n % 16)) = some n := by
  decide

/-- A character that is escaped by its code is read back. -/
theorem readString_code {c : Char} (h : c.toNat < 32) (s : List Char) :
    readString
        ('\\' :: 'u' :: '0' :: '0' :: hexDigit (c.toNat / 16) :: hexDigit (c.toNat % 16) :: s)
      = consChar c (readString s) := by
  have hlow : isLowSurrogate c.toNat = false := by
    simp [isLowSurrogate]
    omega
  have hhigh : isHighSurrogate c.toNat = false := by
    simp [isHighSurrogate]
    omega
  rw [readString, hexValue4?_hexDigit _ h]
  dsimp only
  rw [hlow, hhigh, Char.ofNat_toNat]
  rfl

/-- A character that stands for itself is read back. -/
theorem readString_self {c : Char} (hquote : c ≠ '"') (hescape : c ≠ '\\') (h : 32 ≤ c.toNat)
    (s : List Char) : readString (c :: s) = consChar c (readString s) := by
  rw [readString]
  · rw [if_neg (by omega)]
  all_goals simp_all

theorem readString_escapeChar (c : Char) (s : List Char) :
    readString (escapeChar c ++ s) = consChar c (readString s) := by
  unfold escapeChar
  iterate 5
    split
    · rename_i h
      subst h
      rfl
  split
  · rename_i h
    have hc : c = Char.ofNat 8 := by rw [← h, Char.ofNat_toNat]
    subst hc
    rfl
  split
  · rename_i h
    have hc : c = Char.ofNat 12 := by rw [← h, Char.ofNat_toNat]
    subst hc
    rfl
  split
  · rename_i h
    exact readString_code h s
  · rename_i hquote hescape _ _ _ _ _ h
    exact readString_self hquote hescape (by omega) s

theorem readString_escape (text rest : List Char) :
    readString (escape text ++ '"' :: rest) = .ok (text, rest) := by
  induction text with
  | nil => rfl
  | cons c text ih =>
      rw [escape, List.flatMap_cons, List.append_assoc, readString_escapeChar]
      rw [escape] at ih
      rw [ih]
      rfl

theorem toList_quote (s : String) : (quote s).toList = '"' :: (escape s.toList ++ ['"']) := by
  rw [quote, String.toList_ofList]
  rfl

/-! ## Numbers -/

/-- A text does not go on with anything that a number may go on with. -/
def EndsNumber (rest : List Char) : Prop :=
  ∀ c, rest.head? = some c → c.isDigit = false ∧ c ≠ '.' ∧ c ≠ 'e' ∧ c ≠ 'E'

theorem le_ofDigitChars (digits : List Char) (n : Nat) : n ≤ Nat.ofDigitChars 10 digits n := by
  induction digits generalizing n with
  | nil => exact Nat.le_refl n
  | cons c digits ih =>
      rw [Nat.ofDigitChars_cons]
      exact Nat.le_trans (by omega) (ih _)

/-- Digits are all read while their number stays below the limit. -/
theorem readDigits_append {limit : Nat} {digits rest : List Char} {n : Nat} (count : Nat)
    (hdigits : ∀ c ∈ digits, c.isDigit = true) (hrest : EndsNumber rest)
    (hlimit : Nat.ofDigitChars 10 digits n < limit) :
    readDigits limit n count (digits ++ rest)
      = (Nat.ofDigitChars 10 digits n, count + digits.length, rest) := by
  induction digits generalizing n count with
  | nil =>
      cases rest with
      | nil => rfl
      | cons c rest =>
          rw [List.nil_append, readDigits, (hrest c rfl).1]
          rfl
  | cons c digits ih =>
      rw [List.forall_mem_cons] at hdigits
      rw [Nat.ofDigitChars_cons] at hlimit ⊢
      have hnext : 10 * n + (c.toNat - 48) < limit :=
        Nat.lt_of_le_of_lt (le_ofDigitChars digits _) hlimit
      rw [List.cons_append, readDigits, hdigits.1, if_pos (by simpa using hnext)]
      refine (ih (count + 1) hdigits.2 hlimit).trans ?_
      rw [List.length_cons, Nat.add_assoc, Nat.add_comm 1]

theorem isDigit_toDigits {n : Nat} {c : Char} (h : c ∈ Nat.toDigits 10 n) : c.isDigit = true :=
  Nat.isDigit_of_mem_toDigits (by omega) (by omega) h

/-- The digits of a number start with a digit. -/
theorem exists_toDigits (n : Nat) :
    ∃ c digits, Nat.toDigits 10 n = c :: digits ∧ c.isDigit = true := by
  cases h : Nat.toDigits 10 n with
  | nil => exact absurd h Nat.toDigits_ne_nil
  | cons c digits => exact ⟨c, digits, rfl, isDigit_toDigits (h ▸ List.mem_cons_self ..)⟩

theorem head_toDigits {n : Nat} (h : 0 < n) : (Nat.toDigits 10 n).head? ≠ some '0' := by
  induction n using Nat.strongRecOn with
  | ind n ih =>
      rcases Nat.lt_or_ge n 10 with hn | hn
      · have hsmall : ∀ m < 10, 0 < m → [m.digitChar].head? ≠ some '0' := by decide
        rw [Nat.toDigits_of_lt_base hn]
        exact hsmall n hn h
      · rw [Nat.toDigits_of_base_le (by omega) hn,
          List.head?_append_of_ne_nil _ Nat.toDigits_ne_nil]
        exact ih (n / 10) (by omega) (by omega)

theorem skipDigits_of_ends {rest : List Char} (h : EndsNumber rest) :
    skipDigits rest = (0, rest) := by
  cases rest with
  | nil => rfl
  | cons c rest => simp [skipDigits, (h c rfl).1]

/-- The digits of a number of 64 bits are all read as its own. -/
theorem readNumber_toDigits {n : Nat} {rest : List Char} (negative : Bool) (hn : n < limit64)
    (hrest : EndsNumber rest) :
    readNumber negative (Nat.toDigits 10 n ++ rest) = readTail negative n rest := by
  rcases Nat.eq_zero_or_pos n with rfl | hpos
  · rw [Nat.toDigits_zero, List.singleton_append, readNumber, if_neg]
    cases rest with
    | nil => exact Bool.false_ne_true
    | cons c rest => simp [(hrest c rfl).1]
  · have hlimit : Nat.ofDigitChars 10 (Nat.toDigits 10 n) 0 < limit64 := by
      rw [Nat.ofDigitChars_ten_toDigits]
      exact hn
    have hread := readDigits_append 0 (fun c => isDigit_toDigits) hrest hlimit
    rw [Nat.ofDigitChars_ten_toDigits] at hread
    have hhead := head_toDigits hpos
    obtain ⟨c, digits, hd, hdigit⟩ := exists_toDigits n
    rw [hd] at hread hhead
    have hc : c ≠ '0' := fun heq => hhead (congrArg some heq)
    rw [hd, List.cons_append]
    rw [List.cons_append] at hread
    rw [readNumber, if_pos hdigit, hread]
    · dsimp only
      rw [skipDigits_of_ends hrest]
      rfl
    · exact hc

theorem readTail_of_ends {n : Nat} {rest : List Char} (negative : Bool) (hrest : EndsNumber rest) :
    readTail negative n rest =
      if !negative then .ok (.int n, rest)
      else if 0 < n && n ≤ 0x8000000000000000 then .ok (.int (-n), rest)
      else .ok (.float (-Float.ofNat n).toBits, rest) := by
  cases rest with
  | nil => rfl
  | cons c rest =>
      obtain ⟨-, hpoint, he, hE⟩ := hrest c rfl
      rw [readTail]
      all_goals simp_all

/-! ## Plain values -/

/-- A value that is printed without loss: its numbers are integers of 64 bits, the fields of its
objects stand in the order of their keys, and it nests at most `depth` arrays and objects. -/
def Plain : (depth : Nat) → Json → Prop
  | _, .null => True
  | _, .bool _ => True
  | _, .str _ => True
  | _, .num (.int n) => -0x8000000000000000 ≤ n ∧ n < 0x10000000000000000
  | _, .num (.float _) => False
  | 0, .arr _ => False
  | 0, .obj _ => False
  | depth + 1, .arr items => ∀ v ∈ items, Plain depth v
  | depth + 1, .obj fields =>
    (fields.map Prod.fst).Pairwise (· < ·) ∧ ∀ kv ∈ fields, Plain depth kv.2

/-- What may follow a value: nothing, or what ends an item or a field. -/
def Follows (rest : List Char) : Prop :=
  ∀ c, rest.head? = some c → c = ',' ∨ c = ']' ∨ c = '}'

theorem Follows.endsNumber {rest : List Char} (h : Follows rest) : EndsNumber rest := by
  intro c hc
  rcases h c hc with rfl | rfl | rfl <;> decide

theorem follows_cons {c : Char} (s : List Char) (h : c = ',' ∨ c = ']' ∨ c = '}') :
    Follows (c :: s) := by
  intro d hd
  cases hd
  exact h

/-- A reader undoes the printing of a value, whatever may follow. -/
def Undoes (read : List Char → Except Fault (Json × List Char)) (v : Json) : Prop :=
  ∀ rest, Follows rest → read (v.render.toList ++ rest) = .ok (v, rest)

theorem skipSpace_cons {c : Char} (h : isSpace c = false) (s : List Char) :
    skipSpace (c :: s) = c :: s := by
  rw [skipSpace, List.dropWhile_cons, h]
  rfl

/-- A text starts with a value. -/
def Opens (s : List Char) : Prop := ∃ c s', s = c :: s' ∧ isSpace c = false ∧ c ≠ ']'

theorem Opens.append {s : List Char} (h : Opens s) (rest : List Char) : Opens (s ++ rest) := by
  obtain ⟨c, s', rfl, hc⟩ := h
  exact ⟨c, s' ++ rest, rfl, hc⟩

theorem isSpace_of_isDigit {c : Char} (h : c.isDigit = true) : isSpace c = false := by
  rw [isSpace]
  by_contra hspace
  simp only [Bool.not_eq_false, Bool.or_eq_true, decide_eq_true_eq] at hspace
  rcases hspace with ((rfl | rfl) | rfl) | rfl <;> cases h

theorem toList_render_int (n : Int) : (render (.num (.int n))).toList
    = (if n < 0 then ['-'] else []) ++ Nat.toDigits 10 n.natAbs := by
  rw [render, Number.render]
  cases n with
  | ofNat n =>
      rw [Int.ofNat_eq_natCast, if_neg (Int.not_lt.mpr (Int.natCast_nonneg n)), List.nil_append]
      exact Nat.toList_repr
  | negSucc n =>
      rw [if_pos (Int.negSucc_lt_zero n)]
      change ("-" ++ Nat.repr (n + 1)).toList = _
      rw [String.toList_append, Nat.toList_repr]
      rfl

theorem opens_render {depth : Nat} {v : Json} (h : Plain depth v) : Opens v.render.toList := by
  cases v with
  | null => exact ⟨'n', _, rfl, by decide⟩
  | bool b => cases b <;> exact ⟨_, _, rfl, by decide⟩
  | str s =>
      rw [render, toList_quote]
      exact ⟨'"', _, rfl, by decide⟩
  | arr items =>
      rw [render, String.toList_append, String.toList_append]
      exact ⟨'[', _, rfl, by decide⟩
  | obj fields =>
      rw [render, String.toList_append, String.toList_append]
      exact ⟨'\x7b', _, rfl, by decide⟩
  | num n =>
      cases n with
      | float bits => cases depth <;> exact h.elim
      | int n =>
          rw [toList_render_int]
          split
          · exact ⟨'-', _, rfl, by decide⟩
          · obtain ⟨c, digits, hd, hc⟩ := exists_toDigits n.natAbs
            rw [List.nil_append, hd]
            refine ⟨c, digits, rfl, isSpace_of_isDigit hc, ?_⟩
            rintro rfl
            cases hc

theorem length_le_length_flatMap {α : Type} {f : α → List Char} {items : List α}
    (h : ∀ a ∈ items, f a ≠ []) : items.length ≤ (items.flatMap f).length := by
  induction items with
  | nil => exact Nat.le_refl 0
  | cons a items ih =>
      obtain ⟨ha, hitems⟩ := List.forall_mem_cons.mp h
      have hpos := List.length_pos_iff.mpr ha
      have hle := ih hitems
      rw [List.flatMap_cons, List.length_append, List.length_cons]
      omega

/-! ## Arrays -/

/-- The items of an array behind the first one. -/
def itemsTail (vs : List Json) : List Char := vs.flatMap fun v => ',' :: v.render.toList

theorem follows_itemsTail (vs : List Json) (rest : List Char) :
    Follows (itemsTail vs ++ ']' :: rest) := by
  cases vs with
  | nil => exact follows_cons _ (by simp)
  | cons v vs => exact follows_cons _ (by simp)

theorem toList_renderItems (v : Json) (vs : List Json) :
    (renderItems (v :: vs)).toList = v.render.toList ++ itemsTail vs := by
  induction vs generalizing v with
  | nil => rw [renderItems, itemsTail, List.flatMap_nil, List.append_nil]
  | cons w vs ih =>
      rw [renderItems, String.toList_append, String.toList_append, ih, itemsTail, itemsTail,
        List.flatMap_cons, List.append_assoc]
      rfl
      nofun

section Items

variable {read : List Char → Except Fault (Json × List Char)} {v : Json} {vs : List Json}
  {fuel : Nat} {rest s : List Char}

/-- What reading an item and the items behind it comes to. -/
theorem bind_items (hread : read s = .ok (v, rest)) :
    (do
      let (v, rest) ← read s
      let (vs, rest) ← readItems read false fuel rest
      pure (v :: vs, rest))
      = (readItems read false fuel rest).map fun (vs, rest) => (v :: vs, rest) := by
  rw [hread]
  cases hitems : readItems read false fuel rest <;> simp [bind, Except.bind, hitems] <;> rfl

theorem readItems_first (hs : Opens s) (hread : read s = .ok (v, rest)) :
    readItems read true (fuel + 1) s
      = (readItems read false fuel rest).map fun (vs, rest) => (v :: vs, rest) := by
  obtain ⟨c, s, rfl, hspace, hclose⟩ := hs
  rw [← bind_items hread, readItems, skipSpace_cons hspace]
  split
  case h_1 heq => cases heq
  case h_2 heq => exact absurd (List.cons.inj heq).1 hclose
  case h_3 heq =>
    cases heq
    rfl

theorem readItems_next (hs : Opens s) (hread : read s = .ok (v, rest)) :
    readItems read false (fuel + 1) (',' :: s)
      = (readItems read false fuel rest).map fun (vs, rest) => (v :: vs, rest) := by
  obtain ⟨c, s, rfl, hspace, hclose⟩ := hs
  rw [← bind_items hread, readItems, skipSpace_cons rfl]
  split
  case h_1 heq => cases heq
  case h_2 heq => cases heq
  case h_3 heq =>
    cases heq
    rw [if_neg Bool.false_ne_true, if_pos rfl, skipSpace_cons hspace]
    split
    case h_1 heq => cases heq
    case h_2 heq => exact absurd (List.cons.inj heq).1 hclose
    case h_3 => rfl

/-- The items behind the first one are read back. -/
theorem readItems_tail (hread : ∀ v ∈ vs, Undoes read v ∧ Opens v.render.toList)
    (hfuel : vs.length < fuel) :
    readItems read false fuel (itemsTail vs ++ ']' :: rest) = .ok (vs, rest) := by
  induction vs generalizing fuel with
  | nil =>
      cases fuel with
      | zero => cases hfuel
      | succ fuel => rfl
  | cons v vs ih =>
      cases fuel with
      | zero => cases hfuel
      | succ fuel =>
          obtain ⟨⟨hv, hopens⟩, hvs⟩ := List.forall_mem_cons.mp hread
          rw [itemsTail, List.flatMap_cons, ← itemsTail, List.append_assoc, List.cons_append,
            readItems_next (hopens.append _) (hv _ (follows_itemsTail vs rest)),
            ih hvs (Nat.lt_of_succ_lt_succ hfuel)]
          rfl

end Items

/-! ## Objects -/

/-- A field behind its opening quote. -/
def fieldText (kv : String × Json) : List Char :=
  escape kv.1.toList ++ '"' :: ':' :: kv.2.render.toList

/-- The fields of an object behind the first one. -/
def fieldsTail (kvs : List (String × Json)) : List Char :=
  kvs.flatMap fun kv => ',' :: '"' :: fieldText kv

theorem follows_fieldsTail (kvs : List (String × Json)) (rest : List Char) :
    Follows (fieldsTail kvs ++ '\x7d' :: rest) := by
  cases kvs with
  | nil => exact follows_cons _ (by simp)
  | cons kv kvs => exact follows_cons _ (by simp)

theorem toList_renderFields (kv : String × Json) (kvs : List (String × Json)) :
    (renderFields (kv :: kvs)).toList = '"' :: fieldText kv ++ fieldsTail kvs := by
  induction kvs generalizing kv with
  | nil =>
      rw [renderFields, fieldsTail, List.flatMap_nil, fieldText]
      simp [toList_quote]
  | cons w kvs ih =>
      obtain ⟨k, v⟩ := kv
      rw [renderFields]
      · simp [ih, toList_quote, fieldText, fieldsTail]
      · nofun

section Fields

variable {read : List Char → Except Fault (Json × List Char)} {kv : String × Json}
  {kvs : List (String × Json)} {fuel : Nat} {rest s : List Char}

/-- A field is read back. -/
theorem readField_fieldText (hread : Undoes read kv.2) (hrest : Follows rest) :
    readField read (fieldText kv ++ rest) = .ok (kv, rest) := by
  have hkey : readString (fieldText kv ++ rest)
      = .ok (kv.1.toList, ':' :: (kv.2.render.toList ++ rest)) := by
    rw [fieldText, List.append_assoc]
    exact readString_escape _ _
  rw [readField, hkey]
  change (do
    let (v, rest) ← read (kv.2.render.toList ++ rest)
    pure ((String.ofList kv.1.toList, v), rest)) = _
  rw [hread rest hrest, String.ofList_toList]
  rfl

/-- What reading a field and the fields behind it comes to. -/
theorem bind_fields (hread : readField read s = .ok (kv, rest)) :
    (do
      let (kv, rest) ← readField read s
      let (kvs, rest) ← readFields read false fuel rest
      pure (kv :: kvs, rest))
      = (readFields read false fuel rest).map fun (kvs, rest) => (kv :: kvs, rest) := by
  rw [hread]
  cases hfields : readFields read false fuel rest <;> simp [bind, Except.bind, hfields] <;> rfl

theorem readFields_first (hread : readField read s = .ok (kv, rest)) :
    readFields read true (fuel + 1) ('"' :: s)
      = (readFields read false fuel rest).map fun (kvs, rest) => (kv :: kvs, rest) :=
  bind_fields hread

theorem readFields_next (hread : readField read s = .ok (kv, rest)) :
    readFields read false (fuel + 1) (',' :: '"' :: s)
      = (readFields read false fuel rest).map fun (kvs, rest) => (kv :: kvs, rest) :=
  bind_fields hread

/-- The fields behind the first one are read back. -/
theorem readFields_tail (hread : ∀ kv ∈ kvs, Undoes read kv.2) (hfuel : kvs.length < fuel) :
    readFields read false fuel (fieldsTail kvs ++ '\x7d' :: rest) = .ok (kvs, rest) := by
  induction kvs generalizing fuel with
  | nil =>
      cases fuel with
      | zero => cases hfuel
      | succ fuel => rfl
  | cons kv kvs ih =>
      cases fuel with
      | zero => cases hfuel
      | succ fuel =>
          obtain ⟨hkv, hkvs⟩ := List.forall_mem_cons.mp hread
          rw [fieldsTail, List.flatMap_cons, ← fieldsTail, List.append_assoc, List.cons_append,
            List.cons_append,
            readFields_next (readField_fieldText hkv (follows_fieldsTail kvs rest)),
            ih hkvs (Nat.lt_of_succ_lt_succ hfuel)]
          rfl

end Fields

/-! ## Sorted fields -/

/-- A field whose key is behind all others goes to the end. -/
theorem insertField_of_lt {key : String} {fields : List (String × Json)} (value : Json)
    (h : ∀ kv ∈ fields, kv.1 < key) : insertField key value fields = fields ++ [(key, value)] := by
  induction fields with
  | nil => rfl
  | cons kv fields ih =>
      obtain ⟨hkv, hfields⟩ := List.forall_mem_cons.mp h
      rw [insertField, if_neg (String.ne_of_lt hkv).symm, if_neg (String.lt_asymm hkv), ih hfields]
      rfl

/-- Fields in the order of their keys stay as they are. -/
theorem ofFields_of_pairwise {fields : List (String × Json)}
    (h : (fields.map Prod.fst).Pairwise (· < ·)) : ofFields fields = .obj fields := by
  have hfold : ∀ front : List (String × Json),
      ((front ++ fields).map Prod.fst).Pairwise (· < ·) →
      fields.foldl (fun sorted kv => insertField kv.1 kv.2 sorted) front
        = front ++ fields := by
    clear h
    induction fields with
    | nil =>
        intro front _
        exact (List.append_nil front).symm
    | cons kv fields ih =>
        intro front hsorted
        have hlt : ∀ w ∈ front, w.1 < kv.1 := by
          rw [List.map_append, List.pairwise_append] at hsorted
          exact fun w hw => hsorted.2.2 _ (List.mem_map_of_mem hw) _ (List.mem_cons_self ..)
        rw [List.foldl_cons, insertField_of_lt kv.2 hlt, ih, List.append_assoc]
        · rfl
        · rwa [List.append_assoc]
  rw [ofFields, hfold [] h]
  rfl

theorem mem_insertField {key : String} {value : Json} {kv : String × Json}
    {fields : List (String × Json)} (h : kv ∈ insertField key value fields) :
    kv = (key, value) ∨ kv ∈ fields := by
  induction fields with
  | nil => exact .inl (List.mem_singleton.mp h)
  | cons w fields ih =>
      rw [insertField] at h
      split at h
      · exact (List.mem_cons.mp h).imp_right (List.mem_cons_of_mem _)
      split at h
      · exact List.mem_cons.mp h
      · rcases List.mem_cons.mp h with rfl | h
        · exact .inr (List.mem_cons_self ..)
        · exact (ih h).imp_right (List.mem_cons_of_mem _)

theorem pairwise_insertField {key : String} {value : Json} {fields : List (String × Json)}
    (h : fields.Pairwise fun a b => a.1 < b.1) :
    (insertField key value fields).Pairwise fun a b => a.1 < b.1 := by
  induction fields with
  | nil => exact List.pairwise_singleton ..
  | cons w fields ih =>
      obtain ⟨hw, hfields⟩ := List.pairwise_cons.mp h
      rw [insertField]
      split
      · next heq => exact List.pairwise_cons.mpr ⟨fun kv hkv => heq ▸ hw kv hkv, hfields⟩
      split
      · next hlt =>
          refine List.pairwise_cons.mpr ⟨fun kv hkv => ?_, h⟩
          rcases List.mem_cons.mp hkv with rfl | hkv
          · exact hlt
          · exact String.lt_trans hlt (hw kv hkv)
      · next hne hge =>
          refine List.pairwise_cons.mpr ⟨fun kv hkv => ?_, ih hfields⟩
          rcases mem_insertField hkv with rfl | hkv
          · exact Std.lt_of_le_of_ne (String.not_lt.mp hge) (Ne.symm hne)
          · exact hw kv hkv

/-- The fields of a value made from fields are among them, in the order of their keys. -/
theorem exists_ofFields (fields : List (String × Json)) : ∃ sorted,
    ofFields fields = .obj sorted ∧ (sorted.Pairwise fun a b => a.1 < b.1)
      ∧ ∀ kv ∈ sorted, kv ∈ fields := by
  refine ⟨_, rfl, ?_⟩
  suffices hfold : ∀ front : List (String × Json), (front.Pairwise fun a b => a.1 < b.1) →
      let sorted := fields.foldl (fun sorted kv => insertField kv.1 kv.2 sorted) front
      (sorted.Pairwise fun a b => a.1 < b.1) ∧ ∀ kv ∈ sorted, kv ∈ front ∨ kv ∈ fields by
    obtain ⟨hsorted, hmem⟩ := hfold [] .nil
    exact ⟨hsorted, fun kv hkv => (hmem kv hkv).resolve_left List.not_mem_nil⟩
  induction fields with
  | nil => exact fun front hfront => ⟨hfront, fun kv hkv => .inl hkv⟩
  | cons w fields ih =>
      intro front hfront
      obtain ⟨hsorted, hmem⟩ := ih _ (pairwise_insertField hfront)
      refine ⟨hsorted, fun kv hkv => ?_⟩
      rcases hmem kv hkv with hkv | hkv
      · rcases mem_insertField hkv with rfl | hkv
        · exact .inr (List.mem_cons_self ..)
        · exact .inl hkv
      · exact .inr (List.mem_cons_of_mem _ hkv)

/-! ## Values -/

theorem Plain.ofFields {depth : Nat} {fields : List (String × Json)}
    (h : ∀ kv ∈ fields, Plain depth kv.2) : Plain (depth + 1) (ofFields fields) := by
  obtain ⟨sorted, hsorted, hpairwise, hmem⟩ := exists_ofFields fields
  rw [hsorted]
  exact ⟨List.pairwise_map.mpr hpairwise, fun kv hkv => h kv (hmem kv hkv)⟩

theorem Plain.succ {depth : Nat} {v : Json} (h : Plain depth v) : Plain (depth + 1) v := by
  induction depth generalizing v with
  | zero =>
      cases v with
      | arr | obj => exact h.elim
      | num n => cases n <;> exact h
      | null | bool | str => exact h
  | succ depth ih =>
      cases v with
      | arr items => exact fun w hw => ih (h w hw)
      | obj fields => exact ⟨h.1, fun kv hkv => ih (h.2 kv hkv)⟩
      | num n => cases n <;> exact h
      | null | bool | str => exact h

theorem Plain.mono {depth depth' : Nat} {v : Json} (h : Plain depth v) (hle : depth ≤ depth') :
    Plain depth' v := by
  induction hle with
  | refl => exact h
  | step _ ih => exact ih.succ

/-- A text that starts with a digit is read as a number. -/
theorem readValue_digit {c : Char} (depth : Nat) (hc : c.isDigit = true) (s : List Char) :
    readValue depth (c :: s) = (readNumber false (c :: s)).map fun (n, rest) => (.num n, rest) := by
  rw [readValue, skipSpace_cons (isSpace_of_isDigit hc)]
  split
  case h_1 heq => cases heq
  case h_9 heq =>
      cases heq
      rw [if_pos hc]
  all_goals
    rename_i heq
    obtain ⟨rfl, -⟩ := List.cons.inj heq
    cases hc

theorem undoes_int (depth : Nat) {n : Int}
    (h : -0x8000000000000000 ≤ n ∧ n < 0x10000000000000000) :
    Undoes (readValue depth) (.num (.int n)) := by
  intro rest hrest
  have hends := hrest.endsNumber
  have hlimit : n.natAbs < limit64 := by
    rw [limit64]
    omega
  rw [toList_render_int]
  split
  · next hneg =>
      have hread : readNumber true (Nat.toDigits 10 n.natAbs ++ rest) = .ok (.int n, rest) := by
        rw [readNumber_toDigits true hlimit hends, readTail_of_ends true hends,
          if_neg (by decide), if_pos (by simp; omega), Int.ofNat_natAbs_of_nonpos (by omega),
          Int.neg_neg]
      -- The reader has to be opened first: it does not compute at a depth that is a variable.
      rw [readValue]
      change (readNumber true (Nat.toDigits 10 n.natAbs ++ rest)).map _ = _
      rw [hread]
      rfl
  · next hpos =>
      have hread : readNumber false (Nat.toDigits 10 n.natAbs ++ rest) = .ok (.int n, rest) := by
        rw [readNumber_toDigits false hlimit hends, readTail_of_ends false hends,
          if_pos (by decide), Int.natAbs_of_nonneg (by omega)]
      obtain ⟨c, digits, hd, hc⟩ := exists_toDigits n.natAbs
      rw [hd, List.cons_append] at hread
      rw [List.nil_append, hd, List.cons_append, readValue_digit depth hc, hread]
      rfl

/-- An array is read back if its items are. -/
theorem undoes_arr {depth : Nat} {items : List Json}
    (h : ∀ v ∈ items, Undoes (readValue depth) v ∧ Opens v.render.toList) :
    Undoes (readValue (depth + 1)) (.arr items) := by
  intro rest _
  have htext : (render (.arr items)).toList ++ rest
      = '[' :: ((renderItems items).toList ++ ']' :: rest) := by
    rw [render]
    simp
  rw [htext, readValue]
  change (readItems (readValue depth) true _ _).map _ = _
  cases items with
  | nil => rfl
  | cons v vs =>
      obtain ⟨⟨hv, hopens⟩, hvs⟩ := List.forall_mem_cons.mp h
      have hfuel : vs.length ≤ (itemsTail vs).length := length_le_length_flatMap (by simp)
      rw [toList_renderItems, List.append_assoc,
        readItems_first (hopens.append _) (hv _ (follows_itemsTail vs rest)),
        readItems_tail hvs (by simp; omega)]
      rfl

/-- An object in the order of its keys is read back if the values of its fields are. -/
theorem undoes_obj {depth : Nat} {fields : List (String × Json)}
    (hsorted : (fields.map Prod.fst).Pairwise (· < ·))
    (h : ∀ kv ∈ fields, Undoes (readValue depth) kv.2) :
    Undoes (readValue (depth + 1)) (.obj fields) := by
  intro rest _
  have htext : (render (.obj fields)).toList ++ rest
      = '\x7b' :: ((renderFields fields).toList ++ '\x7d' :: rest) := by
    rw [render]
    simp
  have hread : readFields (readValue depth) true
      (((renderFields fields).toList ++ '\x7d' :: rest).length + 1)
      ((renderFields fields).toList ++ '\x7d' :: rest) = .ok (fields, rest) := by
    cases fields with
    | nil => rfl
    | cons kv kvs =>
        obtain ⟨hkv, hkvs⟩ := List.forall_mem_cons.mp h
        have hfuel : kvs.length ≤ (fieldsTail kvs).length := length_le_length_flatMap (by simp)
        rw [toList_renderFields, List.append_assoc, List.cons_append,
          readFields_first (readField_fieldText hkv (follows_fieldsTail kvs rest)),
          readFields_tail hkvs (by simp; omega)]
        rfl
  rw [htext, readValue]
  change (readFields (readValue depth) true _ _).map _ = _
  rw [hread, ← ofFields_of_pairwise hsorted]
  rfl

/-- What is printed without loss is read back. -/
theorem readValue_render {depth : Nat} {v : Json} (h : Plain depth v) :
    Undoes (readValue depth) v := by
  cases v with
  | null =>
      intro rest _
      rw [readValue]
      rfl
  | bool b =>
      intro rest _
      rw [readValue]
      cases b <;> rfl
  | str s =>
      intro rest _
      rw [render, toList_quote, readValue]
      change (readString (escape s.toList ++ ['"'] ++ rest)).map _ = _
      rw [List.append_assoc, List.singleton_append, readString_escape]
      change Except.ok (Json.str (String.ofList s.toList), rest) = _
      rw [String.ofList_toList]
  | num n =>
      cases n with
      | int n => exact undoes_int depth (by cases depth <;> exact h)
      | float bits => cases depth <;> exact h.elim
  | arr items =>
      cases depth with
      | zero => exact h.elim
      | succ depth =>
          exact undoes_arr fun v hv => ⟨readValue_render (h v hv), opens_render (h v hv)⟩
  | obj fields =>
      cases depth with
      | zero => exact h.elim
      | succ depth => exact undoes_obj h.1 fun kv hkv => readValue_render (h.2 kv hkv)

/-- The text of a value that is printed without loss is read as that value. -/
theorem parse_render {depth : Nat} {v : Json} (h : Plain depth v) (hdepth : depth ≤ maxDepth) :
    parse v.render = .ok v := by
  have hread := readValue_render (h.mono hdepth) [] nofun
  rw [List.append_nil] at hread
  rw [parse, hread]
  rfl

end Remedy.Json
