import Mathlib.Data.Option.Basic
import Remedy.Cases.Harness
import Remedy.Proofs.Json.Line

/-!
# The literals in the Python harness

The harness carries the program and the text of its input as string literals. They are written by
the rules of JSON and read by those of Python, where more escapes are known, three quotes open
another kind of literal, and a line end breaks one off. On what JSON writes the two agree
(`read?_quote`).
-/

namespace Remedy.Python.Literal

/-! ## Reading a literal -/

/-- A line end may stand in a literal behind a backslash only. -/
def isLineEnd (c : Char) : Bool := c = '\n' || c = '\r'

/-- A text behind a cut, put behind more of the text in front of it. -/
def behind (front : List Char) (cut : List Char × List Char) : List Char × List Char :=
  (front ++ cut.1, cut.2)

/-- The text up to the first quote that stands behind no backslash, and what follows the quote. -/
def body? : List Char → Option (List Char × List Char)
  | [] => none
  | '"' :: s => some ([], s)
  | '\\' :: '\r' :: '\n' :: s => (body? s).map (behind ['\\', '\r', '\n'])
  | '\\' :: c :: s => (body? s).map (behind ['\\', c])
  | c :: s => if isLineEnd c then none else (body? s).map (behind [c])

def letters : List (Char × Nat) :=
  [('\\', 92), ('\'', 39), ('"', 34), ('a', 7), ('b', 8), ('f', 12), ('n', 10), ('r', 13), ('t', 9),
    ('v', 11)]

/-- The number that hexadecimal digits write. -/
def hexNumber? (digits : List Char) : Option Nat :=
  digits.foldlM (fun n c => (Json.hexValue? c).map (16 * n + ·)) 0

/-- The code point of an escape by so many digits, and the length of letter and digits. -/
def hexEscape? (count : Nat) (s : List Char) : Option (List Nat × Nat) := do
  guard (count ≤ s.length)
  let n ← hexNumber? (s.take count)
  guard (n ≤ 0x10FFFF)
  pure ([n], count + 1)

def isOctal (c : Char) : Bool := '0' ≤ c && c ≤ '7'

/-- The code point of an escape by up to three octal digits, and their number. -/
def octalEscape (s : List Char) : List Nat × Nat :=
  let digits := (s.take 3).takeWhile isOctal
  ([digits.foldl (fun n c => 8 * n + (c.toNat - 48)) 0], digits.length)

section

variable (named : List Char → Option Nat)

/-- The code point of an escape by a name between braces, and the length of letter and name. -/
def nameEscape? : List Char → Option (List Nat × Nat)
  | '{' :: s => do
    let name := s.takeWhile (· ≠ '}')
    guard (name.length < s.length)
    pure ([← named name], name.length + 3)
  | _ => none

/-- What the text behind a backslash stands for, and how much of the text that takes. -/
def escape? : List Char → Option (List Nat × Nat)
  | [] => none
  | '\r' :: '\n' :: _ => some ([], 2)
  | c :: s =>
    if isLineEnd c then some ([], 1)
    else if c = 'x' then hexEscape? 2 s
    else if c = 'u' then hexEscape? 4 s
    else if c = 'U' then hexEscape? 8 s
    else if c = 'N' then nameEscape? named s
    else if isOctal c then some (octalEscape (c :: s))
    else match letters.lookup c with
      | some n => some ([n], 1)
      | none => some (['\\'.toNat], 0)

/-- The code points of a body behind the characters that an escape has taken. -/
def decodeFrom : (taken : Nat) → List Char → Option (List Nat)
  | _, [] => some []
  | taken + 1, _ :: s => decodeFrom taken s
  | 0, c :: s =>
    if c = '\\' then do
      let (points, taken) ← escape? named s
      (decodeFrom taken s).map (points ++ ·)
    else (decodeFrom 0 s).map (c.toNat :: ·)

/-- The code points of the literal at the start of a text, and what follows it. Three quotes open a
literal of another kind. -/
def read? : List Char → Option (List Nat × List Char)
  | '"' :: s => do
    guard (¬['"', '"'] <+: s)
    let (body, rest) ← body? s
    pure (← decodeFrom named 0 body, rest)
  | _ => none

end

/-! ## Bodies -/

theorem behind_nil : behind [] = id := rfl

theorem behind_behind (front more : List Char) (cut : List Char × List Char) :
    behind front (behind more cut) = behind (front ++ more) cut := by
  simp [behind]

/-- A character that is no different in a literal. -/
def IsPlain (c : Char) : Prop := c ≠ '"' ∧ c ≠ '\\' ∧ isLineEnd c = false

instance : DecidablePred IsPlain := fun _ => inferInstanceAs (Decidable (_ ∧ _))

theorem isPlain_hexDigit : ∀ n < 16, IsPlain (Json.hexDigit n) := by decide

theorem isPlain_of_le {c : Char} (hquote : c ≠ '"') (hescape : c ≠ '\\') (h : 32 ≤ c.toNat) :
    IsPlain c := by
  refine ⟨hquote, hescape, ?_⟩
  rw [isLineEnd, Bool.or_eq_false_iff, decide_eq_false_iff_not, decide_eq_false_iff_not]
  constructor <;> rintro rfl <;> exact absurd h (by decide)

theorem body?_of_isPlain {front : List Char} (h : ∀ c ∈ front, IsPlain c) (s : List Char) :
    body? (front ++ s) = (body? s).map (behind front) := by
  induction front with
  | nil => simp [behind_nil]
  | cons c front ih =>
      obtain ⟨⟨hquote, hescape, hend⟩, hfront⟩ := List.forall_mem_cons.mp h
      rw [List.cons_append, body?]
      · simp [hend, ih hfront, Function.comp_def, behind_behind]
      all_goals simp_all

theorem body?_escapeChar (c : Char) (s : List Char) :
    body? (Json.escapeChar c ++ s) = (body? s).map (behind (Json.escapeChar c)) := by
  unfold Json.escapeChar
  iterate 7
    split
    · rfl
  split
  · have hdigits : ∀ d ∈ ['0', '0', Json.hexDigit (c.toNat / 16), Json.hexDigit (c.toNat % 16)],
        IsPlain d := by
      have hhigh := isPlain_hexDigit (c.toNat / 16) (by omega)
      have hlow := isPlain_hexDigit (c.toNat % 16) (by omega)
      simpa [hhigh, hlow] using (by decide : IsPlain '0')
    have hbody := body?_of_isPlain hdigits s
    change (body? (_ ++ s)).map (behind ['\\', 'u']) = _
    rw [hbody]
    simp [Function.comp_def, behind_behind]
  · rename_i hquote hescape _ _ _ _ _ h
    have hplain := isPlain_of_le hquote hescape (by omega)
    exact body?_of_isPlain (List.forall_mem_singleton.mpr hplain) s

theorem body?_escape (s rest : List Char) :
    body? (Json.escape s ++ '"' :: rest) = some (Json.escape s, rest) := by
  induction s with
  | nil => rfl
  | cons c s ih =>
      rw [Json.escape] at ih
      rw [Json.escape, List.flatMap_cons, List.append_assoc, body?_escapeChar, ih]
      rfl

/-! ## Escapes -/

section

variable (named : List Char → Option Nat)

theorem hexNumber?_hexDigit : ∀ n < 32,
    hexNumber? ['0', '0', Json.hexDigit (n / 16), Json.hexDigit (n % 16)] = some n := by
  decide

theorem escape?_code {n : Nat} (h : n < 32) (s : List Char) :
    escape? named ('u' :: '0' :: '0' :: Json.hexDigit (n / 16) :: Json.hexDigit (n % 16) :: s)
      = some ([n], 5) := by
  have hpoint : n ≤ 0x10FFFF := by omega
  change hexEscape? 4 _ = _
  simp [hexEscape?, hexNumber?_hexDigit n h, hpoint]

theorem decodeFrom_escapeChar (c : Char) (s : List Char) :
    decodeFrom named 0 (Json.escapeChar c ++ s) = (decodeFrom named 0 s).map (c.toNat :: ·) := by
  unfold Json.escapeChar
  iterate 5
    split
    · next h =>
      subst h
      rfl
  split
  · next h =>
    rw [h]
    rfl
  split
  · next h =>
    rw [h]
    rfl
  split
  · next h =>
    have hcode := escape?_code named h s
    simp [decodeFrom, hcode]
  · next hescape _ _ _ _ _ _ =>
    simp [decodeFrom, hescape]

theorem decodeFrom_escape (s : List Char) :
    decodeFrom named 0 (Json.escape s) = some (s.map Char.toNat) := by
  induction s with
  | nil => rfl
  | cons c s ih =>
      rw [Json.escape] at ih
      rw [Json.escape, List.flatMap_cons, decodeFrom_escapeChar, ih]
      rfl

/-- A text that is written by the rules of JSON is read by those of Python. -/
theorem read?_quote (text : String) {rest : List Char} (h : rest.head? ≠ some '"') :
    read? named ((Json.quote text).toList ++ rest) = some (text.toList.map Char.toNat, rest) := by
  have hbody := body?_escape text.toList rest
  -- Two quotes at once would be the end of an empty body and a quote behind it.
  have hopen : ¬['"', '"'] <+: Json.escape text.toList ++ '"' :: rest := by
    rintro ⟨more, hmore⟩
    rw [← hmore] at hbody
    obtain ⟨-, hrest⟩ := Prod.mk.inj (Option.some.inj hbody)
    simp [← hrest] at h
  rw [Json.toList_quote, List.cons_append, List.append_assoc, List.singleton_append, read?, hbody]
  simp [hopen, decodeFrom_escape]

end

end Remedy.Python.Literal

namespace Remedy.Cases

/-- A literal is one line and is read as a text, up to what stands behind it. -/
structure Spells (literal : List Char) (text : String) (rest : List Char) : Prop where
  oneLine : Json.Printable literal
  reads : ∀ named, Python.Literal.read? named (literal ++ rest)
    = some (text.toList.map Char.toNat, rest)

theorem spells_quote (text : String) {c : Char} {rest : List Char} (h : [c] <+: rest)
    (hc : c ≠ '"') : Spells (Json.quote text).toList text rest := by
  obtain ⟨rest, rfl⟩ := h
  refine ⟨Json.printable_quote text, fun named => ?_⟩
  exact Python.Literal.read?_quote named text (by simpa using hc)

theorem prefix_toList_append (s t : String) : s.toList <+: (s ++ t).toList := by
  rw [String.toList_append]
  exact List.prefix_append ..

theorem suffix_toList_append (s t : String) : t.toList <:+ (s ++ t).toList := by
  rw [String.toList_append]
  exact List.suffix_append ..

theorem suffix_pythonFront : "exec(compile(".toList <:+ pythonFront.toList :=
  suffix_toList_append ..

theorem prefix_pythonMiddle :
    ", \"main.py\", \"exec\"), __mender_ns)\n".toList <+: pythonMiddle.toList := by
  obtain ⟨rest, hrest⟩ : ∃ rest,
      pythonMiddle = ", \"main.py\", \"exec\"), __mender_ns)\n" ++ rest := by
    unfold pythonMiddle
    simp only [String.append_assoc, -String.reduceAppend]
    exact ⟨_, rfl⟩
  rw [hrest]
  exact prefix_toList_append ..

theorem suffix_pythonMiddle :
    "        __mender_result = __mender_call(__mender_entry, __mender_json.loads(".toList
      <:+ pythonMiddle.toList :=
  suffix_toList_append ..

theorem prefix_pythonBack : "))\n".toList <+: pythonBack.toList := by
  simp only [pythonBack, String.append_assoc, -String.reduceAppend]
  exact prefix_toList_append ..

/-- In the harness of every program and every input, the argument of `compile` spells the program
and the argument of `loads` the text of the input; everything else is the same in all harnesses. -/
theorem harness_spells (source : String) (input : Json) : ∃ program data : List Char,
    (harness? .python source input).map String.toList
      = some (pythonFront.toList ++
          (program ++ (pythonMiddle.toList ++ (data ++ pythonBack.toList)))) ∧
    Spells program source (pythonMiddle.toList ++ (data ++ pythonBack.toList)) ∧
    Spells data input.render pythonBack.toList ∧
    "exec(compile(".toList <:+ pythonFront.toList ∧
    ", \"main.py\", \"exec\"), __mender_ns)\n".toList <+: pythonMiddle.toList ∧
    "        __mender_result = __mender_call(__mender_entry, __mender_json.loads(".toList
      <:+ pythonMiddle.toList ∧
    "))\n".toList <+: pythonBack.toList := by
  have hcomma : [','] <+: pythonMiddle.toList := List.IsPrefix.trans (by decide) prefix_pythonMiddle
  have hparen : [')'] <+: pythonBack.toList := List.IsPrefix.trans (by decide) prefix_pythonBack
  refine ⟨(Json.quote source).toList, (inputLiteral input).toList, ?_, ?_, ?_, suffix_pythonFront,
    prefix_pythonMiddle, suffix_pythonMiddle, prefix_pythonBack⟩
  · simp only [harness?, pythonHarness, Option.map_some, String.toList_append, List.append_assoc]
  · exact spells_quote source (hcomma.trans (List.prefix_append ..)) (by decide)
  · exact spells_quote input.render hparen (by decide)

end Remedy.Cases
