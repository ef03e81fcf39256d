import Remedy.Diagnosis.Printed
import Remedy.Proofs.Text.Lines
import Remedy.Proofs.Text.Pattern

/-!
# Lines that check themselves

A program may print, line by line, the number it expects and the one it has got. `mismatches_inspect`
says what is found in such an output: the first line where the two numbers differ and both fit into
64 bits. A line with a larger number is passed over, whether its numbers differ or not.
-/

namespace Remedy.Printed

open Text

/-! ## Numerals -/

/-- A whole number in decimal digits, perhaps with a minus and with leading zeros. -/
structure Numeral where
  negative : Bool
  digits : List Char
  nonempty : digits ≠ []
  decimal : ∀ c ∈ digits, c.isDigit = true

namespace Numeral

def text (n : Numeral) : List Char := if n.negative then '-' :: n.digits else n.digits

def value (n : Numeral) : Int :=
  let size : Nat := Nat.ofDigitChars 10 n.digits 0
  if n.negative then -size else size

/-- The numeral that an integer is printed as. -/
def ofInt (n : Int) : Numeral where
  negative := n < 0
  digits := Nat.toDigits 10 n.natAbs
  nonempty := Nat.toDigits_ne_nil
  decimal := fun _ hc => Nat.isDigit_of_mem_toDigits (by omega) (by omega) hc

@[simp] theorem value_ofInt (n : Int) : (ofInt n).value = n := by
  have hsize : Nat.ofDigitChars 10 (Nat.toDigits 10 n.natAbs) 0 = n.natAbs :=
    Nat.ofDigitChars_toDigits (by omega) (by omega)
  simp only [value, ofInt, hsize, decide_eq_true_eq]
  split <;> omega

theorem text_ofInt (n : Int) : (ofInt n).text = (toString n).toList := by
  cases n with
  | ofNat n =>
      rw [text, ofInt, if_neg (by simp)]
      exact Nat.toList_repr.symm
  | negSucc n =>
      rw [text, ofInt, if_pos (by simp)]
      change '-' :: Nat.toDigits 10 (n + 1) = ("-" ++ (n + 1).repr).toList
      rw [String.toList_append, Nat.toList_repr]
      rfl

theorem exists_digits (n : Numeral) : ∃ c s, n.digits = c :: s ∧ c.isDigit = true := by
  cases h : n.digits with
  | nil => exact absurd h n.nonempty
  | cons c s => exact ⟨c, s, rfl, n.decimal c (h ▸ List.mem_cons_self)⟩

theorem sign_text (n : Numeral) : sign n.text = (n.negative, n.digits) := by
  rw [text]
  cases n.negative with
  | true => rfl
  | false =>
      obtain ⟨c, s, hdigits, hc⟩ := n.exists_digits
      rw [if_neg Bool.false_ne_true, hdigits, sign]
      intro digits hminus
      obtain ⟨rfl, -⟩ := List.cons.inj hminus
      cases hc

/-- The text of a numeral tells its number. -/
theorem value_of_text {n m : Numeral} (h : n.text = m.text) : n.value = m.value := by
  have hsign := congrArg sign h
  rw [sign_text, sign_text, Prod.mk.injEq] at hsign
  rw [value, value, hsign.1, hsign.2]

end Numeral

def Fits (n : Int) : Prop := -0x8000000000000000 ≤ n ∧ n < 0x8000000000000000

instance (n : Int) : Decidable (Fits n) := inferInstanceAs (Decidable (_ ∧ _))

theorem foldl_digits (digits : List Char) (n : Nat) :
    digits.foldl (fun n c => n * 10 + (c.toNat - 48)) n = Nat.ofDigitChars 10 digits n := by
  induction digits generalizing n with
  | nil => rfl
  | cons c digits ih =>
      rw [List.foldl_cons, ih, Nat.ofDigitChars_cons, Nat.mul_comm n 10]
      rfl

/-- A numeral is read if its number fits. -/
theorem number?_text (n : Numeral) :
    number? (String.ofList n.text) = if Fits n.value then some n.value else none := by
  have hempty : n.digits.isEmpty = false := by simpa using n.nonempty
  have hall : n.digits.all Char.isDigit = true := List.all_eq_true.mpr n.decimal
  simp only [number?, String.toList_ofList, n.sign_text, hempty, hall, foldl_digits]
  rfl

/-! ## The message -/

/-- What is found where another number is shown than the one expected. -/
def unmet (expected shown : Int) : Finding :=
  { category := .outputMismatch, line := none, severity := .medium
    confidence := .ofPercent 80
    message := "Expected " ++ toString expected ++ " but the program printed " ++ toString shown
    fix := none }

theorem space_not_mem_toString (n : Int) : ' ' ∉ (toString n).toList := by
  have hdigits : ' ' ∉ (Numeral.ofInt n).digits := fun h => by
    have hspace := (Numeral.ofInt n).decimal ' ' h
    cases hspace
  rw [← Numeral.text_ofInt, Numeral.text]
  split
  · rw [List.mem_cons, not_or]
    exact ⟨by decide, hdigits⟩
  · exact hdigits

/-- The words of the message. -/
theorem splitAt_message (n m : Int) :
    splitAt ' ' (unmet n m).message.toList
      = ["Expected".toList, (toString n).toList, "but".toList, "the".toList, "program".toList,
        "printed".toList, (toString m).toList] := by
  have hmessage : (unmet n m).message.toList = "Expected".toList ++ ' ' :: ((toString n).toList
      ++ ' ' :: ("but".toList ++ ' ' :: ("the".toList ++ ' ' :: ("program".toList
      ++ ' ' :: ("printed".toList ++ ' ' :: (toString m).toList))))) := by
    rw [unmet, String.toList_append, String.toList_append, String.toList_append, List.append_assoc,
      List.append_assoc]
    rfl
  rw [hmessage, splitAt_append (by decide), splitAt_append (space_not_mem_toString n),
    splitAt_append (by decide), splitAt_append (by decide), splitAt_append (by decide),
    splitAt_append (by decide), splitAt_of_not_mem (space_not_mem_toString m)]

/-- The message shows both numbers. -/
theorem unmet_inj {n m n' m' : Int} (h : unmet n m = unmet n' m') : n = n' ∧ m = m' := by
  have hwords := congrArg (fun f : Finding => splitAt ' ' f.message.toList) h
  simp only [splitAt_message, List.cons.injEq, true_and, and_true] at hwords
  simp only [← Numeral.text_ofInt] at hwords
  have hexpected := Numeral.value_of_text hwords.1
  have hshown := Numeral.value_of_text hwords.2
  rw [Numeral.value_ofInt, Numeral.value_ofInt] at hexpected hshown
  exact ⟨hexpected, hshown⟩

/-! ## The lines -/

/-- A line that checks itself, behind a text without an opening parenthesis. -/
structure SelfCheck where
  front : List Char
  expected : Numeral
  shown : Numeral
  free : '(' ∉ front

namespace SelfCheck

def pair (check : SelfCheck) : List Char :=
  "(expect ".toList ++ (check.expected.text ++ ("): ".toList ++ check.shown.text))

def line (check : SelfCheck) : List Char := check.front ++ check.pair

/-- What the match in the line remembers. -/
def groups (check : SelfCheck) : List (Nat × List Char) :=
  [(2, check.shown.text), (1, check.expected.text)]

def Differs (check : SelfCheck) : Prop := check.expected.value ≠ check.shown.value

def Legible (check : SelfCheck) : Prop := Fits check.expected.value ∧ Fits check.shown.value

instance (check : SelfCheck) : Decidable check.Differs := inferInstanceAs (Decidable (_ ≠ _))

instance (check : SelfCheck) : Decidable check.Legible := inferInstanceAs (Decidable (_ ∧ _))

def values (check : SelfCheck) : Int × Int := (check.expected.value, check.shown.value)

/-- What is found where the numbers differ. -/
def finding (check : SelfCheck) : Finding := unmet check.expected.value check.shown.value

end SelfCheck

/-! ## What the pattern takes -/

theorem isDigit_ascii {c : Char} (h : c.isDigit = true) : isDigit c = true := by
  have hle : 48 ≤ c.toNat ∧ c.toNat ≤ 57 := Char.isDigit_iff_toNat.mp h
  rw [isDigit, if_pos (by omega), h]

theorem isBlank_of_isDigit {c : Char} (h : c.isDigit = true) : isBlank c = false := by
  have hle : 48 ≤ c.toNat ∧ c.toNat ≤ 57 := Char.isDigit_iff_toNat.mp h
  simp [isBlank]
  omega

/-- What a numeral starts with ends what comes before it. -/
theorem head_numeral (n : Numeral) (rest : List Char) {test : Char → Bool} (hminus : test '-' = false)
    (hdigit : ∀ c, c.isDigit = true → test c = false) :
    ∀ c, (n.text ++ rest).head? = some c → test c = false := by
  intro c hc
  rw [Numeral.text] at hc
  split at hc
  · obtain rfl := Option.some.inj hc
    exact hminus
  · obtain ⟨d, s, hdigits, hd⟩ := n.exists_digits
    rw [hdigits] at hc
    obtain rfl := Option.some.inj hc
    exact hdigit d hd

theorem takes_numeral (n : Numeral) {rest : List Char}
    (hrest : ∀ c, rest.head? = some c → isDigit c = false) :
    Takes (.all [.optional (.lit "-"), .digits]) n.text rest [] := by
  have hdigits : Takes (.all [.digits]) n.digits rest [] :=
    takes_some n.nonempty (fun c hc => isDigit_ascii (n.decimal c hc)) hrest
  rw [Numeral.text]
  split
  · have hminus : Takes (.optional (.lit "-")) ['-'] (n.digits ++ rest) [] :=
      (takes_lit "-" _).alt_left _
    exact hminus.all hdigits
  · have hminus : Fails (.lit "-") (n.digits ++ rest) := by
      refine Fails.char fun c hc => ?_
      obtain ⟨d, s, hdigits, hd⟩ := n.exists_digits
      rw [hdigits] at hc
      obtain rfl := Option.some.inj hc
      rw [beq_eq_false_iff_ne]
      rintro rfl
      cases hd
    have hsign : Takes (.optional (.lit "-")) [] (n.digits ++ rest) [] :=
      Takes.alt_right hminus (takes_nothing _)
    exact hsign.all hdigits

theorem startsWith_expectation : expectation.StartsWith '(' := by
  intro rest hrest
  have hopen : "(expect".toList = '(' :: "expect".toList := rfl
  have hlit : Fails (.lit "(expect") rest := by
    rw [Pattern.lit, hopen, List.map_cons]
    refine Fails.all (Fails.char fun c hc => ?_) _
    rw [beq_eq_false_iff_ne]
    rintro rfl
    exact hrest hc
  exact hlit.all _

theorem takes_expectation (check : SelfCheck) {rest : List Char}
    (hrest : ∀ c, rest.head? = some c → isDigit c = false) :
    Takes expectation check.pair rest check.groups := by
  obtain ⟨-, expected, shown, -⟩ := check
  change Takes expectation
    ("(expect".toList ++ ([' '] ++ (expected.text ++ ([')'] ++ ([':', ' '] ++ shown.text))))) rest
    [(2, shown.text), (1, expected.text)]
  have hseparator : ∀ c, (shown.text ++ rest).head? = some c → (c == ':' || isBlank c) = false := by
    refine head_numeral shown rest rfl fun c hc => ?_
    rw [isBlank_of_isDigit hc, Bool.or_false, beq_eq_false_iff_ne]
    rintro rfl
    cases hc
  have hclose : ∀ c, ([')'] ++ ([':', ' '] ++ shown.text) ++ rest).head? = some c →
      isDigit c = false := by
    intro c hc
    obtain rfl := Option.some.inj hc
    rfl
  have hshown : Takes (.all [.group 2 (.all [.optional (.lit "-"), .digits])]) shown.text rest
      [(2, shown.text)] := (takes_numeral shown hrest).group 2
  have hbetween : Takes (.some (.char fun c => c == ':' || isBlank c)) [':', ' '] (shown.text ++ rest)
      [] := by
    refine takes_some (by simp) ?_ hseparator
    rw [List.forall_mem_cons, List.forall_mem_singleton]
    exact ⟨rfl, rfl⟩
  have hexpected := (takes_numeral expected hclose).group 1
  have hspace : Takes .someBlanks [' ']
      (expected.text ++ ([')'] ++ ([':', ' '] ++ shown.text)) ++ rest) [] := by
    refine takes_some (by simp) (List.forall_mem_singleton.mpr rfl) ?_
    rw [List.append_assoc]
    exact head_numeral expected _ rfl fun c => isBlank_of_isDigit
  exact (takes_lit "(expect" _).all (hspace.all (hexpected.all ((takes_lit ")" _).all
    (hbetween.all hshown))))

/-! ## Line by line -/

def groupsOf (m : Pattern.Found) : List (Nat × List Char) := m.stop.groups

/-- The next match is in the next line. -/
theorem findAllFrom_line (check : SelfCheck) {gap rest : List Char} {fuel : Nat} (hgap : '(' ∉ gap)
    (hrest : ∀ c, rest.head? = some c → isDigit c = false)
    (hfuel : (gap ++ (check.line ++ rest)).length ≤ fuel) (before : Option Char)
    (groups : List (Nat × List Char)) :
    ∃ last found fuel', rest.length ≤ fuel' ∧
      (expectation.findAllFrom fuel (.facing before (gap ++ (check.line ++ rest)) groups)).map groupsOf
        = check.groups :: (expectation.findAllFrom fuel' (.facing last rest found)).map groupsOf := by
  have hfront : '(' ∉ gap ++ check.front := by
    rw [List.mem_append, not_or]
    exact ⟨hgap, check.free⟩
  have htext : gap ++ (check.line ++ rest) = (gap ++ check.front) ++ (check.pair ++ rest) := by
    rw [SelfCheck.line, List.append_assoc, List.append_assoc]
  have hlength : check.pair.length = check.pair.tail.length + 1 := rfl
  rw [htext, List.length_append, List.length_append, List.length_append, hlength] at hfuel
  obtain ⟨fuel, rfl⟩ : ∃ n, fuel = n + 1 := ⟨fuel - 1, by omega⟩
  obtain ⟨m, last, hfind, hm⟩ := Pattern.findAllFrom_append startsWith_expectation
    (takes_expectation check hrest) hfront before groups fuel
  refine ⟨last, check.groups, fuel, by omega, ?_⟩
  rw [htext, hfind, List.map_cons, groupsOf, hm]

/-- Each line holds one match. `gap` is what the line before leaves behind its match. -/
theorem groups_findAllFrom {pieces : List (List Char)} {checks : List SelfCheck}
    (h : linesOfPieces pieces = checks.map SelfCheck.line) {gap : List Char} {fuel : Nat}
    (hgap : '(' ∉ gap) (hfuel : (gap ++ joinWith ['\n'] pieces).length ≤ fuel) (before : Option Char)
    (groups : List (Nat × List Char)) :
    (expectation.findAllFrom fuel (.facing before (gap ++ joinWith ['\n'] pieces) groups)).map groupsOf
      = checks.map SelfCheck.groups := by
  fun_induction linesOfPieces pieces generalizing checks gap fuel before groups with
  | case1 =>
      obtain rfl := List.map_eq_nil_iff.mp h.symm
      rw [joinWith, List.append_nil, Pattern.findAllFrom_of_not_mem startsWith_expectation hgap]
      rfl
  | case2 last hempty =>
      obtain rfl := List.map_eq_nil_iff.mp h.symm
      obtain rfl := List.isEmpty_iff.mp hempty
      rw [joinWith, List.append_nil, Pattern.findAllFrom_of_not_mem startsWith_expectation hgap]
      rfl
  | case3 last hempty =>
      obtain ⟨check, rest, rfl, hline, hrest⟩ := List.map_eq_cons_iff.mp h.symm
      obtain rfl := List.map_eq_nil_iff.mp hrest
      have htext : gap ++ joinWith ['\n'] [last] = gap ++ (check.line ++ []) := by
        rw [joinWith, hline, List.append_nil]
      rw [htext] at hfuel ⊢
      obtain ⟨last, found, fuel', -, hfind⟩ :=
        findAllFrom_line check hgap (fun c hc => by cases hc) hfuel before groups
      rw [hfind, Pattern.findAllFrom_of_not_mem startsWith_expectation List.not_mem_nil]
      rfl
  | case4 piece pieces hne ih =>
      obtain ⟨check, checks, rfl, hline, hrest⟩ := List.map_eq_cons_iff.mp h.symm
      obtain ⟨lineEnd, hend, hjoin⟩ := joinWith_cons_of_ne_nil piece hne
      rw [← hline] at hjoin
      have hgap' : '(' ∉ lineEnd := by
        rcases hend with rfl | rfl <;> decide
      have hdigit : ∀ c, (lineEnd ++ joinWith ['\n'] pieces).head? = some c → isDigit c = false := by
        intro c hc
        rcases hend with rfl | rfl
        · obtain rfl := Option.some.inj hc
          rfl
        · obtain rfl := Option.some.inj hc
          rfl
      rw [hjoin] at hfuel ⊢
      obtain ⟨last, found, fuel', hfuel', hfind⟩ :=
        findAllFrom_line check hgap hdigit hfuel before groups
      rw [hfind, ih hrest.symm hgap' hfuel' last found]
      rfl

/-! ## What is found -/

/-- The two numbers that the groups of a match hold, if both can be read and they differ. -/
def differing? (groups : List (Nat × List Char)) : Option (Int × Int) :=
  match number? (((groups.lookup 1).map String.ofList).getD ""),
    number? (((groups.lookup 2).map String.ofList).getD "") with
  | some expected, some actual => if expected = actual then none else some (expected, actual)
  | _, _ => none

theorem differing?_check (check : SelfCheck) :
    differing? check.groups
      = (Option.guard (fun check => check.Legible ∧ check.Differs) check).map SelfCheck.values := by
  change (match number? (String.ofList check.expected.text),
    number? (String.ofList check.shown.text) with
    | some expected, some actual => if expected = actual then none else some (expected, actual)
    | _, _ => none) = _
  rw [number?_text, number?_text]
  by_cases hexpected : Fits check.expected.value
  · by_cases hshown : Fits check.shown.value
    · by_cases heq : check.expected.value = check.shown.value
      · simp [Option.guard, SelfCheck.Legible, SelfCheck.Differs, hshown, heq]
      · simp [Option.guard, SelfCheck.Legible, SelfCheck.Differs, SelfCheck.values, hexpected, hshown, heq]
    · simp [Option.guard, SelfCheck.Legible, hshown]
  · simp [Option.guard, SelfCheck.Legible, hexpected]

theorem mismatch?_eq {stdout : List Char} {checks : List SelfCheck}
    (h : lines stdout = checks.map SelfCheck.line) :
    mismatch? stdout
      = (checks.find? fun check => check.Legible ∧ check.Differs).map SelfCheck.values := by
  have hgroups := groups_findAllFrom h List.not_mem_nil (Nat.le_refl _) none []
  rw [List.nil_append, joinWith_splitAt] at hgroups
  calc
    mismatch? stdout = ((expectation.findAll stdout).map groupsOf).findSome? differing? := by
      rw [List.findSome?_map]
      rfl
    _ = checks.findSome? fun check => differing? check.groups := by
      rw [Pattern.findAll]
      change List.findSome? differing? (List.map groupsOf
        (expectation.findAllFrom stdout.length (.facing none stdout []))) = _
      rw [hgroups, List.findSome?_map]
      rfl
    _ = _ := by
      simp only [differing?_check]
      rw [← List.findSome?_guard, List.map_findSome?]
      rfl

theorem filter_inspect (stdout : String) :
    (inspect stdout).filter (fun f => f.category = .outputMismatch)
      = ((mismatch? stdout.toList).map fun (expected, shown) => unmet expected shown).toList := by
  rw [inspect, List.filter_append]
  cases noneShown.find? stdout.toList with
  | none =>
      cases mismatch? stdout.toList with
      | none => rfl
      | some numbers => rfl
  | some m =>
      cases mismatch? stdout.toList with
      | none => rfl
      | some numbers => rfl

/-- Skipping some items changes nothing if the first one that is looked for is not among them. -/
theorem find?_and_eq {α : Type} {p q : α → Prop} [DecidablePred p] [DecidablePred q]
    {items : List α} (h : ∀ a, items.find? (fun a => q a) = some a → p a) :
    items.find? (fun a => p a ∧ q a) = items.find? fun a => q a := by
  induction items with
  | nil => rfl
  | cons a items ih =>
      rw [List.find?_cons] at h
      rw [List.find?_cons, List.find?_cons]
      by_cases hq : q a
      · have hp : p a := h a (by simp [hq])
        simp [hp, hq]
      · simp only [hq, and_false, decide_false] at h ⊢
        exact ih h

/-- What is found in an output that checks itself line by line: the first line where the numbers
differ, of those whose numbers fit into 64 bits. So the first line where the numbers differ is found
exactly if they fit. -/
theorem mismatches_inspect {stdout : String} {checks : List SelfCheck}
    (h : lines stdout.toList = checks.map SelfCheck.line) :
    (inspect stdout).filter (fun f => f.category = .outputMismatch)
        = ((checks.find? fun check => check.Legible ∧ check.Differs).map SelfCheck.finding).toList ∧
      ((inspect stdout).filter (fun f => f.category = .outputMismatch)
          = ((checks.find? fun check => check.Differs).map SelfCheck.finding).toList ↔
        ∀ check, checks.find? (fun check => check.Differs) = some check → check.Legible) := by
  have hfound : (inspect stdout).filter (fun f => f.category = .outputMismatch)
      = ((checks.find? fun check => check.Legible ∧ check.Differs).map SelfCheck.finding).toList := by
    rw [filter_inspect, mismatch?_eq h, Option.map_map]
    rfl
  refine ⟨hfound, ?_⟩
  rw [hfound]
  constructor
  · intro heq check hcheck
    have heq := congrArg List.head? heq
    rw [hcheck, Option.head?_toList, Option.head?_toList, Option.map_some,
      Option.map_eq_some_iff] at heq
    obtain ⟨check', hcheck', heq⟩ := heq
    have hlegible := List.find?_some hcheck'
    rw [decide_eq_true_eq] at hlegible
    obtain ⟨hexpected, hshown⟩ := unmet_inj heq
    rw [SelfCheck.Legible, ← hexpected, ← hshown]
    exact hlegible.1
  · intro hlegible
    rw [find?_and_eq hlegible]

/-- The line that two integers are printed in, behind a label. -/
def claimed (label : String) (expected shown : Int) (free : '(' ∉ label.toList) : SelfCheck :=
  ⟨label.toList, .ofInt expected, .ofInt shown, free⟩

theorem mismatches_inspect_claimed :
    lines "a (expect 55): 55\nb (expect 9223372036854775808): 0\nc (expect -7): 7".toList
        = [claimed "a " 55 55 (by decide), claimed "b " 9223372036854775808 0 (by decide),
          claimed "c " (-7) 7 (by decide)].map SelfCheck.line ∧
      (inspect "a (expect 55): 55\nb (expect 9223372036854775808): 0\nc (expect -7): 7").filter
        (fun f => f.category = .outputMismatch) = [unmet (-7) 7] := by
  have hlines : lines "a (expect 55): 55\nb (expect 9223372036854775808): 0\nc (expect -7): 7".toList
      = [claimed "a " 55 55 (by decide), claimed "b " 9223372036854775808 0 (by decide),
        claimed "c " (-7) 7 (by decide)].map SelfCheck.line := by decide
  refine ⟨hlines, (mismatches_inspect hlines).1.trans ?_⟩
  rfl

/-- A line is passed over if one of its numbers does not fit. -/
theorem large_number_passed_over :
    lines "x (expect 9223372036854775808): 0\n".toList
        = [claimed "x " 9223372036854775808 0 (by decide)].map SelfCheck.line ∧
      (claimed "x " 9223372036854775808 0 (by decide)).Differs ∧
      (inspect "x (expect 9223372036854775808): 0\n").filter (fun f => f.category = .outputMismatch)
        = [] := by
  have hlines : lines "x (expect 9223372036854775808): 0\n".toList
      = [claimed "x " 9223372036854775808 0 (by decide)].map SelfCheck.line := by decide
  refine ⟨hlines, by decide, ?_⟩
  rw [filter_inspect, mismatch?_eq hlines]
  rfl

end Remedy.Printed
