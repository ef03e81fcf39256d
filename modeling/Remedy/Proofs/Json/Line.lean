import Remedy.Proofs.Json.RoundTrip
import Remedy.Proofs.Text.Blank

/-!
# A printed value is one line

No character below U+0020 stands in the text of a value (`printable_render`), so it is one line; and
it has no blanks at its ends (`trim_render`).
-/

namespace Remedy.Json

open Remedy.Text

/-- No control character below the blank stands in a text. -/
def Printable (s : List Char) : Prop := ∀ c ∈ s, 32 ≤ c.toNat

theorem Printable.append {s t : List Char} (hs : Printable s) (ht : Printable t) :
    Printable (s ++ t) :=
  List.forall_mem_append.mpr ⟨hs, ht⟩

theorem Printable.not_mem {s : List Char} (h : Printable s) {c : Char} (hc : c.toNat < 32) :
    c ∉ s :=
  fun hmem => Nat.not_le.mpr hc (h c hmem)

/-! ## Strings -/

theorem le_toNat_hexDigit : ∀ n < 16, 32 ≤ (hexDigit n).toNat := by decide

theorem printable_escapeChar (c : Char) : Printable (escapeChar c) := by
  unfold escapeChar
  iterate 7
    split
    · simp [Printable]
  split
  · have hhigh := le_toNat_hexDigit (c.toNat / 16) (by omega)
    have hlow := le_toNat_hexDigit (c.toNat % 16) (by omega)
    simp [Printable, hhigh, hlow]
  · simp [Printable]
    omega

theorem printable_escape (s : List Char) : Printable (escape s) := by
  intro c hc
  obtain ⟨d, -, hc⟩ := List.mem_flatMap.mp hc
  exact printable_escapeChar d c hc

theorem printable_quote (s : String) : Printable (quote s).toList := by
  rw [toList_quote, ← List.singleton_append]
  refine .append ?_ (.append (printable_escape _) ?_) <;> simp [Printable]

/-! ## Numbers -/

/-- Numbers are written with ASCII characters from the plus sign to the letter e. -/
def IsNumeral (c : Char) : Prop := 43 ≤ c.toNat ∧ c.toNat ≤ 101

instance : DecidablePred IsNumeral := fun _ => inferInstanceAs (Decidable (_ ∧ _))

theorem isNumeral_of_all {s : List Char} (h : s.all (IsNumeral ·) = true) : ∀ c ∈ s, IsNumeral c :=
  fun c hc => of_decide_eq_true (List.all_eq_true.mp h c hc)

theorem IsNumeral.isBlank {c : Char} (h : IsNumeral c) : isBlank c = false := by
  rw [IsNumeral] at h
  simp [Text.isBlank]
  omega

theorem isNumeral_toDigits (n : Nat) : ∀ c ∈ Nat.toDigits 10 n, IsNumeral c := by
  intro c hc
  have hdigit := Char.isDigit_iff_toNat.mp (isDigit_toDigits hc)
  have hlow : '0'.toNat = 48 := rfl
  have hhigh : '9'.toNat = 57 := rfl
  rw [IsNumeral]
  omega

theorem isNumeral_write (style : Decimal.Style) (x : Decimal.Digits) :
    ∀ c ∈ (style.write x).toList, IsNumeral c := by
  have hdigits := isNumeral_toDigits x.coefficient
  have hzeros (n : Nat) : ∀ c ∈ List.replicate n '0', IsNumeral c := by
    intro c hc
    obtain rfl := List.eq_of_mem_replicate hc
    decide
  have htake (n : Nat) : ∀ c ∈ (Nat.toDigits 10 x.coefficient).take n, IsNumeral c :=
    fun c hc => hdigits c (List.mem_of_mem_take hc)
  have hdrop (n : Nat) : ∀ c ∈ (Nat.toDigits 10 x.coefficient).drop n, IsNumeral c :=
    fun c hc => hdigits c (List.mem_of_mem_drop hc)
  dsimp only [Decimal.Style.write]
  split
  · exact isNumeral_of_all (by decide)
  split
  · split
    · simp only [String.toList_append, String.toList_ofList, List.forall_mem_append]
      exact ⟨⟨hdigits, hzeros _⟩, isNumeral_of_all (by decide)⟩
    split
    · simp only [String.toList_ofList, List.forall_mem_append]
      exact ⟨⟨htake _, isNumeral_of_all (by decide)⟩, hdrop _⟩
    · simp only [String.toList_append, String.toList_ofList, List.forall_mem_append]
      exact ⟨isNumeral_of_all (by decide), hzeros _, hdigits⟩
  · have hfraction : ∀ c ∈ (if ((Nat.toDigits 10 x.coefficient).drop 1).isEmpty then []
        else '.' :: (Nat.toDigits 10 x.coefficient).drop 1), IsNumeral c := by
      split
      · exact List.forall_mem_nil _
      · exact List.forall_mem_cons.mpr ⟨by decide, hdrop 1⟩
    have hmark : ∀ c ∈ (if x.exponent + (Nat.toDigits 10 x.coefficient).length - 1 < 0 then "-"
        else if style.plus = true then "+" else "").toList, IsNumeral c := by
      split
      · exact isNumeral_of_all (by decide)
      split <;> exact isNumeral_of_all (by decide)
    have hexponent (n : Nat) : ∀ c ∈ (toString n).toList, IsNumeral c := by
      change ∀ c ∈ n.repr.toList, IsNumeral c
      rw [Nat.toList_repr]
      exact isNumeral_toDigits n
    simp only [String.toList_append, String.toList_ofList, List.forall_mem_append]
    exact ⟨⟨⟨⟨htake 1, hfraction⟩, isNumeral_of_all (by decide)⟩, hmark⟩, hexponent _⟩

theorem isNumeral_render (n : Number) : ∀ c ∈ n.render.toList, IsNumeral c := by
  cases n with
  | int n =>
      have htext := toList_render_int n
      rw [render] at htext
      rw [htext, List.forall_mem_append]
      refine ⟨?_, isNumeral_toDigits _⟩
      split <;> exact isNumeral_of_all (by decide)
  | float bits =>
      rw [Number.render, String.toList_append, List.forall_mem_append]
      refine ⟨?_, isNumeral_write _ _⟩
      split <;> exact isNumeral_of_all (by decide)

/-! ## Values -/

mutual

theorem printable_render : ∀ v : Json, Printable v.render.toList
  | .null => by simp [render, Printable]
  | .bool true => by simp [render, Printable]
  | .bool false => by simp [render, Printable]
  | .num n => by
      rw [render]
      exact fun c hc => Nat.le_trans (by omega) (isNumeral_render n c hc).1
  | .str s => by
      rw [render]
      exact printable_quote s
  | .arr items => by
      rw [render, String.toList_append, String.toList_append]
      refine .append (.append ?_ (printable_renderItems items)) ?_ <;> simp [Printable]
  | .obj fields => by
      rw [render, String.toList_append, String.toList_append]
      refine .append (.append ?_ (printable_renderFields fields)) ?_ <;> simp [Printable]

theorem printable_renderItems : ∀ items : List Json, Printable (renderItems items).toList
  | [] => by simp [renderItems, Printable]
  | [v] => by
      rw [renderItems]
      exact printable_render v
  | v :: w :: vs => by
      rw [renderItems, String.toList_append, String.toList_append]
      · refine .append (.append (printable_render v) ?_) (printable_renderItems (w :: vs))
        simp [Printable]
      · nofun

theorem printable_renderFields :
    ∀ fields : List (String × Json), Printable (renderFields fields).toList
  | [] => by simp [renderFields, Printable]
  | [(k, v)] => by
      rw [renderFields, String.toList_append, String.toList_append]
      refine .append (.append (printable_quote k) ?_) (printable_render v)
      simp [Printable]
  | (k, v) :: kv :: fields => by
      rw [renderFields]
      · simp only [String.toList_append]
        refine .append (.append (.append (.append (printable_quote k) ?_) (printable_render v)) ?_)
          (printable_renderFields (kv :: fields)) <;> simp [Printable]
      · nofun

end

theorem trim_render (v : Json) : trim v.render.toList = v.render.toList := by
  have hbracketed {front back : Char} (s : List Char) (hfront : isBlank front = false)
      (hback : isBlank back = false) : trim (front :: s ++ [back]) = front :: s ++ [back] :=
    trim_eq_self (by simpa using hfront) (by simpa [List.getLast?_cons] using hback)
  cases v with
  | null => decide
  | bool b => cases b <;> decide
  | num n =>
      have hink : ∀ c ∈ n.render.toList, isBlank c = false :=
        fun c hc => (isNumeral_render n c hc).isBlank
      rw [render]
      exact trim_eq_self (fun c hc => hink c (List.mem_of_mem_head? hc))
        fun c hc => hink c (List.mem_of_mem_getLast? hc)
  | str s =>
      rw [render, toList_quote]
      exact hbracketed _ (by decide) (by decide)
  | arr items =>
      rw [render, String.toList_append, String.toList_append]
      exact hbracketed _ (by decide) (by decide)
  | obj fields =>
      rw [render, String.toList_append, String.toList_append]
      exact hbracketed _ (by decide) (by decide)

end Remedy.Json
