import Remedy.Text.Blank

/-!
# Trimming

Blanks at the ends of a text do not matter to what is left of it when it is trimmed
(`trim_append_of_blank`, `trim_trimEnd`), and a text with ink at both ends is left as it is
(`trim_eq_self`).
-/

namespace Remedy.Text

theorem trimStart_of_blank {blanks : List Char} (h : ∀ c ∈ blanks, isBlank c = true)
    (s : List Char) : trimStart (blanks ++ s) = trimStart s :=
  List.dropWhile_append_of_pos h

theorem trimEnd_append_of_blank {blanks : List Char} (h : ∀ c ∈ blanks, isBlank c = true)
    (s : List Char) : trimEnd (s ++ blanks) = trimEnd s := by
  rw [trimEnd, List.reverse_append, List.dropWhile_append_of_pos, ← trimEnd]
  simpa using h

/-- What stands up to some ink stays at the end of a text. -/
theorem trimEnd_append_cons {c : Char} (h : isBlank c = false) (front s : List Char) :
    trimEnd (front ++ c :: s) = front ++ c :: trimEnd s := by
  have hdrop : ∀ blanks : List Char, (blanks ++ c :: front.reverse).dropWhile isBlank
      = blanks.dropWhile isBlank ++ c :: front.reverse := by
    intro blanks
    rw [List.dropWhile_append]
    split
    · next hempty => simp [h, List.isEmpty_iff.mp hempty]
    · rfl
  rw [trimEnd, List.reverse_append, List.reverse_cons, List.append_assoc, List.singleton_append,
    hdrop, List.reverse_append, ← trimEnd, List.reverse_cons, List.reverse_reverse,
    List.append_assoc, List.singleton_append]

/-- A text is what is left of it at its end, and blanks. -/
theorem exists_trimEnd_append (s : List Char) :
    ∃ blanks, (∀ c ∈ blanks, isBlank c = true) ∧ s = trimEnd s ++ blanks := by
  refine ⟨(s.reverse.takeWhile isBlank).reverse, fun c hc => ?_, ?_⟩
  · exact List.all_eq_true.mp List.all_takeWhile c (List.mem_reverse.mp hc)
  · rw [trimEnd, ← List.reverse_append, List.takeWhile_append_dropWhile, List.reverse_reverse]

theorem trim_of_blank {blanks : List Char} (h : ∀ c ∈ blanks, isBlank c = true) :
    trim blanks = [] := by
  have hstart := trimStart_of_blank h []
  rw [List.append_nil] at hstart
  rw [trim, hstart]
  rfl

theorem trim_append_of_blank {blanks : List Char} (h : ∀ c ∈ blanks, isBlank c = true)
    (s : List Char) : trim (s ++ blanks) = trim s := by
  rw [trim, trimStart, List.dropWhile_append]
  split
  · next hempty =>
      rw [trim, trimStart, List.isEmpty_iff.mp hempty]
      exact trim_of_blank h
  · exact trimEnd_append_of_blank h _

theorem trim_trimEnd (s : List Char) : trim (trimEnd s) = trim s := by
  obtain ⟨blanks, hblanks, hs⟩ := exists_trimEnd_append s
  rw [← trim_append_of_blank hblanks, ← hs]

theorem trim_cons_of_blank {c : Char} (h : isBlank c = true) (s : List Char) :
    trim (c :: s) = trim s := by
  rw [trim, trim, ← List.singleton_append, trimStart_of_blank (by simpa using h)]

/-- Behind ink, only the end of a text is trimmed. -/
theorem trim_cons {c : Char} (h : isBlank c = false) (s : List Char) :
    trim (c :: s) = c :: trimEnd s := by
  rw [trim, trimStart_of_head h]
  exact trimEnd_append_cons h [] s

theorem trim_eq_self {s : List Char} (hhead : ∀ c ∈ s.head?, isBlank c = false)
    (hlast : ∀ c ∈ s.getLast?, isBlank c = false) : trim s = s := by
  rcases List.eq_nil_or_concat s with rfl | ⟨front, c, rfl⟩
  · rfl
  · have hc := hlast c (by simp)
    have hstart : trimStart (front ++ [c]) = front ++ [c] := by
      cases front with
      | nil => exact trimStart_of_head hc
      | cons d front => exact trimStart_of_head (hhead d rfl)
    rw [List.concat_eq_append, trim, hstart, trimEnd_append_cons hc]
    rfl

end Remedy.Text
