/-!
# Lines of a text

A line feed ends a line and a carriage return right before it belongs to the line end. A text that
does not end with a line feed has one more, unterminated line; an empty rest is no line.
-/

namespace Remedy.Text

/-- The pieces between separators, the empty ones included: one more than there are separators. -/
def splitAt (sep : Char) : List Char → List (List Char)
  | [] => [[]]
  | c :: s =>
    if c = sep then [] :: splitAt sep s
    else
      match splitAt sep s with
      | [] => [[c]]
      | piece :: pieces => (c :: piece) :: pieces

/-- A terminated line without the carriage return of its line end. -/
def dropReturn (line : List Char) : List Char :=
  if line.getLast? = some '\r' then line.dropLast else line

/-- The lines of the pieces between line feeds: all but the last piece are terminated. -/
def linesOfPieces : List (List Char) → List (List Char)
  | [] => []
  | [last] => if last.isEmpty then [] else [last]
  | piece :: pieces => dropReturn piece :: linesOfPieces pieces

def lines (s : List Char) : List (List Char) := linesOfPieces (splitAt '\n' s)

def linesOf (s : String) : List String := (lines s.toList).map String.ofList

def joinWith (sep : List Char) : List (List Char) → List Char
  | [] => []
  | [piece] => piece
  | piece :: pieces => piece ++ sep ++ joinWith sep pieces

theorem splitAt_ne_nil (sep : Char) (s : List Char) : splitAt sep s ≠ [] := by
  cases s with
  | nil => simp [splitAt]
  | cons c s =>
    unfold splitAt
    split
    · simp
    · split <;> simp

theorem splitAt_cons_of_ne {sep c : Char} (h : c ≠ sep) (s : List Char) :
    splitAt sep (c :: s) = (c :: (splitAt sep s).headD []) :: (splitAt sep s).tail := by
  have hne := splitAt_ne_nil sep s
  rw [splitAt, if_neg h]
  split <;> simp_all

/-- Splitting loses nothing but the separators. -/
theorem joinWith_splitAt (sep : Char) (s : List Char) : joinWith [sep] (splitAt sep s) = s := by
  induction s with
  | nil => rfl
  | cons c s ih =>
    by_cases h : c = sep
    · subst h
      rw [splitAt, if_pos rfl]
      cases hs : splitAt c s with
      | nil => exact absurd hs (splitAt_ne_nil c s)
      | cons piece pieces => rw [← ih, hs]; rfl
    · rw [splitAt_cons_of_ne h]
      cases hs : splitAt sep s with
      | nil => exact absurd hs (splitAt_ne_nil sep s)
      | cons piece pieces =>
        rw [← ih, hs]
        cases pieces <;> rfl

/-- No piece holds the separator. -/
theorem not_mem_of_mem_splitAt {sep : Char} {s piece : List Char} (h : piece ∈ splitAt sep s) :
    sep ∉ piece := by
  induction s generalizing piece with
  | nil => simp [splitAt] at h; simp [h]
  | cons c s ih =>
    unfold splitAt at h
    split at h
    · rcases List.mem_cons.1 h with rfl | h
      · simp
      · exact ih h
    · next hc =>
      split at h
      · next hs => exact absurd hs (splitAt_ne_nil sep s)
      · next p ps hs =>
        rcases List.mem_cons.1 h with rfl | h
        · have : sep ∉ p := ih (by simp [hs])
          simp [this, Ne.symm hc]
        · exact ih (by simp [hs, h])

end Remedy.Text
