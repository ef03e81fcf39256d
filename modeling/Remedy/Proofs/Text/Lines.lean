import Remedy.Proofs.Text.Blank
import Remedy.Text.Lines

/-!
# Lines that end with line feeds

Lines that are written out, each with its separator, are split off again (`splitAt_flatMap`,
`splitAt_joinWith`); and no line of a text holds a line feed (`newline_not_mem_linesOf`). Nothing but
carriage returns gets lost at the line ends, so whatever trims the lines and skips empty ones reads
the lines that were written (`filterMap_linesOfPieces`).
-/

namespace Remedy.Text

/-- A line without a separator is split off at the one that ends it. -/
theorem splitAt_append {sep : Char} {line : List Char} (h : sep ∉ line) (rest : List Char) :
    splitAt sep (line ++ sep :: rest) = line :: splitAt sep rest := by
  induction line with
  | nil => rw [List.nil_append, splitAt, if_pos rfl]
  | cons c line ih =>
      rw [List.mem_cons, not_or] at h
      rw [List.cons_append, splitAt_cons_of_ne (Ne.symm h.1), ih h.2, List.headD_cons,
        List.tail_cons]

theorem splitAt_flatMap {sep : Char} {lines : List (List Char)} (h : ∀ line ∈ lines, sep ∉ line) :
    splitAt sep (lines.flatMap (· ++ [sep])) = lines ++ [[]] := by
  induction lines with
  | nil => rfl
  | cons line lines ih =>
      rw [List.forall_mem_cons] at h
      rw [List.flatMap_cons, List.append_assoc, List.singleton_append, splitAt_append h.1, ih h.2,
        List.cons_append]

theorem splitAt_of_not_mem {sep : Char} {line : List Char} (h : sep ∉ line) :
    splitAt sep line = [line] := by
  induction line with
  | nil => rfl
  | cons c line ih =>
      rw [List.mem_cons, not_or] at h
      rw [splitAt_cons_of_ne (Ne.symm h.1), ih h.2]
      rfl

theorem splitAt_joinWith {sep : Char} {lines : List (List Char)} (hne : lines ≠ [])
    (h : ∀ line ∈ lines, sep ∉ line) : splitAt sep (joinWith [sep] lines) = lines := by
  induction lines with
  | nil => exact absurd rfl hne
  | cons line lines ih =>
      rw [List.forall_mem_cons] at h
      cases lines with
      | nil => exact splitAt_of_not_mem h.1
      | cons next lines =>
          rw [joinWith, List.append_assoc, List.singleton_append, splitAt_append h.1,
            ih (List.cons_ne_nil _ _) h.2]
          nofun

/-! ## Carriage returns -/

theorem eq_dropReturn_append (line : List Char) :
    line = dropReturn line ∨ line = dropReturn line ++ ['\r'] := by
  rw [dropReturn]
  split
  · next h =>
      obtain ⟨front, rfl⟩ := List.getLast?_eq_some_iff.mp h
      exact .inr (by rw [List.dropLast_concat])
  · exact .inl rfl

/-- A terminated line comes first, then its end, then what follows. -/
theorem joinWith_cons_of_ne_nil (piece : List Char) {pieces : List (List Char)} (hne : pieces ≠ []) :
    ∃ lineEnd, (lineEnd = ['\n'] ∨ lineEnd = ['\r', '\n']) ∧
      joinWith ['\n'] (piece :: pieces) = dropReturn piece ++ (lineEnd ++ joinWith ['\n'] pieces) := by
  have hjoin : joinWith ['\n'] (piece :: pieces) = piece ++ ['\n'] ++ joinWith ['\n'] pieces := by
    rw [joinWith]
    exact hne
  rcases eq_dropReturn_append piece with h | h
  · refine ⟨['\n'], .inl rfl, ?_⟩
    rw [hjoin, ← h, List.append_assoc]
  · refine ⟨['\r', '\n'], .inr rfl, ?_⟩
    rw [hjoin]
    conv => lhs; rw [h]
    simp only [List.append_assoc, List.cons_append, List.nil_append]

theorem trim_dropReturn (line : List Char) : trim (dropReturn line) = trim line := by
  have hreturn : ∀ c ∈ ['\r'], isBlank c = true := List.forall_mem_singleton.mpr rfl
  rcases eq_dropReturn_append line with h | h
  · rw [← h]
  · rw [h, trim_append_of_blank hreturn, ← h]

theorem getLast?_append_of_ne_nil (s : List Char) {t : List Char} (h : t ≠ []) :
    (s ++ t).getLast? = t.getLast? := by
  rw [List.getLast?_append, List.getLast?_eq_some_getLast h, Option.some_or]

theorem dropReturn_append (s : List Char) {t : List Char} (h : t ≠ []) :
    dropReturn (s ++ t) = s ++ dropReturn t := by
  rw [dropReturn, dropReturn, getLast?_append_of_ne_nil s h, List.dropLast_append_of_ne_nil h]
  split <;> rfl

/-- A piece without carriage returns occurs in a line exactly if it occurs in what the line end
leaves of it. -/
theorem infix_dropReturn_iff {piece : List Char} (hne : piece ≠ []) (h : '\r' ∉ piece)
    (line : List Char) : piece <:+: dropReturn line ↔ piece <:+: line := by
  rcases eq_dropReturn_append line with heq | heq
  · rw [← heq]
  · conv => rhs; rw [heq]
    rw [List.infix_concat_iff, or_iff_right]
    rintro ⟨front, hfront⟩
    have hlast := congrArg List.getLast? hfront
    rw [getLast?_append_of_ne_nil front hne, List.getLast?_concat] at hlast
    exact h (List.mem_of_getLast? hlast)

/-- Pieces that end with their separator are terminated lines. -/
theorem linesOfPieces_concat_nil (pieces : List (List Char)) :
    linesOfPieces (pieces ++ [[]]) = pieces.map dropReturn := by
  induction pieces with
  | nil => rfl
  | cons piece pieces ih =>
      rw [List.cons_append, linesOfPieces, ih, List.map_cons]
      simp

theorem lines_flatMap {pieces : List (List Char)} (h : ∀ piece ∈ pieces, '\n' ∉ piece) :
    lines (pieces.flatMap (· ++ ['\n'])) = pieces.map dropReturn := by
  rw [lines, splitAt_flatMap h, linesOfPieces_concat_nil]

/-- A reading of lines that trims them and skips empty ones reads the pieces. -/
theorem filterMap_linesOfPieces {α : Type} {read : List Char → Option α}
    (hread : ∀ line, read (dropReturn line) = read line) (hnil : read [] = none)
    (pieces : List (List Char)) : (linesOfPieces pieces).filterMap read = pieces.filterMap read := by
  fun_induction linesOfPieces pieces with
  | case1 => rfl
  | case2 last hempty => rw [List.isEmpty_iff.mp hempty, List.filterMap_cons_none hnil]
  | case3 last hempty => rfl
  | case4 piece pieces hne ih => rw [List.filterMap_cons, List.filterMap_cons, hread, ih]

/-! ## Line feeds -/

theorem mem_of_mem_dropReturn {line : List Char} {c : Char} (h : c ∈ dropReturn line) :
    c ∈ line := by
  rw [dropReturn] at h
  split at h
  · exact line.dropLast_sublist.mem h
  · exact h

/-- What a line holds is in a piece. -/
theorem exists_piece_of_mem_linesOfPieces {pieces : List (List Char)} {line : List Char}
    (h : line ∈ linesOfPieces pieces) : ∃ piece ∈ pieces, ∀ c ∈ line, c ∈ piece := by
  fun_induction linesOfPieces pieces with
  | case1 => cases h
  | case2 last hempty => cases h
  | case3 last hempty =>
      obtain rfl := List.mem_singleton.mp h
      exact ⟨line, List.mem_singleton_self line, fun c hc => hc⟩
  | case4 piece pieces hne ih =>
      rcases List.mem_cons.mp h with rfl | h
      · exact ⟨piece, List.mem_cons_self, fun c hc => mem_of_mem_dropReturn hc⟩
      · obtain ⟨piece', hpiece, hc⟩ := ih h
        exact ⟨piece', List.mem_cons_of_mem piece hpiece, hc⟩

theorem newline_not_mem_linesOf {s line : String} (h : line ∈ linesOf s) :
    '\n' ∉ line.toList := by
  obtain ⟨chars, hchars, rfl⟩ := List.mem_map.mp h
  obtain ⟨piece, hpiece, hmem⟩ := exists_piece_of_mem_linesOfPieces hchars
  rw [String.toList_ofList]
  exact fun hc => not_mem_of_mem_splitAt hpiece (hmem _ hc)

end Remedy.Text
