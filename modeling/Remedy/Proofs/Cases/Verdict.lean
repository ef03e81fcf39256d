import Mathlib.Data.List.Infix
import Remedy.Cases.Harness
import Remedy.Proofs.Json.Line
import Remedy.Proofs.Text.Lines

/-!
# The verdict of a harness

A harness prints its verdict as the last line: a marker and the result, or another marker and the
error. A result is told whatever stands in front of it (`outputOf_result`). An error is told only as
long as no line holds the marker of results, the line of the error included (`outputOf_error`);
otherwise the last such line is the verdict (`outputOf_masked`).
-/

namespace Remedy.Cases

open Remedy.Text

/-! ## Finding a marker -/

theorem splitFirst?_eq_none_iff {piece s : List Char} :
    splitFirst? piece s = none ↔ ¬piece <:+: s := by
  induction s with
  | nil => simp [splitFirst?, List.infix_nil]
  | cons c s ih =>
      rw [splitFirst?, List.infix_cons_iff, not_or, ← ih]
      split
      · next h => simp [List.isPrefixOf_iff_prefix.mp h]
      · next h => simp [← List.isPrefixOf_iff_prefix, h]

theorem splitFirst?_append {piece : List Char} (h : piece ≠ []) (rest : List Char) :
    splitFirst? piece (piece ++ rest) = some ([], rest) := by
  cases piece with
  | nil => exact absurd rfl h
  | cons c piece => simp [splitFirst?]

theorem marked?_eq_none_iff {marker : String} {output : List (List Char)} :
    marked? marker output = none ↔ ∀ line ∈ output, ¬marker.toList <:+: line := by
  simp [marked?, splitFirst?_eq_none_iff]

theorem marked?_append (marker : String) (front back : List (List Char)) :
    marked? marker (front ++ back) = (marked? marker back).or (marked? marker front) := by
  rw [marked?, List.reverse_append, List.findSome?_append]
  rfl

/-- Only the last line with a marker counts. -/
theorem marked?_append_cons {marker : String} {line : List Char} {back : List (List Char)}
    (hline : marker.toList <:+: line) (hback : ∀ l ∈ back, ¬marker.toList <:+: l)
    (front : List (List Char)) : marked? marker (front ++ line :: back) = marked? marker [line] := by
  have hsome : marked? marker [line] ≠ none := by simpa [marked?_eq_none_iff] using hline
  obtain ⟨rest, hrest⟩ := Option.ne_none_iff_exists'.mp hsome
  rw [marked?_append, ← List.singleton_append, marked?_append, marked?_eq_none_iff.mpr hback, hrest]
  rfl

/-! ## Printed lines -/

/-- The text of complete lines. -/
def textOf (lines : List (List Char)) : String := String.ofList (lines.flatMap (· ++ ['\n']))

/-- A line with a marker and what it marks. -/
def markedLine (marker : String) (text : List Char) : List Char := marker.toList ++ ' ' :: text

theorem lines_textOf {printed : List (List Char)} (h : ∀ line ∈ printed, '\n' ∉ line) :
    lines (textOf printed).toList = printed.map dropReturn := by
  rw [textOf, String.toList_ofList, lines_flatMap h]

theorem newline_not_mem_markedLine {marker : String} (hmarker : '\n' ∉ marker.toList)
    {text : List Char} (h : '\n' ∉ text) : '\n' ∉ markedLine marker text := by
  simp [markedLine, hmarker, h]

theorem marked?_markedLine {marker : String} (hmarker : marker.toList ≠ []) (text : List Char) :
    marked? marker [dropReturn (markedLine marker text)] = some (trim text) := by
  have hsplit := splitFirst?_append hmarker (dropReturn (' ' :: text))
  rw [markedLine, dropReturn_append _ (List.cons_ne_nil _ _)]
  simp [marked?, hsplit, trim_dropReturn, trim_cons_of_blank (c := ' ') (by decide)]

/-- Carriage returns at the line ends hide no result. -/
theorem forall_dropReturn_iff {printed : List (List Char)} :
    (∀ line ∈ printed.map dropReturn, ¬resultMarker.toList <:+: line) ↔
      ∀ line ∈ printed, ¬resultMarker.toList <:+: line := by
  have hmarker : resultMarker.toList ≠ [] ∧ '\r' ∉ resultMarker.toList := by decide
  simp [infix_dropReturn_iff hmarker.1 hmarker.2]

/-! ## Verdicts -/

section Verdict

variable {printed : List (List Char)} (stderr : String)

/-- A result that the harness prints last is told, whatever the lines in front of it hold. -/
theorem outputOf_result (hprinted : ∀ line ∈ printed, '\n' ∉ line) {v : Json}
    (hv : Json.parse v.render = .ok v) :
    outputOf (textOf (printed ++ [markedLine resultMarker v.render.toList])) stderr
      = (some v, none) := by
  have hline : '\n' ∉ markedLine resultMarker v.render.toList :=
    newline_not_mem_markedLine (by decide) ((Json.printable_render v).not_mem (by decide))
  have hmarked := marked?_append resultMarker (printed.map dropReturn)
    [dropReturn (markedLine resultMarker v.render.toList)]
  rw [marked?_markedLine (by decide), Json.trim_render, Option.some_or] at hmarked
  rw [outputOf, lines_textOf (List.forall_mem_append.mpr ⟨hprinted, by simpa using hline⟩),
    List.map_append, List.map_singleton, hmarked]
  simp only [String.ofList_toList, hv]

/-- An error that the harness prints last is told if no line holds the marker of results. -/
theorem outputOf_error {message : List Char}
    (hlines : ∀ line ∈ printed ++ [markedLine errorMarker message], '\n' ∉ line)
    (hresult : ∀ line ∈ printed ++ [markedLine errorMarker message],
      ¬resultMarker.toList <:+: line) :
    outputOf (textOf (printed ++ [markedLine errorMarker message])) stderr
      = (none, some (String.ofList (trim message))) := by
  have hmarked := marked?_append errorMarker (printed.map dropReturn)
    [dropReturn (markedLine errorMarker message)]
  rw [marked?_markedLine (by decide), Option.some_or] at hmarked
  rw [outputOf, lines_textOf hlines,
    marked?_eq_none_iff.mpr (forall_dropReturn_iff.mpr hresult), List.map_append,
    List.map_singleton, hmarked]

/-- Otherwise the last line with that marker is told, as if nothing else had been printed. -/
theorem outputOf_masked {front back : List (List Char)} {line : List Char}
    (hlines : ∀ l ∈ front ++ line :: back, '\n' ∉ l) (hline : resultMarker.toList <:+: line)
    (hback : ∀ l ∈ back, ¬resultMarker.toList <:+: l) :
    outputOf (textOf (front ++ line :: back)) stderr = outputOf (textOf [line]) stderr := by
  have hinfix := (infix_dropReturn_iff (by decide) (by decide) line).mpr hline
  have hmarked := marked?_append_cons hinfix (forall_dropReturn_iff.mpr hback) (front.map dropReturn)
  have hsome : marked? resultMarker [dropReturn line] ≠ none := by
    simpa [marked?_eq_none_iff] using hinfix
  obtain ⟨raw, hraw⟩ := Option.ne_none_iff_exists'.mp hsome
  rw [outputOf, outputOf, lines_textOf hlines,
    lines_textOf (List.forall_mem_singleton.mpr (hlines line (by simp))), List.map_append,
    List.map_cons, hmarked, List.map_singleton, hraw]

/-- What is told of a harness that printed its verdict behind other complete lines. -/
theorem outputOf_printed (hprinted : ∀ line ∈ printed, '\n' ∉ line) :
    (∀ v, Json.parse v.render = .ok v →
      outputOf (textOf (printed ++ [markedLine resultMarker v.render.toList])) stderr
        = (some v, none)) ∧
    ∀ message, '\n' ∉ message →
      ((∀ line ∈ printed ++ [markedLine errorMarker message], ¬resultMarker.toList <:+: line) →
        outputOf (textOf (printed ++ [markedLine errorMarker message])) stderr
          = (none, some (String.ofList (trim message)))) ∧
      ∀ front line back, printed ++ [markedLine errorMarker message] = front ++ line :: back →
        resultMarker.toList <:+: line → (∀ l ∈ back, ¬resultMarker.toList <:+: l) →
        outputOf (textOf (printed ++ [markedLine errorMarker message])) stderr
          = outputOf (textOf [line]) stderr := by
  refine ⟨fun v hv => outputOf_result stderr hprinted hv, fun message hmessage => ?_⟩
  have hline := newline_not_mem_markedLine (show '\n' ∉ errorMarker.toList by decide) hmessage
  have hlines : ∀ line ∈ printed ++ [markedLine errorMarker message], '\n' ∉ line :=
    List.forall_mem_append.mpr ⟨hprinted, List.forall_mem_singleton.mpr hline⟩
  refine ⟨outputOf_error stderr hlines, fun front line back hcut hresult hback => ?_⟩
  rw [hcut] at hlines ⊢
  exact outputOf_masked stderr hlines hresult hback

end Verdict

/-- A value is told behind a line with both markers and an error behind a line with its own, but not
behind a line with the other one. -/
theorem outputOf_printed_noisy :
    outputOf (textOf ["__ERROR__: __RESULT__: no".toList,
        markedLine resultMarker (Json.str "__RESULT__:").render.toList]) ""
      = (some (.str "__RESULT__:"), none) ∧
    outputOf (textOf ["__ERROR__: 1".toList, markedLine errorMarker "boom\t".toList]) "Traceback"
      = (none, some "boom") ∧
    outputOf (textOf ["__RESULT__: 6".toList, markedLine errorMarker "boom".toList]) ""
      = outputOf (textOf ["__RESULT__: 6".toList]) "" := by
  have hplain : Json.Plain 0 (.str "__RESULT__:") := by simp [Json.Plain]
  have hresult : ∀ line ∈ ["__ERROR__: __RESULT__: no".toList], '\n' ∉ line := by decide
  have herror : ∀ line ∈ ["__ERROR__: 1".toList], '\n' ∉ line := by decide
  have hmasked : ∀ line ∈ ["__RESULT__: 6".toList], '\n' ∉ line := by decide
  refine ⟨(outputOf_printed "" hresult).1 _ (Json.parse_render hplain (by decide)), ?_, ?_⟩
  · exact ((outputOf_printed "Traceback" herror).2 "boom\t".toList (by decide)).1 (by decide)
  · exact ((outputOf_printed "" hmasked).2 "boom".toList (by decide)).2 [] _ _ rfl (by decide)
      (by decide)

/-- A result that an earlier line, or the error's own message, looks like hides an error. -/
theorem error_masked_by_result :
    outputOf (textOf ["__RESULT__: 6".toList, markedLine errorMarker "boom".toList]) ""
      = (some (.num (.int 6)), none) ∧
    outputOf (textOf [markedLine errorMarker "__RESULT__: 6".toList]) ""
      = (some (.num (.int 6)), none) := by
  have hplain : Json.Plain 0 (.num (.int 6)) := by simp [Json.Plain]
  have hlines : ∀ line ∈ [] ++ ["__RESULT__: 6".toList, markedLine errorMarker "boom".toList],
      '\n' ∉ line := by decide
  have hresult := outputOf_result "" (List.forall_mem_nil fun line => '\n' ∉ line)
    (Json.parse_render hplain (by decide))
  have hmasked := outputOf_masked "" hlines (by decide) (by decide)
  have hmarked : marked? resultMarker [dropReturn (markedLine errorMarker "__RESULT__: 6".toList)]
      = some ['6'] := by decide
  refine ⟨hmasked.trans hresult, ?_⟩
  rw [outputOf, lines_textOf (by decide), List.map_singleton, hmarked]
  exact hresult

end Remedy.Cases
