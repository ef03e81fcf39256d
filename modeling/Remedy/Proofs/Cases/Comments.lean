import Mathlib.Data.List.Forall2
import Remedy.Proofs.Cases.Segments
import Remedy.Proofs.Json.Line

/-!
# Cases that were written down are read

A case is written down as three comments, with any other lines around them (`Lists`). Each comment
is read as its annotation (`annotates_comment`), so a text in which cases are written down has
these cases (`read_bySegments`).
-/

namespace Remedy.Cases

open Remedy.Text

/-- How a comment line starts. -/
inductive Mark where
  | hash
  | slashes

def Mark.text : Mark → List Char
  | .hash => ['#']
  | .slashes => ['/', '/']

/-- A comment that annotates a key with a value. -/
def comment (mark : Mark) (key : String) (value : List Char) : List Char :=
  mark.text ++ ' ' :: key.toList ++ ':' :: ' ' :: value

def keys : List String := ["TEST", "INPUT", "EXPECTED"]

/-- Annotations are written down in lines, as comments with other lines before, between and behind
them. -/
inductive Lists : List (String × List Char) → List (List Char) → Prop
  | nil : Lists [] []
  | other {notes : List (String × List Char)} {lines : List (List Char)} {line : List Char}
    (hline : '\n' ∉ line) (hother : ∀ key ∈ keys, ∀ value, ¬Annotates key (trim line) value) :
    Lists notes lines → Lists notes (line :: lines)
  | comment {notes : List (String × List Char)} {lines : List (List Char)} (mark : Mark)
    (key : String) (value : List Char) :
    Lists notes lines → Lists ((key, value) :: notes) (comment mark key value :: lines)

def TestCase.notes (c : TestCase) : List (String × List Char) :=
  [("TEST", c.name.toList), ("INPUT", c.input.render.toList), ("EXPECTED", c.expected.render.toList)]

/-- A case that can be written down: its name is one trimmed line, and its values are read back from
their texts. -/
structure TestCase.Writable (c : TestCase) : Prop where
  trimmed : trim c.name.toList = c.name.toList
  oneLine : '\n' ∉ c.name.toList
  input : Json.parse c.input.render = .ok c.input
  expected : Json.parse c.expected.render = .ok c.expected

/-! ## Comments -/

theorem annotates_comment {key : String} (mark : Mark) {value : List Char}
    (hvalue : trim value = value) : Annotates key (trim (comment mark key value)) value := by
  have hcolon (front : List Char) := trimEnd_append_cons (c := ':') (by decide) front (' ' :: value)
  have htrim : trim (comment mark key value)
      = mark.text ++ [' '] ++ key.toList ++ ':' :: trimEnd (' ' :: value) := by
    cases mark with
    | hash =>
        exact (trim_cons (by decide) _).trans (congrArg _ (hcolon (' ' :: key.toList)))
    | slashes =>
        exact (trim_cons (by decide) _).trans (congrArg _ (hcolon ('/' :: ' ' :: key.toList)))
  refine ⟨mark.text, [' '], trimEnd (' ' :: value), ?_, List.forall_mem_singleton.mpr rfl, htrim,
    ?_⟩
  · cases mark
    · exact .inl rfl
    · exact .inr rfl
  · rw [trim_trimEnd, trim_cons_of_blank (by decide), hvalue]

theorem newline_not_mem_comment {key : String} (hkey : '\n' ∉ key.toList) (mark : Mark)
    {value : List Char} (hvalue : '\n' ∉ value) : '\n' ∉ comment mark key value := by
  cases mark <;> simp [comment, Mark.text, hkey, hvalue]

theorem forall_not_annotates_iff {line : List Char} :
    (∀ key ∈ keys, ∀ value, ¬Annotates key line value) ↔
      ∀ key ∈ keys, annotated? key line = none := by
  have hkeys : ∀ key ∈ keys, IsKey key := by decide
  exact forall₂_congr fun key hkey => (annotated?_eq_none_iff (hkeys key hkey)).symm

theorem annotationOf?_of_other {line : List Char}
    (h : ∀ key ∈ keys, ∀ value, ¬Annotates key (trim line) value) : annotationOf? line = none := by
  have hnone := forall_not_annotates_iff.mp h
  rw [annotationOf?, hnone "TEST" (by decide), hnone "INPUT" (by decide),
    hnone "EXPECTED" (by decide)]
  rfl

theorem annotationOf?_dropReturn (line : List Char) :
    annotationOf? (dropReturn line) = annotationOf? line := by
  rw [annotationOf?, annotationOf?, trim_dropReturn]

/-! ## Texts -/

theorem newline_not_mem_of_lists {notes : List (String × List Char)} {lines : List (List Char)}
    (h : Lists notes lines) (hnotes : ∀ note ∈ notes, '\n' ∉ note.1.toList ∧ '\n' ∉ note.2) :
    ∀ line ∈ lines, '\n' ∉ line := by
  induction h with
  | nil => nofun
  | other hline _ _ ih => exact List.forall_mem_cons.mpr ⟨hline, ih hnotes⟩
  | comment mark key value _ ih =>
      obtain ⟨⟨hkey, hvalue⟩, hnotes⟩ := List.forall_mem_cons.mp hnotes
      exact List.forall_mem_cons.mpr ⟨newline_not_mem_comment hkey mark hvalue, ih hnotes⟩

/-- An annotation is what every comment with a key and a value is read as. -/
def IsRead (note : String × List Char) (a : Annotation) : Prop :=
  ∀ mark, annotationOf? (comment mark note.1 note.2) = some a

theorem filterMap_annotationOf?_of_lists {notes : List (String × List Char)}
    {lines : List (List Char)} (h : Lists notes lines) {as : List Annotation}
    (has : List.Forall₂ IsRead notes as) : lines.filterMap annotationOf? = as := by
  induction h generalizing as with
  | nil =>
      cases has
      rfl
  | other _ hother _ ih => rw [List.filterMap_cons_none (annotationOf?_of_other hother), ih has]
  | comment mark key value _ ih =>
      cases has with
      | cons ha has => rw [List.filterMap_cons_some (ha mark), ih has]

/-- The annotations of a text that is put together from lines. -/
theorem annotations_joinWith {lines : List (List Char)} (h : ∀ line ∈ lines, '\n' ∉ line) :
    annotations (String.ofList (joinWith ['\n'] lines)) = lines.filterMap annotationOf? := by
  rw [annotations, String.toList_ofList, Text.lines]
  rcases eq_or_ne lines [] with rfl | hne
  · rfl
  · rw [splitAt_joinWith hne h]
    exact filterMap_linesOfPieces annotationOf?_dropReturn (by decide) lines

/-! ## Cases -/

namespace TestCase

/-- The annotations of a case as they are read. -/
def annotations (c : TestCase) : List Annotation :=
  [.test c.name, .input c.input, .expected c.expected]

namespace Writable

variable {c : TestCase}

theorem newline_not_mem (h : c.Writable) :
    ∀ note ∈ c.notes, '\n' ∉ note.1.toList ∧ '\n' ∉ note.2 := by
  have hvalue (v : Json) : '\n' ∉ v.render.toList := (Json.printable_render v).not_mem (by decide)
  simp only [notes, List.forall_mem_cons, List.not_mem_nil, false_implies, implies_true, and_true]
  exact ⟨⟨by decide, h.oneLine⟩, ⟨by decide, hvalue _⟩, by decide, hvalue _⟩

theorem valueOf_render {v : Json} (h : Json.parse v.render = .ok v) :
    valueOf v.render.toList = v := by
  rw [valueOf, String.ofList_toList, h]

theorem isRead (h : c.Writable) : List.Forall₂ IsRead c.notes c.annotations := by
  refine .cons (fun mark => ?_) (.cons (fun mark => ?_) (.cons (fun mark => ?_) .nil))
  · have hread := noted?_test (annotates_comment mark h.trimmed)
    rwa [String.ofList_toList] at hread
  · have hread := noted?_input (annotates_comment mark (Json.trim_render c.input))
    rwa [valueOf_render h.input] at hread
  · have hread := noted?_expected (annotates_comment mark (Json.trim_render c.expected))
    rwa [valueOf_render h.expected] at hread

end Writable

end TestCase

theorem collect_flatMap (cases : List TestCase) (d : Draft) :
    collect d (cases.flatMap TestCase.annotations) = d.case?.toList ++ cases := by
  induction cases generalizing d with
  | nil => exact (List.append_nil _).symm
  | cons c cases ih =>
      rw [List.flatMap_cons, TestCase.annotations]
      simp only [List.cons_append, List.nil_append, collect, ih]
      rfl

/-- Cases that are written down in a text are the cases of the text. -/
theorem read_joinWith {cases : List TestCase} {lines : List (List Char)}
    (hcases : ∀ c ∈ cases, c.Writable) (h : Lists (cases.flatMap TestCase.notes) lines) :
    read (String.ofList (joinWith ['\n'] lines)) = cases := by
  have hnotes : ∀ note ∈ cases.flatMap TestCase.notes, '\n' ∉ note.1.toList ∧ '\n' ∉ note.2 := by
    intro note hnote
    obtain ⟨c, hc, hnote⟩ := List.mem_flatMap.mp hnote
    exact (hcases c hc).newline_not_mem note hnote
  have hread : List.Forall₂ IsRead (cases.flatMap TestCase.notes)
      (cases.flatMap TestCase.annotations) :=
    List.rel_flatMap (R := fun c d => c = d ∧ c.Writable)
      (List.forall₂_same.mpr fun c hc => ⟨rfl, hcases c hc⟩)
      fun c d ⟨hcd, hc⟩ => hcd ▸ hc.isRead
  rw [read, annotations_joinWith (newline_not_mem_of_lists h hnotes),
    filterMap_annotationOf?_of_lists h hread, collect_flatMap]
  rfl

/-- A text has one case for each segment that is complete, with the segment's name, last input and
last expectation; so cases that are written down in a text are read from it. -/
theorem read_bySegments :
    (∀ source, (∃ before segments, CutsInto ((lines source.toList).map trim) before segments) ∧
      ∀ before segments, CutsInto ((lines source.toList).map trim) before segments →
        Yields segments (read source)) ∧
    ∀ cases lines, (∀ c ∈ cases, c.Writable) → Lists (cases.flatMap TestCase.notes) lines →
      read (String.ofList (joinWith ['\n'] lines)) = cases :=
  ⟨fun _ => ⟨exists_cutsInto _, fun _ _ => yields_read⟩, fun _ _ => read_joinWith⟩

/-- An input in front of the first name is ignored, a name without an expectation gives no case, and
a case that is written down between other lines is read. -/
theorem read_bySegments_stray :
    CutsInto ((lines "# INPUT: 9\n# TEST: a\n# INPUT: 1\n".toList).map trim)
      ["# INPUT: 9".toList] [⟨"# TEST: a".toList, ["# INPUT: 1".toList]⟩] ∧
    Yields [⟨"# TEST: a".toList, ["# INPUT: 1".toList]⟩]
      (read "# INPUT: 9\n# TEST: a\n# INPUT: 1\n") ∧
    TestCase.Writable ⟨"adds one", .num (.int 5), .arr [.str "#"]⟩ ∧
    read (String.ofList (joinWith ['\n'] ["// TEST: adds one".toList, "# INPUT: 5".toList,
        "let x = 1".toList, "# EXPECTED: [\"#\"]".toList]))
      = [⟨"adds one", .num (.int 5), .arr [.str "#"]⟩] := by
  have hcuts : CutsInto ((lines "# INPUT: 9\n# TEST: a\n# INPUT: 1\n".toList).map trim)
      ["# INPUT: 9".toList] [⟨"# TEST: a".toList, ["# INPUT: 1".toList]⟩] :=
    ⟨by decide, by decide, by decide, by decide⟩
  have hinput : Json.Plain 0 (.num (.int 5)) := by simp [Json.Plain]
  have hexpected : Json.Plain 1 (.arr [.str "#"]) := by simp [Json.Plain]
  have hwritable : TestCase.Writable ⟨"adds one", .num (.int 5), .arr [.str "#"]⟩ :=
    ⟨by decide, by decide, Json.parse_render hinput (by decide),
      Json.parse_render hexpected (by decide)⟩
  have hlists : Lists ([⟨"adds one", .num (.int 5), .arr [.str "#"]⟩].flatMap TestCase.notes)
      ["// TEST: adds one".toList, "# INPUT: 5".toList, "let x = 1".toList,
        "# EXPECTED: [\"#\"]".toList] :=
    .comment .slashes _ _ <| .comment .hash _ _ <|
      .other (by decide) (forall_not_annotates_iff.mpr (by decide)) <| .comment .hash _ _ .nil
  refine ⟨hcuts, (read_bySegments.1 _).2 _ _ hcuts, hwritable, ?_⟩
  exact read_bySegments.2 [_] _ (List.forall_mem_singleton.mpr hwritable) hlists

end Remedy.Cases
