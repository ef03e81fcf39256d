import Mathlib.Data.List.Induction
import Remedy.Cases.Basic
import Remedy.Proofs.Text.Lines

/-!
# Cases are read segment by segment

The annotations of names cut the lines of a text into segments (`CutsInto`). Within a segment a draft
keeps the last input and the last expectation (`Keeps.foldl_note`); at the end of the segment
it is a case or nothing, and the next one starts afresh. So the cases of a text are those that its
complete segments describe (`yields_read`).
-/

namespace Remedy.Cases

open Remedy.Text

/-! ## Annotations -/

/-- A trimmed line annotates a key with a value: a comment mark, blanks, the key and a colon stand
in front of it. -/
def Annotates (key : String) (line value : List Char) : Prop :=
  ∃ mark blanks rest, (mark = ['#'] ∨ mark = ['/', '/']) ∧ (∀ c ∈ blanks, isBlank c = true) ∧
    line = mark ++ blanks ++ key.toList ++ ':' :: rest ∧ value = trim rest

/-- The value of an annotation: what its text is in JSON, or the text itself. -/
def Denotes (raw : List Char) (v : Json) : Prop :=
  Json.parse (String.ofList raw) = .ok v ∨
    (∃ fault, Json.parse (String.ofList raw) = .error fault) ∧ v = .str (String.ofList raw)

theorem denotes_iff {raw : List Char} {v : Json} : Denotes raw v ↔ valueOf raw = v := by
  rw [Denotes, valueOf]
  cases Json.parse (String.ofList raw) <;> simp [eq_comm]

theorem after?_append (piece rest : List Char) : after? piece (piece ++ rest) = some rest := by
  simp [after?]

/-- What stands behind the mark of a comment. -/
def commented? (line : List Char) : Option (List Char) :=
  (after? ['#'] line).or (after? ['/', '/'] line)

theorem commented?_eq_some_iff {line body : List Char} :
    commented? line = some body ↔
      ∃ mark, (mark = ['#'] ∨ mark = ['/', '/']) ∧ line = mark ++ body := by
  constructor
  · intro h
    rcases Option.or_eq_some_iff.mp h with h | ⟨-, h⟩
    · exact ⟨_, .inl rfl, eq_append_of_after? h⟩
    · exact ⟨_, .inr rfl, eq_append_of_after? h⟩
  · rintro ⟨mark, rfl | rfl, rfl⟩
    · rw [commented?, after?_append]
      rfl
    · rw [commented?, after?_append]
      rfl

/-- A key starts with ink. -/
def IsKey (key : String) : Prop := key.toList.head?.any isBlank = false

instance : DecidablePred IsKey := fun _ => inferInstanceAs (Decidable (_ = _))

theorem trimStart_key {key : String} (hkey : IsKey key) (rest : List Char) :
    trimStart (key.toList ++ ':' :: rest) = key.toList ++ ':' :: rest := by
  rw [IsKey] at hkey
  cases hchars : key.toList with
  | nil => exact trimStart_of_head (by decide)
  | cons c s => exact trimStart_of_head (by simpa [hchars] using hkey)

theorem annotates_iff {key : String} (hkey : IsKey key) {line value : List Char} :
    Annotates key line value ↔ ∃ body rest, commented? line = some body ∧
      trimStart body = key.toList ++ ':' :: rest ∧ value = trim rest := by
  constructor
  · rintro ⟨mark, blanks, rest, hmark, hblanks, rfl, rfl⟩
    refine ⟨blanks ++ (key.toList ++ ':' :: rest), rest, ?_, ?_, rfl⟩
    · exact commented?_eq_some_iff.mpr ⟨mark, hmark, by simp⟩
    · rw [trimStart_of_blank hblanks, trimStart_key hkey]
  · rintro ⟨body, rest, hbody, hrest, rfl⟩
    obtain ⟨mark, hmark, rfl⟩ := commented?_eq_some_iff.mp hbody
    refine ⟨mark, body.takeWhile isBlank, rest, hmark, ?_, ?_, rfl⟩
    · exact List.all_eq_true.mp List.all_takeWhile
    · rw [List.append_assoc, List.append_assoc, ← hrest, trimStart, List.takeWhile_append_dropWhile]

theorem annotated?_eq_some_iff {key : String} (hkey : IsKey key) {line value : List Char} :
    annotated? key line = some value ↔ Annotates key line value := by
  rw [annotates_iff hkey, annotated?, ← commented?]
  simp only [Option.bind_eq_bind, Option.bind_eq_some_iff, Option.some_inj]
  constructor
  · rintro ⟨body, hbody, rest, hrest, value, hvalue, rfl⟩
    rw [eq_append_of_after? hvalue] at hrest
    exact ⟨body, value, hbody, eq_append_of_after? hrest, rfl⟩
  · rintro ⟨body, rest, hbody, hrest, rfl⟩
    exact ⟨body, hbody, _, hrest ▸ after?_append .., rest, after?_append [':'] rest, rfl⟩

theorem annotated?_eq_none_iff {key : String} (hkey : IsKey key) {line : List Char} :
    annotated? key line = none ↔ ∀ value, ¬Annotates key line value := by
  simp only [← annotated?_eq_some_iff hkey, Option.eq_none_iff_forall_ne_some]

/-- Keys with different first letters do not annotate one line. -/
theorem Annotates.head_eq {key key' : String} (hkey : IsKey key) (hkey' : IsKey key')
    {line value value' : List Char} (h : Annotates key line value)
    (h' : Annotates key' line value') :
    (key.toList ++ [':']).head? = (key'.toList ++ [':']).head? := by
  obtain ⟨body, rest, hbody, hrest, -⟩ := (annotates_iff hkey).mp h
  obtain ⟨body', rest', hbody', hrest', -⟩ := (annotates_iff hkey').mp h'
  obtain rfl := Option.some.inj (hbody.symm.trans hbody')
  have hhead := congrArg List.head? (hrest.symm.trans hrest')
  simpa [List.head?_append] using hhead

/-! ## Segments -/

/-- A line that gives a case its name. -/
def IsName (line : List Char) : Prop := ∃ name, Annotates "TEST" line name

instance : DecidablePred IsName := fun line =>
  decidable_of_iff ((annotated? "TEST" line).isSome = true) <| by
    have hkey : IsKey "TEST" := by decide
    simp only [Option.isSome_iff_exists, annotated?_eq_some_iff hkey, IsName]

/-- A line with a name and the lines behind it. -/
structure Segment where
  head : List Char
  body : List (List Char)

def Segment.lines (s : Segment) : List (List Char) := s.head :: s.body

/-- Trimmed lines are cut at the names: some lines before the first one, and a segment for each. -/
structure CutsInto (lines before : List (List Char)) (segments : List Segment) : Prop where
  whole : lines = before ++ segments.flatMap Segment.lines
  before_unnamed : ∀ line ∈ before, ¬IsName line
  head_named : ∀ s ∈ segments, IsName s.head
  body_unnamed : ∀ s ∈ segments, ∀ line ∈ s.body, ¬IsName line

/-- The last annotation of a key among some lines has a value. -/
def LastOf (key : String) (lines : List (List Char)) (v : Json) : Prop :=
  ∃ front line back raw, lines = front ++ line :: back ∧ Annotates key line raw ∧ Denotes raw v ∧
    ∀ line ∈ back, ∀ raw, ¬Annotates key line raw

/-- A segment has all that a case needs. -/
def Segment.Complete (s : Segment) : Prop :=
  (∃ line ∈ s.body, ∃ raw, Annotates "INPUT" line raw) ∧
    ∃ line ∈ s.body, ∃ raw, Annotates "EXPECTED" line raw

/-- A segment describes a case: its name, its last input and its last expectation. -/
structure Segment.Describes (s : Segment) (c : TestCase) : Prop where
  name : Annotates "TEST" s.head c.name.toList
  input : LastOf "INPUT" s.body c.input
  expected : LastOf "EXPECTED" s.body c.expected

/-- Cases are those of the complete segments, one for each, in order. -/
inductive Yields : List Segment → List TestCase → Prop
  | nil : Yields [] []
  | complete {s : Segment} {c : TestCase} {segments : List Segment} {cases : List TestCase}
    (h : s.Describes c) : Yields segments cases → Yields (s :: segments) (c :: cases)
  | incomplete {s : Segment} {segments : List Segment} {cases : List TestCase}
    (h : ¬s.Complete) : Yields segments cases → Yields (s :: segments) cases

theorem exists_cutsInto (lines : List (List Char)) :
    ∃ before segments, CutsInto lines before segments := by
  induction lines with
  | nil => exact ⟨[], [], rfl, nofun, nofun, nofun⟩
  | cons line lines ih =>
      obtain ⟨before, segments, rfl, hbefore, hheads, hbodies⟩ := ih
      by_cases hname : IsName line
      · exact ⟨[], ⟨line, before⟩ :: segments, rfl, nofun,
          List.forall_mem_cons.mpr ⟨hname, hheads⟩, List.forall_mem_cons.mpr ⟨hbefore, hbodies⟩⟩
      · exact ⟨line :: before, segments, rfl, List.forall_mem_cons.mpr ⟨hname, hbefore⟩, hheads,
          hbodies⟩

/-! ## What a line does to a draft -/

/-- The annotation on a trimmed line. -/
def noted? (line : List Char) : Option Annotation :=
  match annotated? "TEST" line with
  | some name => some (.test (String.ofList name))
  | none =>
    match annotated? "INPUT" line with
    | some raw => some (.input (valueOf raw))
    | none => (annotated? "EXPECTED" line).map fun raw => .expected (valueOf raw)

theorem annotations_eq (source : String) :
    annotations source = ((lines source.toList).map trim).filterMap noted? := by
  rw [List.filterMap_map]
  rfl

theorem noted?_test {line name : List Char} (h : Annotates "TEST" line name) :
    noted? line = some (.test (String.ofList name)) := by
  rw [noted?, (annotated?_eq_some_iff (by decide)).mpr h]

theorem noted?_input {line raw : List Char} (h : Annotates "INPUT" line raw) :
    noted? line = some (.input (valueOf raw)) := by
  have htest : annotated? "TEST" line = none := by
    refine (annotated?_eq_none_iff (by decide)).mpr fun value htest => ?_
    exact absurd (h.head_eq (by decide) (by decide) htest) (by decide)
  rw [noted?, htest, (annotated?_eq_some_iff (by decide)).mpr h]

theorem noted?_expected {line raw : List Char} (h : Annotates "EXPECTED" line raw) :
    noted? line = some (.expected (valueOf raw)) := by
  have htest : annotated? "TEST" line = none := by
    refine (annotated?_eq_none_iff (by decide)).mpr fun value htest => ?_
    exact absurd (h.head_eq (by decide) (by decide) htest) (by decide)
  have hinput : annotated? "INPUT" line = none := by
    refine (annotated?_eq_none_iff (by decide)).mpr fun value hinput => ?_
    exact absurd (h.head_eq (by decide) (by decide) hinput) (by decide)
  rw [noted?, htest, hinput, (annotated?_eq_some_iff (by decide)).mpr h]
  rfl

/-- The draft behind a line that names no case. -/
def Draft.note (d : Draft) (line : List Char) : Draft :=
  match noted? line with
  | some (.input v) => { d with input := some v }
  | some (.expected v) => { d with expected := some v }
  | some (.test _) | none => d

theorem collect_cons_of_unnamed {line : List Char} (h : ¬IsName line) (d : Draft)
    (lines : List (List Char)) : collect d ((line :: lines).filterMap noted?)
      = collect (d.note line) (lines.filterMap noted?) := by
  have htest : annotated? "TEST" line = none :=
    (annotated?_eq_none_iff (by decide)).mpr fun name hname => h ⟨name, hname⟩
  rw [List.filterMap_cons, Draft.note, noted?, htest]
  cases annotated? "INPUT" line with
  | some raw => rfl
  | none => cases annotated? "EXPECTED" line <;> rfl

theorem collect_cons_of_name {line name : List Char} (h : Annotates "TEST" line name) (d : Draft)
    (lines : List (List Char)) : collect d ((line :: lines).filterMap noted?)
      = d.case?.toList ++ collect { name := some (String.ofList name) } (lines.filterMap noted?) := by
  rw [List.filterMap_cons_some (noted?_test h), collect]

theorem collect_append_of_unnamed {body : List (List Char)} (h : ∀ line ∈ body, ¬IsName line)
    (d : Draft) (lines : List (List Char)) : collect d ((body ++ lines).filterMap noted?)
      = collect (body.foldl Draft.note d) (lines.filterMap noted?) := by
  induction body generalizing d with
  | nil => rfl
  | cons line body ih =>
      obtain ⟨hline, hbody⟩ := List.forall_mem_cons.mp h
      rw [List.cons_append, collect_cons_of_unnamed hline, ih hbody, List.foldl_cons]

theorem name_note (d : Draft) (line : List Char) : (d.note line).name = d.name := by
  rw [Draft.note]
  split <;> rfl

theorem name_foldl_note (d : Draft) (lines : List (List Char)) :
    (lines.foldl Draft.note d).name = d.name := by
  induction lines generalizing d with
  | nil => rfl
  | cons line lines ih => rw [List.foldl_cons, ih, name_note]

/-- A part of a draft that the annotations of a key set, and no others. -/
structure Keeps (key : String) (part : Draft → Option Json) : Prop where
  set {d : Draft} {line raw : List Char} (h : Annotates key line raw) :
    part (d.note line) = some (valueOf raw)
  keep {d : Draft} {line : List Char} (h : ∀ raw, ¬Annotates key line raw) :
    part (d.note line) = part d

theorem keeps_input : Keeps "INPUT" Draft.input where
  set h := by rw [Draft.note, noted?_input h]
  keep {d line} h := by
    have hnone := (annotated?_eq_none_iff (by decide)).mpr h
    rw [Draft.note, noted?, hnone]
    cases annotated? "TEST" line <;> cases annotated? "EXPECTED" line <;> rfl

theorem keeps_expected : Keeps "EXPECTED" Draft.expected where
  set h := by rw [Draft.note, noted?_expected h]
  keep {d line} h := by
    have hnone := (annotated?_eq_none_iff (by decide)).mpr h
    rw [Draft.note, noted?, hnone]
    cases annotated? "TEST" line <;> cases annotated? "INPUT" line <;> rfl

/-- Such a part holds the last value of its key, if there is one. -/
theorem Keeps.foldl_note {key : String} {part : Draft → Option Json} (h : Keeps key part)
    {d : Draft} (hd : part d = none) (lines : List (List Char)) :
    (∃ v, part (lines.foldl Draft.note d) = some v ∧ LastOf key lines v) ∨
      part (lines.foldl Draft.note d) = none ∧ ∀ line ∈ lines, ∀ raw, ¬Annotates key line raw := by
  -- From the end: the last line either sets the part or leaves what the lines before it set.
  induction lines using List.reverseRecOn with
  | nil => exact .inr ⟨hd, nofun⟩
  | append_singleton lines line ih =>
      rw [List.foldl_append, List.foldl_cons, List.foldl_nil]
      by_cases hline : ∃ raw, Annotates key line raw
      · obtain ⟨raw, hraw⟩ := hline
        exact .inl ⟨valueOf raw, h.set hraw, lines, line, [], raw, rfl, hraw, denotes_iff.mpr rfl,
          nofun⟩
      · have hnone := not_exists.mp hline
        rw [h.keep hnone]
        rcases ih with ⟨v, hv, front, last, back, raw, rfl, hraw, hdenotes, hback⟩ | ⟨hv, hlines⟩
        · refine .inl ⟨v, hv, front, last, back ++ [line], raw, by simp, hraw, hdenotes, ?_⟩
          rw [List.forall_mem_append, List.forall_mem_singleton]
          exact ⟨hback, hnone⟩
        · refine .inr ⟨hv, ?_⟩
          rw [List.forall_mem_append, List.forall_mem_singleton]
          exact ⟨hlines, hnone⟩

/-! ## What a segment gives -/

/-- The draft at the end of a segment is the case that the segment describes, if it is complete. -/
theorem Segment.case?_draft {s : Segment} {name : List Char} (hname : Annotates "TEST" s.head name)
    {draft : Draft} (hdraft : draft = s.body.foldl Draft.note { name := some (String.ofList name) }) :
    (∃ c, draft.case? = some c ∧ s.Describes c) ∨ draft.case? = none ∧ ¬s.Complete := by
  have hdraftName : draft.name = some (String.ofList name) := hdraft ▸ name_foldl_note ..
  have hinput := keeps_input.foldl_note (d := { name := some (String.ofList name) }) rfl s.body
  have hexpected := keeps_expected.foldl_note (d := { name := some (String.ofList name) }) rfl s.body
  rw [← hdraft] at hinput hexpected
  rw [Draft.case?, hdraftName]
  rcases hinput with ⟨input, hv, hinput⟩ | ⟨hv, hinput⟩
  · rcases hexpected with ⟨expected, hw, hexpected⟩ | ⟨hw, hexpected⟩
    · exact .inl ⟨⟨String.ofList name, input, expected⟩, by rw [hv, hw]; rfl,
        by simpa using hname, hinput, hexpected⟩
    · refine .inr ⟨by rw [hv, hw]; rfl, ?_⟩
      rintro ⟨-, line, hline, raw, hraw⟩
      exact hexpected line hline raw hraw
  · refine .inr ⟨by rw [hv]; rfl, ?_⟩
    rintro ⟨⟨line, hline, raw, hraw⟩, -⟩
    exact hinput line hline raw hraw

theorem exists_yields {segments : List Segment} (hheads : ∀ s ∈ segments, IsName s.head)
    (hbodies : ∀ s ∈ segments, ∀ line ∈ s.body, ¬IsName line) (d : Draft) :
    ∃ cases, Yields segments cases ∧
      collect d ((segments.flatMap Segment.lines).filterMap noted?) = d.case?.toList ++ cases := by
  induction segments generalizing d with
  | nil => exact ⟨[], .nil, (List.append_nil _).symm⟩
  | cons s segments ih =>
      obtain ⟨⟨name, hname⟩, hheads⟩ := List.forall_mem_cons.mp hheads
      obtain ⟨hbody, hbodies⟩ := List.forall_mem_cons.mp hbodies
      obtain ⟨cases, hcases, hcollect⟩ :=
        ih hheads hbodies (s.body.foldl Draft.note { name := some (String.ofList name) })
      rw [List.flatMap_cons, Segment.lines, List.cons_append, collect_cons_of_name hname,
        collect_append_of_unnamed hbody, hcollect]
      rcases Segment.case?_draft hname rfl with ⟨c, hc, hdescribes⟩ | ⟨hc, hcomplete⟩
      · exact ⟨c :: cases, .complete hdescribes hcases, by rw [hc]; rfl⟩
      · exact ⟨cases, .incomplete hcomplete hcases, by rw [hc]; rfl⟩

/-- The cases of a text are those of its complete segments. -/
theorem yields_read {source : String} {before : List (List Char)} {segments : List Segment}
    (h : CutsInto ((lines source.toList).map trim) before segments) :
    Yields segments (read source) := by
  obtain ⟨cases, hcases, hcollect⟩ :=
    exists_yields h.head_named h.body_unnamed (before.foldl Draft.note {})
  have hnone : (before.foldl Draft.note {}).case? = none := by
    rw [Draft.case?, name_foldl_note]
    rfl
  rw [hnone, Option.toList_none, List.nil_append] at hcollect
  rw [read, annotations_eq, h.whole, collect_append_of_unnamed h.before_unnamed, hcollect]
  exact hcases

end Remedy.Cases
