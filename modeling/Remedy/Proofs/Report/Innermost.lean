import Mathlib.Data.List.DropRight
import Remedy.Report.Extract

/-!
# The line of the innermost frame

A failed run of a Python or JavaScript program is blamed on a line of the user's own text, and of
the frames that its report shows in the user's file the innermost one tells which. The reader of
unwound stacks takes that frame. The reader of syntax errors comes before it and asks for no file:
it takes the last frame before the message, or the first header, of whatever text could not be
read, and a text that a program reads while it runs is not the user's. The reader of crashes, which
comes last, looks at no frame at all. `line_ofRun_eq_some_iff` says when the line is the right one
all the same.
-/

namespace Remedy

open Remedy.Text

namespace Report

section Search

variable {α β : Type} {f : α → Option β} {as before rest : List α} {b : β}

theorem lastSome?_eq_none : lastSome? f as = none ↔ ∀ a ∈ as, f a = none := by
  induction as with
  | nil => simp [lastSome?]
  | cons a as ih =>
      rw [lastSome?, List.forall_mem_cons, ← ih]
      cases h : lastSome? f as with
      | none => simp
      | some found => simp

theorem lastSome?_eq_some (h : lastSome? f as = some (before, b, rest)) :
    ∃ a after, as = before ++ a :: after ∧ rest = a :: after ∧ f a = some b
      ∧ ∀ x ∈ after, f x = none := by
  induction as generalizing before with
  | nil => cases h
  | cons a as ih =>
      rw [lastSome?] at h
      cases hlater : lastSome? f as with
      | none =>
          simp only [hlater] at h
          obtain ⟨b', ha, heq⟩ := Option.map_eq_some_iff.mp h
          cases heq
          exact ⟨a, as, rfl, rfl, ha, lastSome?_eq_none.mp hlater⟩
      | some found =>
          simp only [hlater] at h
          cases h
          obtain ⟨x, after, rfl, hrest, hx, hafter⟩ := ih hlater
          exact ⟨x, after, rfl, hrest, hx, hafter⟩

/-- The last value of a list is the last one of its values. -/
theorem lastSome?_value :
    (lastSome? f as).map (fun found => found.2.1) = (as.filterMap f).getLast? := by
  cases h : lastSome? f as with
  | none =>
      have hnone : as.filterMap f = [] := by
        simpa [List.filterMap_eq_nil_iff] using lastSome?_eq_none.mp h
      rw [hnone]
      rfl
  | some found =>
      obtain ⟨before, b, rest⟩ := found
      obtain ⟨a, after, rfl, -, ha, hafter⟩ := lastSome?_eq_some h
      have hnone : after.filterMap f = [] := by
        simpa [List.filterMap_eq_nil_iff] using hafter
      rw [List.filterMap_append, List.filterMap_cons_some ha, hnone, List.getLast?_concat]
      rfl

end Search

/-! ## Frames of the user's file -/

/-- The number in a frame or in a header. -/
def placeNumber? (m : Pattern.Found) : Option Nat := lineNumber? (m.group 2)

/-- The frames of a file in a report, in the order in which they are printed. -/
def framesOf (frame : Pattern) (file : String) (report : List (List Char)) : List Pattern.Found :=
  report.filterMap fun line => (frame.find? line).filter fun f => isFile (f.group 1) file

def reportLines (r : RunResult) : List (List Char) := lines r.stderr.toList

/-- The line of the innermost frame in the user's file, of those whose number fits: Python prints
the innermost frame last, a JavaScript engine prints it first. -/
def innermostLine? (r : RunResult) : Option Nat :=
  match r.language with
  | .python =>
    ((framesOf Python.frame (userFile r) (reportLines r)).filterMap placeNumber?).getLast?
  | .javaScript =>
    ((framesOf JavaScript.frame (userFile r) (reportLines r)).filterMap placeNumber?).head?
  | _ => none

theorem language_of_innermostLine? {r : RunResult} {n : Nat} (h : innermostLine? r = some n) :
    r.language = .python ∨ r.language = .javaScript := by
  unfold innermostLine? at h
  split at h
  · exact .inl ‹_›
  · exact .inr ‹_›
  · cases h

/-! ## What the lines of a report name -/

/-- Whether a line says that a text could not be read. -/
def namesSyntaxError (language : Language) (line : List Char) : Bool :=
  match language with
  | .python => (Python.syntaxLine.find? (trim line)).isSome
  | .javaScript => (JavaScript.syntaxLine.find? (trim line)).isSome
  | _ => false

/-- Whether a line names an exception. -/
def namesException (language : Language) (line : List Char) : Bool :=
  match language with
  | .python => line.head? != some ' ' && (Python.exceptionLine.find? (trimEnd line)).isSome
  | .javaScript => (JavaScript.exceptionLine.find? (trim line)).isSome
  | _ => false

/-- The line that a syntax error is placed at, in a text of whatever name: the number of the last
frame before the message, or of the first header. -/
def syntaxErrorLine? (r : RunResult) : Option Nat :=
  match r.language with
  | .python =>
    (((reportLines r).rdropWhile fun line => !namesSyntaxError .python line).dropLast.filterMap
      Python.frame.find?).getLast?.bind placeNumber?
  | .javaScript =>
    ((reportLines r).filterMap fun line => JavaScript.header.find? (trim line)).head?.bind
      placeNumber?
  | _ => none

/-- The line that a failed assertion of native code is placed at, if that ended the run. -/
def assertionLine? (r : RunResult) : Option Nat :=
  if r.exitCode = Native.signalled 6 then
    (Native.failedAssertion.find? r.stderr.toList).bind fun m => lineNumber? (m.group 1)
  else none

/-! ## The readers of a report -/

theorem Python.unreadable?_eq_none {stderr source : String} :
    Python.unreadable? stderr source = none ↔
      ∀ line ∈ lines stderr.toList, namesSyntaxError .python line = false := by
  have hlast : Python.unreadable? stderr source = none ↔
      lastSome? (fun line => Python.syntaxLine.find? (trim line)) (lines stderr.toList) = none := by
    unfold Python.unreadable?
    cases lastSome? (fun line => Python.syntaxLine.find? (trim line)) (lines stderr.toList) with
    | none => simp
    | some found =>
        simp only [Option.bind_eq_bind, Option.bind_some, reduceCtorEq, iff_false]
        split <;> nofun
  rw [hlast, lastSome?_eq_none]
  simp [namesSyntaxError]

/-- What stands before the last line that names a syntax error. -/
theorem rdropWhile_of_last {p : List Char → Bool} {before after : List (List Char)}
    {line : List Char} (hline : p line = false) (hafter : ∀ l ∈ after, p l = true) :
    (before ++ line :: after).rdropWhile p = before ++ [line] := by
  have hreverse : (before ++ line :: after).reverse = after.reverse ++ line :: before.reverse := by
    simp
  rw [List.rdropWhile, hreverse, List.dropWhile_append_of_pos (by simpa using hafter),
    List.dropWhile_cons_of_neg (by simp [hline])]
  simp

theorem Python.line_of_unreadable? {stderr source : String} {e : ErrorRecord}
    (h : Python.unreadable? stderr source = some e) :
    e.line = ((((lines stderr.toList).rdropWhile fun line =>
      !namesSyntaxError .python line).dropLast.filterMap Python.frame.find?).getLast?.bind
        placeNumber?) := by
  unfold Python.unreadable? at h
  obtain ⟨⟨before, m, rest⟩, hlast, h⟩ := Option.bind_eq_some_iff.mp h
  obtain ⟨line, after, hsplit, -, hline, hafter⟩ := lastSome?_eq_some hlast
  -- frames are looked for only before the last line that names a syntax error
  have hbefore : ((lines stderr.toList).rdropWhile fun line =>
      !namesSyntaxError .python line).dropLast = before := by
    rw [hsplit, rdropWhile_of_last (by simp [namesSyntaxError, hline])
      (by simpa [namesSyntaxError] using hafter), List.dropLast_concat]
  rw [hbefore, ← lastSome?_value]
  dsimp only at h
  cases hframe : lastSome? Python.frame.find? before with
  | none =>
      simp only [hframe] at h
      obtain rfl := Option.some.inj h
      rfl
  | some found =>
      simp only [hframe] at h
      obtain rfl := Option.some.inj h
      rfl

theorem Python.traceback?_eq_none {stderr source file : String} :
    Python.traceback? stderr source file = none ↔
      ∀ line ∈ lines stderr.toList, namesException .python line = false := by
  have hlast : Python.traceback? stderr source file = none ↔
      lastSome? (fun line => if line.head? = some ' ' then none
        else Python.exceptionLine.find? (trimEnd line)) (lines stderr.toList) = none := by
    unfold Python.traceback?
    dsimp only
    cases lastSome? (fun line => if line.head? = some ' ' then none
        else Python.exceptionLine.find? (trimEnd line)) (lines stderr.toList) with
    | none => simp
    | some found => simp
  rw [hlast, lastSome?_eq_none]
  refine forall₂_congr fun line _ => ?_
  by_cases hindented : line.head? = some ' '
  · simp [namesException, hindented]
  · simp [namesException, hindented]

theorem Python.line_of_traceback? {stderr source file : String} {e : ErrorRecord}
    (h : Python.traceback? stderr source file = some e) :
    e.line = (framesOf Python.frame file (lines stderr.toList)).getLast?.bind placeNumber? := by
  unfold Python.traceback? at h
  obtain ⟨⟨_, m, _⟩, -, h⟩ := Option.bind_eq_some_iff.mp h
  obtain rfl := Option.some.inj h
  rw [framesOf, ← lastSome?_value]
  unfold Python.innermost?
  cases lastSome? (fun line => (Python.frame.find? line).filter fun f => isFile (f.group 1) file)
      (lines stderr.toList) with
  | none => rfl
  | some found => rfl

theorem firstSome?_value {α β : Type} {f : α → Option β} {as : List α} :
    (firstSome? f as).map (fun found => found.2.1) = (as.filterMap f).head? := by
  induction as with
  | nil => rfl
  | cons a as ih =>
      rw [firstSome?]
      cases ha : f a with
      | none =>
          rw [List.filterMap_cons_none ha, ← ih]
          cases firstSome? f as with
          | none => rfl
          | some found => rfl
      | some b =>
          rw [List.filterMap_cons_some ha]
          rfl

theorem firstSome?_eq_none {α β : Type} {f : α → Option β} {as : List α} :
    firstSome? f as = none ↔ ∀ a ∈ as, f a = none := by
  rw [← List.filterMap_eq_nil_iff, ← List.head?_eq_none_iff, ← firstSome?_value,
    Option.map_eq_none_iff]

theorem JavaScript.unreadable?_eq_none {stderr source : String} :
    JavaScript.unreadable? stderr source = none ↔
      ∀ line ∈ lines stderr.toList, namesSyntaxError .javaScript line = false := by
  have hfirst : JavaScript.unreadable? stderr source = none ↔
      firstSome? (fun line => JavaScript.syntaxLine.find? (trim line)) (lines stderr.toList)
        = none := by
    unfold JavaScript.unreadable?
    dsimp only
    cases firstSome? (fun line => JavaScript.syntaxLine.find? (trim line))
        (lines stderr.toList) with
    | none => simp
    | some found =>
        simp only [Option.bind_eq_bind, Option.bind_some, reduceCtorEq, iff_false]
        split <;> nofun
  rw [hfirst, firstSome?_eq_none]
  simp [namesSyntaxError]

theorem JavaScript.line_of_unreadable? {stderr source : String} {e : ErrorRecord}
    (h : JavaScript.unreadable? stderr source = some e) :
    e.line = (((lines stderr.toList).filterMap fun line =>
      JavaScript.header.find? (trim line)).head?.bind placeNumber?) := by
  unfold JavaScript.unreadable? at h
  obtain ⟨⟨_, m, _⟩, -, h⟩ := Option.bind_eq_some_iff.mp h
  rw [← firstSome?_value]
  dsimp only at h
  cases hheader : firstSome? (fun line => JavaScript.header.find? (trim line))
      (lines stderr.toList) with
  | none =>
      simp only [hheader] at h
      obtain rfl := Option.some.inj h
      rfl
  | some found =>
      simp only [hheader] at h
      obtain rfl := Option.some.inj h
      rfl

theorem JavaScript.stack?_eq_none {stderr source file : String} :
    JavaScript.stack? stderr source file = none ↔
      ∀ line ∈ lines stderr.toList, namesException .javaScript line = false := by
  have hfirst : JavaScript.stack? stderr source file = none ↔
      (lines stderr.toList).findSome? (fun line => JavaScript.exceptionLine.find? (trim line))
        = none := by
    unfold JavaScript.stack?
    dsimp only
    cases (lines stderr.toList).findSome?
        (fun line => JavaScript.exceptionLine.find? (trim line)) with
    | none => simp
    | some found => simp
  rw [hfirst, List.findSome?_eq_none_iff]
  simp [namesException]

/-- The place of a frame is looked up in the frames of the file. -/
theorem bind_lineIn? (file : String) (found : Option Pattern.Found) :
    found.bind (JavaScript.lineIn? file)
      = (found.filter fun f => isFile (f.group 1) file).bind placeNumber? := by
  cases found with
  | none => rfl
  | some m =>
      rw [Option.bind_some, JavaScript.lineIn?, Option.filter_some]
      split
      · rfl
      · rfl

/-- If there is a frame of the file whose number fits, the first of these tells the line. -/
theorem JavaScript.line_of_stack? {stderr source file : String} {e : ErrorRecord} {n : Nat}
    (h : JavaScript.stack? stderr source file = some e)
    (hn : ((framesOf JavaScript.frame file (lines stderr.toList)).filterMap placeNumber?).head?
      = some n) : e.line = some n := by
  have hframe : (lines stderr.toList).findSome? (fun line =>
      (JavaScript.frame.find? line).bind (JavaScript.lineIn? file)) = some n := by
    rw [framesOf, List.filterMap_filterMap, List.head?_filterMap] at hn
    simpa only [bind_lineIn?] using hn
  unfold JavaScript.stack? at h
  obtain ⟨m, -, h⟩ := Option.bind_eq_some_iff.mp h
  obtain rfl := Option.some.inj h
  -- headers are looked at only if no frame of the file has a number that fits
  change JavaScript.innermost? file (lines stderr.toList) = some n
  rw [JavaScript.innermost?, hframe, Option.some_or]

theorem Native.line_crash? {r : RunResult} (source : String) (completed : r.status = .completed) :
    (Native.crash? r source).bind ErrorRecord.line = assertionLine? r := by
  have hsegv : Native.signalled 11 ≠ Native.signalled 6 := by decide
  have hfpe : Native.signalled 8 ≠ Native.signalled 6 := by decide
  unfold Native.crash? assertionLine?
  rw [if_neg (not_not_intro completed)]
  split
  · rename_i hcode
    rw [hcode, if_neg hsegv]
    rfl
  split
  · rename_i hcode
    rw [hcode, if_neg hfpe]
    rfl
  split
  · cases Native.failedAssertion.find? r.stderr.toList with
    | none => rfl
    | some m => rfl
  · rfl

/-! ## The line of a failed run -/

section Run

variable {r : RunResult} {source : String} {n : Nat}

theorem ofRun_of_failed (completed : r.status = .completed) (failed : r.exitCode ≠ 0) :
    ErrorRecord.ofRun r source = (((diagnostic? r source).or (unwound? r source)).or
      (Native.crash? r source)).getD .noError := by
  unfold ErrorRecord.ofRun
  rw [completed]
  dsimp only
  rw [if_neg fun h => failed h.2]

theorem diagnostic?_eq_none (traced : r.language = .python ∨ r.language = .javaScript) :
    diagnostic? r source = none ↔
      ∀ line ∈ reportLines r, namesSyntaxError r.language line = false := by
  unfold diagnostic?
  rcases traced with h | h
  · rw [h]
    exact Python.unreadable?_eq_none
  · rw [h]
    exact JavaScript.unreadable?_eq_none

theorem line_of_diagnostic? {e : ErrorRecord}
    (traced : r.language = .python ∨ r.language = .javaScript)
    (h : diagnostic? r source = some e) : e.line = syntaxErrorLine? r := by
  unfold diagnostic? at h
  unfold syntaxErrorLine?
  rcases traced with hl | hl
  · rw [hl] at h ⊢
    exact Python.line_of_unreadable? h
  · rw [hl] at h ⊢
    exact JavaScript.line_of_unreadable? h

theorem unwound?_eq_none (traced : r.language = .python ∨ r.language = .javaScript) :
    unwound? r source = none ↔
      ∀ line ∈ reportLines r, namesException r.language line = false := by
  unfold unwound?
  rcases traced with h | h
  · rw [h]
    exact Python.traceback?_eq_none
  · rw [h]
    exact JavaScript.stack?_eq_none

/-- The last frame of a traceback in the user's file has a number that fits. -/
def Numbered (r : RunResult) : Prop :=
  r.language = .python → ∀ f,
    (framesOf Python.frame (userFile r) (reportLines r)).getLast? = some f →
      (placeNumber? f).isSome = true

/-- The last of some frames whose number fits is the last one at all, if that one has a number that
fits. -/
theorem getLast?_bind_placeNumber? {frames : List Pattern.Found}
    (h : (frames.filterMap placeNumber?).getLast? = some n) :
    frames.getLast?.bind placeNumber? = some n ↔
      ∀ f, frames.getLast? = some f → (placeNumber? f).isSome = true := by
  cases frames using List.reverseRecOn with
  | nil => cases h
  | append_singleton frames f =>
      rw [List.getLast?_concat, Option.bind_some]
      constructor
      · intro hf g hg
        rw [← Option.some.inj hg, hf]
        rfl
      · intro hfits
        obtain ⟨k, hk⟩ := Option.isSome_iff_exists.mp (hfits f rfl)
        have hlast : (List.filterMap placeNumber? (frames ++ [f])).getLast? = some k := by
          rw [List.filterMap_append, List.filterMap_cons_some hk, List.filterMap_nil,
            List.getLast?_concat]
        rw [hk, ← hlast, h]

theorem line_of_unwound? {e : ErrorRecord} (innermost : innermostLine? r = some n)
    (h : unwound? r source = some e) : e.line = some n ↔ Numbered r := by
  unfold unwound? at h
  unfold innermostLine? at innermost
  rcases hl : r.language <;> rw [hl] at h innermost
  case python =>
    have hline := Python.line_of_traceback? h
    rw [hline, Numbered]
    simpa [hl, reportLines] using getLast?_bind_placeNumber? innermost
  case javaScript =>
    have hline := JavaScript.line_of_stack? h innermost
    simp [hline, Numbered, hl]
  all_goals cases innermost

/-- The ways in which the line of the innermost frame is found, and those in which another line
happens to have its number. -/
inductive Pinpoints (r : RunResult) (n : Nat) : Prop
  /-- An exception is named and no syntax error: the frames of the user's file are looked at. -/
  | unwound (readable : ∀ line ∈ reportLines r, namesSyntaxError r.language line = false)
      (named : ∃ line ∈ reportLines r, namesException r.language line = true)
      (numbered : Numbered r)
  /-- A syntax error is named: the text that could not be read may be another one. -/
  | unreadable (named : ∃ line ∈ reportLines r, namesSyntaxError r.language line = true)
      (place : syntaxErrorLine? r = some n)
  /-- Nothing is named: no frame is looked at. -/
  | crashed (readable : ∀ line ∈ reportLines r, namesSyntaxError r.language line = false)
      (unnamed : ∀ line ∈ reportLines r, namesException r.language line = false)
      (assertion : assertionLine? r = some n)

theorem line_of_unreadable (completed : r.status = .completed) (failed : r.exitCode ≠ 0)
    (traced : r.language = .python ∨ r.language = .javaScript)
    (named : ∃ line ∈ reportLines r, namesSyntaxError r.language line = true) :
    (ErrorRecord.ofRun r source).line = syntaxErrorLine? r := by
  cases hd : diagnostic? r source with
  | none =>
      obtain ⟨line, hline, hnames⟩ := named
      have hnot := (diagnostic?_eq_none traced).mp hd line hline
      cases hnames.symm.trans hnot
  | some e =>
      rw [ofRun_of_failed completed failed, hd, ← line_of_diagnostic? traced hd]
      rfl

theorem line_of_unwound (completed : r.status = .completed) (failed : r.exitCode ≠ 0)
    (innermost : innermostLine? r = some n)
    (readable : ∀ line ∈ reportLines r, namesSyntaxError r.language line = false)
    (named : ∃ line ∈ reportLines r, namesException r.language line = true) :
    (ErrorRecord.ofRun r source).line = some n ↔ Numbered r := by
  have traced := language_of_innermostLine? innermost
  have hd : diagnostic? r source = none := (diagnostic?_eq_none traced).mpr readable
  cases hu : unwound? r source with
  | none =>
      obtain ⟨line, hline, hnames⟩ := named
      have hnot := (unwound?_eq_none traced).mp hu line hline
      cases hnames.symm.trans hnot
  | some e =>
      rw [ofRun_of_failed completed failed, hd, hu, ← line_of_unwound? innermost hu]
      rfl

theorem line_of_crashed (completed : r.status = .completed) (failed : r.exitCode ≠ 0)
    (traced : r.language = .python ∨ r.language = .javaScript)
    (readable : ∀ line ∈ reportLines r, namesSyntaxError r.language line = false)
    (unnamed : ∀ line ∈ reportLines r, namesException r.language line = false) :
    (ErrorRecord.ofRun r source).line = assertionLine? r := by
  have hd : diagnostic? r source = none := (diagnostic?_eq_none traced).mpr readable
  have hu : unwound? r source = none := (unwound?_eq_none traced).mpr unnamed
  rw [ofRun_of_failed completed failed, hd, hu, ← Native.line_crash? source completed]
  cases Native.crash? r source with
  | none => rfl
  | some e => rfl

end Run

end Report

namespace ErrorRecord

open Report

/-- The record of a failed run tells the line of the innermost frame in the user's file exactly if
the report names an exception and no syntax error, and the number of that frame fits, or if the
place of a syntax error or of a failed assertion, in whatever file, has the same number. -/
theorem line_ofRun_eq_some_iff (r : RunResult) (source : String) {n : Nat}
    (completed : r.status = .completed) (failed : r.exitCode ≠ 0)
    (innermost : innermostLine? r = some n) :
    (ofRun r source).line = some n ↔ Pinpoints r n := by
  have traced := language_of_innermostLine? innermost
  constructor
  · intro hline
    -- the readers in the order in which they are asked
    by_cases hsyntax : ∃ line ∈ reportLines r, namesSyntaxError r.language line = true
    · rw [line_of_unreadable completed failed traced hsyntax] at hline
      exact .unreadable hsyntax hline
    have readable : ∀ line ∈ reportLines r, namesSyntaxError r.language line = false := by
      simpa using hsyntax
    by_cases hnamed : ∃ line ∈ reportLines r, namesException r.language line = true
    · exact .unwound readable hnamed
        ((line_of_unwound completed failed innermost readable hnamed).mp hline)
    have unnamed : ∀ line ∈ reportLines r, namesException r.language line = false := by
      simpa using hnamed
    rw [line_of_crashed completed failed traced readable unnamed] at hline
    exact .crashed readable unnamed hline
  · intro h
    cases h with
    | unwound readable named numbered =>
        exact (line_of_unwound completed failed innermost readable named).mpr numbered
    | unreadable named place =>
        rw [line_of_unreadable completed failed traced named, place]
    | crashed readable unnamed assertion =>
        rw [line_of_crashed completed failed traced readable unnamed, assertion]

/-- A program that ended with an exit code of its own and a report. -/
def reporting (language : Language) (command : List String) (exitCode : Int) (stderr : String) :
    RunResult :=
  { language, status := .completed, exitCode, stdout := "", stderr, command }

/-- A call of the user's that fails in a library. -/
def decoded : RunResult := reporting .python ["python3", "main.py"] 1 <|
  "Traceback (most recent call last):\n"
    ++ "  File \"main.py\", line 5\n"
    ++ "  File \"main.py\", line 3\n"
    ++ "  File \"json.py\", line 9\n"
    ++ "ValueError: x\n"

theorem line_ofRun_decoded : decoded.status = .completed ∧ decoded.exitCode ≠ 0
    ∧ innermostLine? decoded = some 3 ∧ (ofRun decoded "").line = some 3 := by
  have hlines : reportLines decoded = ["Traceback (most recent call last):",
      "  File \"main.py\", line 5", "  File \"main.py\", line 3", "  File \"json.py\", line 9",
      "ValueError: x"].map String.toList := by decide +kernel
  have innermost : innermostLine? decoded = some 3 := by
    rw [innermostLine?, hlines]
    decide +kernel
  have failed : decoded.exitCode ≠ 0 := by decide
  refine ⟨rfl, failed, innermost, (line_ofRun_eq_some_iff decoded "" rfl failed innermost).mpr ?_⟩
  refine .unwound ?_ ?_ fun _ f hlast => ?_
  · rw [hlines]
    decide +kernel
  · rw [hlines]
    decide +kernel
  · have hnumbers : (framesOf Python.frame (userFile decoded) (reportLines decoded)).getLast?.all
        (fun f => (placeNumber? f).isSome) = true := by
      rw [hlines]
      decide +kernel
    rw [hlast] at hnumbers
    exact hnumbers

/-! ## Frames that are missed -/

/-- A text that the user's line 2 evaluates and that cannot be read. -/
def evaluated : RunResult := reporting .python ["python3", "main.py"] 1 <|
  "Traceback (most recent call last):\n"
    ++ "  File \"main.py\", line 2, in <module>\n"
    ++ "  File \"<string>\", line 1\n"
    ++ "SyntaxError: invalid syntax\n"

/-- A text that the user's line 3 parses and that cannot be read. -/
def parsed : RunResult := reporting .javaScript ["node", "main.js"] 1 <|
  "undefined:1\n"
    ++ "bad\n"
    ++ "^\n"
    ++ "\n"
    ++ "SyntaxError: Unexpected token b\n"
    ++ "    at JSON.parse (<anonymous>)\n"
    ++ "    at Object.<anonymous> (main.js:3:6)\n"

/-- The line of another text, or no line, is told where a text that is not the user's cannot be
read. -/
theorem line_ofRun_of_read_text :
    (evaluated.status = .completed ∧ evaluated.exitCode ≠ 0
      ∧ innermostLine? evaluated = some 2 ∧ (ofRun evaluated "").line = some 1)
    ∧ (parsed.status = .completed ∧ parsed.exitCode ≠ 0 ∧ innermostLine? parsed = some 3
      ∧ (ofRun parsed "").isError = true ∧ (ofRun parsed "").line = none) := by
  decide +kernel

end ErrorRecord

end Remedy
