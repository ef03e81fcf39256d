import Remedy.Candidate.Basic
import Remedy.Proofs.Edit.Unified

/-!
# How many lines a diff changes

The changed lines of a patch are counted in the text of its diff, by their signs, and what begins
like the header of a file is left out. A changed line whose own text begins with its sign twice
begins like that too: these lines are missed, and no others (`Candidate.changedLines_add_signedTwiceCount`).
-/

namespace Remedy

open Remedy.Text

namespace Text

/-- A line end is not part of how a line begins. -/
theorem isPrefixOf_dropReturn {beginning : List Char} (h : '\r' ∉ beginning) (line : List Char) :
    beginning.isPrefixOf (dropReturn line) = beginning.isPrefixOf line := by
  unfold dropReturn
  split
  · rename_i hlast
    obtain ⟨front, rfl⟩ := List.getLast?_eq_some_iff.mp hlast
    rw [List.dropLast_concat, Bool.eq_iff_iff, List.isPrefixOf_iff_prefix,
      List.isPrefixOf_iff_prefix, List.prefix_concat_iff]
    have hne : beginning ≠ front ++ ['\r'] := by
      rintro rfl
      exact h (List.mem_append_right _ (List.mem_singleton.mpr rfl))
    exact ⟨.inr, fun hor => hor.resolve_left hne⟩
  · rfl

end Text

namespace Edit

/-! ## Signs -/

/-- Whether the text of a changed line begins with the sign of the change, twice. -/
def signedTwice : Op String → Bool
  | .keep _ => false
  | .delete line => "--".toList.isPrefixOf line.toList
  | .insert line => "++".toList.isPrefixOf line.toList

theorem isChangedLine_dropReturn (line : List Char) :
    isChangedLine (dropReturn line) = isChangedLine line := by
  have h {beginning : List Char} (h : '\r' ∉ beginning) := isPrefixOf_dropReturn h line
  unfold isChangedLine
  rw [h (by decide), h (by decide), h (by decide), h (by decide)]

theorem isChangedLine_render (e : Op String) :
    isChangedLine e.render.toList = (!e.isKeep && !signedTwice e) := by
  cases e <;> simp [Op.render, isChangedLine, Op.isKeep, signedTwice]

theorem isChangedLine_header (h : Hunk) : isChangedLine h.header.toList = false := by
  rw [toList_header]
  rfl

theorem isChangedLine_oldHeader (label : String) :
    isChangedLine ("--- a/" ++ label).toList = false := by
  simp [isChangedLine]

theorem isChangedLine_newHeader (label : String) :
    isChangedLine ("+++ b/" ++ label).toList = false := by
  simp [isChangedLine]

/-- Whether a line of a diff that an edit is written as is counted. -/
def isCounted (e : Op String) : Bool := !e.isKeep && !signedTwice e

/-- An edit of a script stands in a hunk or is kept, so what holds of changes only is counted in
the hunks. -/
theorem Tiled.countP_flatMap {p : Op String → Bool} (hp : ∀ e, e.isKeep = true → p e = false)
    {old new : Nat} {script : List (Op String)} {hunks : List Hunk}
    (h : Tiled old new script hunks) : (hunks.flatMap Hunk.edits).countP p = script.countP p := by
  have hgap {gap : List (Op String)} (kept : ∀ e ∈ gap, e.isKeep = true) : gap.countP p = 0 :=
    List.countP_eq_zero.mpr fun e he => Bool.eq_false_iff.mp (hp e (kept e he))
  induction h with
  | last kept => exact (hgap kept).symm
  | next kept nonempty rest ih =>
      rw [List.flatMap_cons, List.countP_append, List.countP_append, List.countP_append, hgap kept,
        ih, Nat.zero_add]

theorem countP_render (h : Hunk) :
    (h.render.map String.toList).countP isChangedLine = h.edits.countP isCounted := by
  rw [toList_render, List.countP_cons_of_neg (Bool.eq_false_iff.mp (isChangedLine_header h)), List.countP_map]
  exact List.countP_congr fun e _ => by rw [Function.comp_apply, isChangedLine_render, isCounted]

theorem countP_hunks (hunks : List Hunk) :
    (hunks.flatMap fun h => h.render.map String.toList).countP isChangedLine
      = (hunks.flatMap Hunk.edits).countP isCounted := by
  induction hunks with
  | nil => rfl
  | cons h hunks ih =>
      rw [List.flatMap_cons, List.flatMap_cons, List.countP_append, List.countP_append, ih,
        countP_render]

theorem isCounted_of_isKeep (e : Op String) (h : e.isKeep = true) : isCounted e = false := by
  rw [isCounted, h]
  rfl

/-- What is counted in lines that are written out is counted in these lines. -/
theorem changedLines_join {lines : List String} (h : ∀ line ∈ lines, '\n' ∉ line.toList) :
    changedLines (String.join (lines.map (· ++ "\n")))
      = (lines.map String.toList).countP isChangedLine := by
  have hreturn : isChangedLine ∘ dropReturn = isChangedLine := funext isChangedLine_dropReturn
  rw [changedLines, toList_join_lines, lines_flatMap (List.forall_mem_map.mpr h), List.countP_map,
    hreturn]

/-- The lines of a diff that are counted are its changes, less those that are signed twice. -/
theorem changedLines_unified {old new label : String} (hlabel : '\n' ∉ label.toList) :
    changedLines (unified old new label)
      = (script (linesOf old) (linesOf new)).countP isCounted := by
  by_cases hne : hunks (script (linesOf old) (linesOf new)) = []
  · have hkept := changes_eq_nil.mp (hunks_eq_nil.mp hne)
    have hcount : (script (linesOf old) (linesOf new)).countP isCounted = 0 :=
      List.countP_eq_zero.mpr fun e he =>
        Bool.eq_false_iff.mp (isCounted_of_isKeep e (hkept e he))
    rw [hcount, unified, diffLines, hne]
    rfl
  · have hrender : (((hunks (script (linesOf old) (linesOf new))).flatMap Hunk.render).map
        String.toList) = (hunks (script (linesOf old) (linesOf new))).flatMap
          fun h => h.render.map String.toList := List.map_flatMap ..
    rw [unified, diffLines_of_ne_nil hne, changedLines_join (newline_not_mem_diff hlabel),
      List.map_cons, List.map_cons,
      List.countP_cons_of_neg (Bool.eq_false_iff.mp (isChangedLine_oldHeader _)),
      List.countP_cons_of_neg (Bool.eq_false_iff.mp (isChangedLine_newHeader _)), hrender, countP_hunks,
      (tiled_hunks _).countP_flatMap isCounted_of_isKeep]

/-! ## Steps -/

namespace Step

def isChange : Step → Bool
  | .keep _ _ => false
  | _ => true

/-- Whether the line that a step deletes begins with two minus signs, or the line that it inserts
with two plus signs. -/
def signedTwice (old new : List String) : Step → Bool
  | .keep _ _ => false
  | .delete i => "--".toList.isPrefixOf (old.getD i "").toList
  | .insert j => "++".toList.isPrefixOf (new.getD j "").toList

end Step

/-- What is counted of the steps of a script is counted of its edits, if both agree on each. -/
theorem countP_stepsFrom {p : Step → Bool} {q : Op String → Bool} {old new : List String}
    (hkeep : ∀ i j line, p (.keep i j) = q (.keep line))
    (hdelete : ∀ i line, old[i]? = some line → p (.delete i) = q (.delete line))
    (hinsert : ∀ j line, new[j]? = some line → p (.insert j) = q (.insert line))
    {i j : Nat} {script : List (Op String)} (hold : old.drop i = before script)
    (hnew : new.drop j = after script) : (stepsFrom i j script).countP p = script.countP q := by
  induction script generalizing i j with
  | nil => rfl
  | cons e script ih =>
      cases e with
      | keep line =>
          obtain ⟨-, hold⟩ := getElem?_of_drop_eq_cons hold
          obtain ⟨-, hnew⟩ := getElem?_of_drop_eq_cons hnew
          rw [stepsFrom, List.countP_cons, List.countP_cons, ih hold hnew, hkeep i j line]
      | delete line =>
          obtain ⟨hline, hold⟩ := getElem?_of_drop_eq_cons hold
          rw [stepsFrom, List.countP_cons, List.countP_cons, ih hold hnew, hdelete i line hline]
      | insert line =>
          obtain ⟨hline, hnew⟩ := getElem?_of_drop_eq_cons hnew
          rw [stepsFrom, List.countP_cons, List.countP_cons, ih hold hnew, hinsert j line hline]

theorem countP_steps {p : Step → Bool} {q : Op String → Bool} {old new : List String}
    (hkeep : ∀ i j line, p (.keep i j) = q (.keep line))
    (hdelete : ∀ i line, old[i]? = some line → p (.delete i) = q (.delete line))
    (hinsert : ∀ j line, new[j]? = some line → p (.insert j) = q (.insert line)) :
    (steps old new).countP p = (script old new).countP q :=
  countP_stepsFrom hkeep hdelete hinsert (List.drop_zero.trans (before_script old new).symm)
    (List.drop_zero.trans (after_script old new).symm)

/-- How many lines really change. -/
def changeCount (old new : List String) : Nat := (steps old new).countP Step.isChange

/-- How many changed lines begin with their sign twice. -/
def signedTwiceCount (old new : List String) : Nat :=
  (steps old new).countP (Step.signedTwice old new)

theorem changeCount_eq (old new : List String) :
    changeCount old new = (script old new).countP fun e => !e.isKeep :=
  countP_steps (fun _ _ _ => rfl) (fun _ _ _ => rfl) (fun _ _ _ => rfl)

theorem signedTwiceCount_eq (old new : List String) :
    signedTwiceCount old new = (script old new).countP signedTwice := by
  refine countP_steps (fun _ _ _ => rfl) (fun i line h => ?_) (fun j line h => ?_)
  · rw [Step.signedTwice, List.getD_eq_getElem?_getD, h]
    rfl
  · rw [Step.signedTwice, List.getD_eq_getElem?_getD, h]
    rfl

/-- A change is counted or signed twice. -/
theorem countP_isCounted_add (script : List (Op String)) :
    script.countP isCounted + script.countP signedTwice = script.countP fun e => !e.isKeep := by
  induction script with
  | nil => rfl
  | cons e script ih =>
      rw [List.countP_cons, List.countP_cons, List.countP_cons, ← ih]
      cases e with
      | keep line => rfl
      | delete line =>
          cases h : signedTwice (.delete line) <;> simp [isCounted, Op.isKeep, h] <;> omega
      | insert line =>
          cases h : signedTwice (.insert line) <;> simp [isCounted, Op.isKeep, h] <;> omega

end Edit

namespace Candidate

/-- The changed lines of a candidate are the lines that its diff deletes or inserts, less those that
begin with their sign twice; so the count is right exactly if there are none of these. -/
theorem changedLines_add_signedTwiceCount (id description original patched : String)
    (kind : PatchKind) (primary : Bool) :
    (Candidate.of id description original patched kind primary).changedLines
        + Edit.signedTwiceCount (linesOf original) (linesOf patched)
      = Edit.changeCount (linesOf original) (linesOf patched)
    ∧ ((Candidate.of id description original patched kind primary).changedLines
        = Edit.changeCount (linesOf original) (linesOf patched)
      ↔ ∀ step ∈ Edit.steps (linesOf original) (linesOf patched),
        step.signedTwice (linesOf original) (linesOf patched) = false) := by
  have hlabel : '\n' ∉ diffLabel.toList := by decide
  have hcount : (Candidate.of id description original patched kind primary).changedLines
        + Edit.signedTwiceCount (linesOf original) (linesOf patched)
      = Edit.changeCount (linesOf original) (linesOf patched) := by
    rw [changedLines, Candidate.of, Edit.changedLines_unified hlabel, Edit.signedTwiceCount_eq,
      Edit.changeCount_eq, Edit.countP_isCounted_add]
  refine ⟨hcount, ?_⟩
  have hnone : Edit.signedTwiceCount (linesOf original) (linesOf patched) = 0 ↔
      ∀ step ∈ Edit.steps (linesOf original) (linesOf patched),
        step.signedTwice (linesOf original) (linesOf patched) = false := by
    rw [Edit.signedTwiceCount, List.countP_eq_zero]
    simp only [Bool.not_eq_true]
  rw [← hnone]
  omega

/-- A line that is inserted and begins with two plus signs is not counted. -/
theorem signed_line_missed :
    (Candidate.of "sign" "" "i = 1\n" "i = 1\n++i\n" .correctness false).changedLines = 0
      ∧ Edit.changeCount (linesOf "i = 1\n") (linesOf "i = 1\n++i\n") = 1 := by
  constructor <;> decide +kernel

end Candidate

end Remedy
