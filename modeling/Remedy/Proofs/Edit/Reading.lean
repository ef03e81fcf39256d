import Remedy.Proofs.Edit.Patch
import Remedy.Proofs.Text.Lines

/-!
# Unified diffs are read back

The text of hunks, of numbers up to whole files, is read as what was written (`read?_unified`), as
long as no line holds a line feed.
-/

namespace Remedy.Edit

/-! ## Headers -/

theorem expect_append (beginning s : List Char) : expect beginning (beginning ++ s) = some s := by
  induction beginning with
  | nil => rfl
  | cons c beginning ih => rw [List.cons_append, expect, if_pos rfl, ih]

theorem toList_toString (n : Nat) : (toString n).toList = Nat.toDigits 10 n := by
  rw [Nat.toString_eq_repr, Nat.toList_repr]

theorem isDigit_of_mem_toString {n : Nat} {c : Char} (h : c ∈ (toString n).toList) :
    c.isDigit = true := by
  rw [toList_toString] at h
  exact Nat.isDigit_of_mem_toDigits (by omega) (by omega) h

/-- A text does not go on with a digit. -/
def NoDigit (rest : List Char) : Prop := ∀ c, rest.head? = some c → c.isDigit = false

theorem readNumber_append (n : Nat) {rest : List Char} (hrest : NoDigit rest) :
    readNumber ((toString n).toList ++ rest) = some (n, rest) := by
  have hdigits : ∀ d ∈ (toString n).toList, d.isDigit = true := fun d => isDigit_of_mem_toString
  have hne : ((toString n).toList).isEmpty = false := by
    rw [toList_toString, List.isEmpty_eq_false_iff]
    exact Nat.toDigits_ne_nil
  have hstop : rest.takeWhile Char.isDigit = [] ∧ rest.dropWhile Char.isDigit = rest := by
    cases rest with
    | nil => exact ⟨rfl, rfl⟩
    | cons c rest => simp [hrest c rfl]
  unfold readNumber
  rw [List.takeWhile_append_of_pos hdigits, List.dropWhile_append_of_pos hdigits, hstop.1,
    hstop.2, List.append_nil]
  dsimp only
  rw [hne, if_neg Bool.false_ne_true, toList_toString, Nat.ofDigitChars_ten_toDigits]

def rangeText (start count : Nat) : List Char :=
  (toString start).toList ++ ',' :: (toString count).toList

theorem readRange_append (start count : Nat) {rest : List Char} (hrest : NoDigit rest) :
    readRange (rangeText start count ++ rest) = some (start, count, rest) := by
  have hcomma : NoDigit (',' :: ((toString count).toList ++ rest)) := by
    rintro c hc
    obtain rfl := Option.some.inj hc
    rfl
  have hskip : expect [','] (',' :: ((toString count).toList ++ rest))
      = some ((toString count).toList ++ rest) := expect_append [','] _
  unfold readRange rangeText
  rw [List.append_assoc, List.cons_append, readNumber_append start hcomma, Option.bind_eq_bind,
    Option.bind_some]
  dsimp only
  rw [hskip, Option.bind_eq_bind, Option.bind_some, readNumber_append count hrest]
  rfl

/-- The hunk of a patch that a hunk is rendered as. -/
def Hunk.toPatch (h : Hunk) : PatchHunk :=
  ⟨rangeStart h.oldBefore h.oldCount, h.oldCount, rangeStart h.newBefore h.newCount, h.newCount,
    h.edits⟩

theorem toList_header (h : Hunk) :
    h.header.toList = "@@ -".toList ++ (rangeText h.toPatch.oldStart h.oldCount ++ (" +".toList
      ++ (rangeText h.toPatch.newStart h.newCount ++ " @@".toList))) := by
  simp [Hunk.header, rangeText, Hunk.toPatch]

theorem readHeader_header (h : Hunk) :
    readHeader h.header.toList = some { h.toPatch with edits := [] } := by
  have hblank (rest : List Char) : NoDigit (' ' :: rest) := by
    rintro c hc
    obtain rfl := Option.some.inj hc
    rfl
  have hplus (rest : List Char) : NoDigit (" +".toList ++ rest) := hblank ('+' :: rest)
  have hat : NoDigit " @@".toList := hblank "@@".toList
  have hend : expect " @@".toList " @@".toList = some [] := expect_append " @@".toList []
  rw [toList_header, readHeader, expect_append, Option.bind_eq_bind, Option.bind_some,
    readRange_append _ _ (hplus _), Option.bind_eq_bind, Option.bind_some]
  dsimp only
  rw [expect_append, Option.bind_some, readRange_append _ _ hat, Option.bind_some]
  dsimp only
  rw [hend]
  rfl

/-! ## Bodies -/

theorem readEdit_render (e : Op String) : readEdit e.render.toList = some e := by
  cases e <;> simp [Op.render, readEdit]

section Body

variable {line : List Char} {lines : List (List Char)} {a : String} {old new : Nat}

theorem readBody_keep (h : readEdit line = some (.keep a)) :
    readBody (old + 1) (new + 1) (line :: lines)
      = (readBody old new lines).map fun (edits, rest) => (.keep a :: edits, rest) := by
  rw [readBody]
  · exact h
  · omega

theorem readBody_delete (h : readEdit line = some (.delete a)) :
    readBody (old + 1) new (line :: lines)
      = (readBody old new lines).map fun (edits, rest) => (.delete a :: edits, rest) := by
  rw [readBody]
  · exact h
  · omega

theorem readBody_insert (h : readEdit line = some (.insert a)) :
    readBody old (new + 1) (line :: lines)
      = (readBody old new lines).map fun (edits, rest) => (.insert a :: edits, rest) := by
  rw [readBody]
  · exact h
  · omega

end Body

/-- A body is read up to its last line by the numbers of its lines. -/
theorem readBody_render (edits : List (Op String)) (rest : List (List Char)) :
    readBody (before edits).length (after edits).length
      (edits.map (fun e => e.render.toList) ++ rest) = some (edits, rest) := by
  induction edits with
  | nil => cases rest <;> rfl
  | cons e edits ih =>
      have hread := readEdit_render e
      rw [List.map_cons, List.cons_append]
      cases e with
      | keep a =>
          rw [before_keep, after_keep, List.length_cons, List.length_cons, readBody_keep hread, ih,
            Option.map_some]
      | delete a =>
          rw [before_delete, after_delete, List.length_cons, readBody_delete hread, ih,
            Option.map_some]
      | insert a =>
          rw [before_insert, after_insert, List.length_cons, readBody_insert hread, ih,
            Option.map_some]

/-! ## Hunks -/

theorem toList_render (h : Hunk) : h.render.map String.toList
    = h.header.toList :: h.edits.map (fun e => e.render.toList) := by
  rw [Hunk.render, List.map_cons, List.map_map]
  rfl

/-- The lines of hunks are read as these hunks, with fuel for each of the lines. -/
theorem readHunks_render (hunks : List Hunk) {fuel : Nat}
    (hfuel : (hunks.flatMap fun h => h.render.map String.toList).length ≤ fuel) :
    readHunks fuel (hunks.flatMap fun h => h.render.map String.toList)
      = some (hunks.map Hunk.toPatch) := by
  induction hunks generalizing fuel with
  | nil => cases fuel <;> rfl
  | cons h hunks ih =>
      have hbody : readBody h.oldCount h.newCount (h.edits.map (fun e => e.render.toList)
          ++ hunks.flatMap fun h => h.render.map String.toList) = some (h.edits, _) :=
        readBody_render h.edits _
      rw [List.flatMap_cons, toList_render, List.cons_append] at hfuel ⊢
      cases fuel with
      | zero => simp at hfuel
      | succ fuel =>
          rw [List.length_cons, List.length_append] at hfuel
          rw [readHunks, readHeader_header, Option.bind_eq_bind, Option.bind_some]
          dsimp only [Hunk.toPatch]
          rw [hbody, Option.bind_eq_bind, Option.bind_some]
          dsimp only
          rw [ih (by omega), Option.bind_eq_bind, Option.bind_some, List.map_cons]
          rfl

/-! ## Lines -/

theorem toList_join_lines (lines : List String) :
    (String.join (lines.map (· ++ "\n"))).toList
      = (lines.map String.toList).flatMap (· ++ ['\n']) := by
  rw [String.toList_join, List.flatMap_map, List.flatMap_map]
  simp [String.toList_append]

/-- The lines of a patch are read as the patch, if none of them holds a line feed. -/
theorem read?_join {old new : String} {hunks : List Hunk}
    (h : ∀ line ∈ old :: new :: hunks.flatMap Hunk.render, '\n' ∉ line.toList) :
    Patch.read? (String.join ((old :: new :: hunks.flatMap Hunk.render).map (· ++ "\n")))
      = some ⟨old, new, hunks.map Hunk.toPatch⟩ := by
  have hlines : (hunks.flatMap Hunk.render).map String.toList
      = hunks.flatMap fun h : Hunk => h.render.map String.toList := List.map_flatMap ..
  have hsplit := Text.splitAt_flatMap (List.forall_mem_map.mpr h)
  rw [List.map_cons, List.map_cons, hlines, List.cons_append, List.cons_append] at hsplit
  rw [Patch.read?, toList_join_lines, List.map_cons, List.map_cons, hlines, hsplit]
  dsimp only
  rw [if_pos List.getLast?_concat, List.dropLast_concat, readHunks_render hunks (by simp),
    Option.map_some, String.ofList_toList, String.ofList_toList]

/-! ## Diffs -/

theorem newline_not_mem_rangeText (start count : Nat) : '\n' ∉ rangeText start count := by
  have hnumber (n : Nat) : '\n' ∉ (toString n).toList := fun h =>
    absurd (isDigit_of_mem_toString h) (by decide)
  rw [rangeText, List.mem_append, List.mem_cons, not_or, not_or]
  exact ⟨hnumber start, by decide, hnumber count⟩

theorem newline_not_mem_header (h : Hunk) : '\n' ∉ h.header.toList := by
  simp [toList_header, newline_not_mem_rangeText]

theorem newline_not_mem_render {old new : List String} {e : Op String}
    (hold : ∀ line ∈ old, '\n' ∉ line.toList) (hnew : ∀ line ∈ new, '\n' ∉ line.toList)
    (he : e ∈ script old new) : '\n' ∉ e.render.toList := by
  have hbefore (a : String) (ha : e.old? = some a) : '\n' ∉ a.toList := by
    refine hold a ?_
    rw [← before_script old new]
    exact List.mem_filterMap.mpr ⟨e, he, ha⟩
  have hafter (a : String) (ha : e.new? = some a) : '\n' ∉ a.toList := by
    refine hnew a ?_
    rw [← after_script old new]
    exact List.mem_filterMap.mpr ⟨e, he, ha⟩
  cases e with
  | keep a => simpa [Op.render] using hbefore a rfl
  | delete a => simpa [Op.render] using hbefore a rfl
  | insert a => simpa [Op.render] using hafter a rfl

theorem mem_of_mem_hunk {script : List (Op String)} {h : Hunk} {e : Op String}
    (hh : h ∈ hunks script) (he : e ∈ h.edits) : e ∈ script := by
  obtain ⟨range, -, rfl⟩ := List.mem_map.mp hh
  exact List.mem_of_mem_take (List.mem_of_mem_drop he)

theorem diffLines_of_ne_nil {old new : List String} {label : String}
    (h : hunks (script old new) ≠ []) :
    diffLines old new label = ("--- a/" ++ label) :: ("+++ b/" ++ label)
      :: (hunks (script old new)).flatMap Hunk.render := by
  rw [diffLines]
  split
  · contradiction
  · rfl

theorem newline_not_mem_diff {old new label : String} (hlabel : '\n' ∉ label.toList) :
    ∀ line ∈ ("--- a/" ++ label) :: ("+++ b/" ++ label)
        :: (hunks (script (Text.linesOf old) (Text.linesOf new))).flatMap Hunk.render,
      '\n' ∉ line.toList := by
  intro line hline
  -- a line is one of the two headers of the patch, the header of a hunk, or an edit
  rcases List.mem_cons.mp hline with rfl | hline
  · simpa using hlabel
  rcases List.mem_cons.mp hline with rfl | hline
  · simpa using hlabel
  obtain ⟨h, hh, hline⟩ := List.mem_flatMap.mp hline
  rcases List.mem_cons.mp hline with rfl | hline
  · exact newline_not_mem_header h
  obtain ⟨e, he, rfl⟩ := List.mem_map.mp hline
  exact newline_not_mem_render (fun _ => Text.newline_not_mem_linesOf)
    (fun _ => Text.newline_not_mem_linesOf) (mem_of_mem_hunk hh he)

/-- A diff that has hunks is read back: its two headers and its hunks. -/
theorem read?_unified {old new label : String} (hlabel : '\n' ∉ label.toList)
    (hne : hunks (script (Text.linesOf old) (Text.linesOf new)) ≠ []) :
    Patch.read? (unified old new label)
      = some ⟨"--- a/" ++ label, "+++ b/" ++ label,
          (hunks (script (Text.linesOf old) (Text.linesOf new))).map Hunk.toPatch⟩ := by
  rw [unified, diffLines_of_ne_nil hne]
  exact read?_join (newline_not_mem_diff hlabel)

example : Patch.read? (unified "" "a\n" "f")
    = some ⟨"--- a/f", "+++ b/f", [⟨0, 0, 1, 1, [.insert "a"]⟩]⟩ := by decide +kernel

end Remedy.Edit
