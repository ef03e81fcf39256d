import Remedy.Proofs.Edit.Reading

/-!
# Unified diffs are correct patches

What a tiling says of the old lines (`Tiled.take_oldBefore`, `Tiled.pairwise_oldBefore`,
`Tiled.applyFrom_toPatch`) it says of the new ones when its script is undone (`Tiled.map_undo`). A
unified diff is read as the hunks of a tiling, so it is a correct patch (`unified_correct`).
-/

namespace Remedy.Edit

/-! ## Undoing -/

section Undo

variable {α : Type}

theorem old?_undo (e : Op α) : (undo e).old? = e.new? := by
  cases e <;> rfl

theorem new?_undo (e : Op α) : (undo e).new? = e.old? := by
  cases e <;> rfl

theorem isKeep_undo (e : Op α) : (undo e).isKeep = e.isKeep := by
  cases e <;> rfl

theorem before_undo (script : List (Op α)) : before (script.map undo) = after script := by
  rw [before, List.filterMap_map]
  exact List.filterMap_congr fun e _ => old?_undo e

theorem after_undo (script : List (Op α)) : after (script.map undo) = before script := by
  rw [after, List.filterMap_map]
  exact List.filterMap_congr fun e _ => new?_undo e

theorem forall_isKeep_undo {script : List (Op α)} (h : ∀ e ∈ script, e.isKeep = true) :
    ∀ e ∈ script.map undo, e.isKeep = true := by
  rw [List.forall_mem_map]
  intro e he
  rw [isKeep_undo]
  exact h e he

end Undo

/-- The hunk that undoes a hunk. -/
def Hunk.reverse (h : Hunk) : Hunk := ⟨h.newBefore, h.oldBefore, h.edits.map undo⟩

namespace Hunk

theorem oldCount_reverse (h : Hunk) : h.reverse.oldCount = h.newCount :=
  congrArg List.length (before_undo h.edits)

theorem newCount_reverse (h : Hunk) : h.reverse.newCount = h.oldCount :=
  congrArg List.length (after_undo h.edits)

theorem toPatch_reverse (h : Hunk) : h.reverse.toPatch = h.toPatch.reverse := by
  rw [toPatch, oldCount_reverse, newCount_reverse]
  rfl

theorem linesBefore_rangeStart (before count : Nat) :
    linesBefore (rangeStart before count) count = before := by
  unfold linesBefore rangeStart
  split <;> rfl

@[simp] theorem oldBefore_toPatch (h : Hunk) : h.toPatch.oldBefore = h.oldBefore :=
  linesBefore_rangeStart ..

@[simp] theorem newBefore_toPatch (h : Hunk) : h.toPatch.newBefore = h.newBefore :=
  linesBefore_rangeStart ..

end Hunk

/-! ## Applying -/

/-- A hunk is applied where what it takes up is found after a gap. -/
theorem applyFrom_cons {cursor : Nat} {gap lines : List String} {h : PatchHunk}
    {hunks : List PatchHunk} (hbefore : h.oldBefore = cursor + gap.length)
    (hcount : h.oldCount = (before h.edits).length) :
    applyFrom cursor (gap ++ (before h.edits ++ lines)) (h :: hunks)
      = (applyFrom (cursor + gap.length + (before h.edits).length) lines hunks).map
          fun rest => gap ++ after h.edits ++ rest := by
  have hfits : cursor ≤ cursor + gap.length
      ∧ gap.length ≤ (gap ++ (before h.edits ++ lines)).length
      ∧ ((gap ++ (before h.edits ++ lines)).drop gap.length).take (before h.edits).length
        = before h.edits := by
    refine ⟨Nat.le_add_right .., ?_, ?_⟩
    · rw [List.length_append]
      exact Nat.le_add_right ..
    · rw [List.drop_left, List.take_left]
  rw [applyFrom, hbefore, hcount, Nat.add_sub_cancel_left, if_pos hfits, ← List.drop_drop,
    List.drop_left, List.drop_left, List.take_left]

/-! ## Tilings -/

namespace Tiled

variable {old new : Nat} {script : List (Op String)} {hunks : List Hunk}

theorem map_undo (h : Tiled old new script hunks) :
    Tiled new old (script.map undo) (hunks.map Hunk.reverse) := by
  induction h with
  | last kept => exact .last (forall_isKeep_undo kept)
  | @next old new gap edits script hunks kept nonempty rest ih =>
      rw [List.map_append, List.map_append, List.map_cons, Hunk.reverse]
      rw [← before_undo gap, ← after_undo gap, ← before_undo edits, ← after_undo edits] at ih
      rw [← before_undo gap, ← after_undo gap]
      exact .next (forall_isKeep_undo kept) (mt List.map_eq_nil_iff.mp nonempty) ih

/-- A hunk covers the old lines that its edits take up. -/
theorem take_oldBefore (h : Tiled old new script hunks) {lines : List String}
    (hlines : lines.drop old = before script) :
    ∀ h ∈ hunks, (lines.drop h.oldBefore).take h.oldCount = before h.edits := by
  induction h with
  | last => exact List.forall_mem_nil _
  | @next old new gap edits script hunks kept nonempty rest ih =>
      rw [before_append, before_append] at hlines
      have hstart : lines.drop (old + (before gap).length) = before edits ++ before script := by
        rw [← List.drop_drop, hlines, List.drop_left]
      have hstop : lines.drop (old + (before gap).length + (before edits).length)
          = before script := by
        rw [← List.drop_drop, hstart, List.drop_left]
      rw [List.forall_mem_cons]
      refine ⟨?_, ih hstop⟩
      show (lines.drop (old + (before gap).length)).take (before edits).length = before edits
      rw [hstart, List.take_left]

/-- Hunks come after the lines before a script. -/
theorem le_oldBefore (h : Tiled old new script hunks) : ∀ h ∈ hunks, old ≤ h.oldBefore := by
  induction h with
  | last => exact List.forall_mem_nil _
  | next kept nonempty rest ih =>
      rw [List.forall_mem_cons]
      refine ⟨Nat.le_add_right .., fun h hh => ?_⟩
      have := ih h hh
      omega

theorem pairwise_oldBefore (h : Tiled old new script hunks) :
    hunks.Pairwise fun g h => g.oldBefore + g.oldCount ≤ h.oldBefore := by
  induction h with
  | last => exact .nil
  | next kept nonempty rest ih => exact .cons rest.le_oldBefore ih

/-- The hunks of a script make what it takes up into what it yields. -/
theorem applyFrom_toPatch (h : Tiled old new script hunks) :
    applyFrom old (before script) (hunks.map Hunk.toPatch) = some (after script) := by
  induction h with
  | last kept => exact congrArg some (before_eq_after kept)
  | @next old new gap edits script hunks kept nonempty rest ih =>
      rw [List.map_cons, before_append, before_append]
      refine (applyFrom_cons (Hunk.oldBefore_toPatch _) rfl).trans ?_
      dsimp only [Hunk.toPatch]
      rw [ih, Option.map_some, before_eq_after kept, after_append, after_append,
        List.append_assoc]

end Tiled

/-! ## Patches -/

theorem rangeStart_pos {before count : Nat} (h : count ≠ 0) : 0 < rangeStart before count := by
  rw [rangeStart, if_neg h]
  exact Nat.succ_pos before

/-- The patch of a tiling of a script is correct for its two sides. -/
theorem correct_of_tiled (oldHeader newHeader : String) {script : List (Op String)}
    {hunks : List Hunk} (h : Tiled 0 0 script hunks) :
    Patch.Correct (before script) (after script)
      ⟨oldHeader, newHeader, hunks.map Hunk.toPatch⟩ := by
  have hundo := h.map_undo
  have hreverse : (hunks.map Hunk.toPatch).map PatchHunk.reverse
      = (hunks.map Hunk.reverse).map Hunk.toPatch := by
    rw [List.map_map, List.map_map]
    exact List.map_congr_left fun h _ => h.toPatch_reverse.symm
  constructor
  case fits =>
    rw [List.forall_mem_map]
    intro g hg
    have hold := h.take_oldBefore List.drop_zero g hg
    have hnew := hundo.take_oldBefore List.drop_zero g.reverse (List.mem_map_of_mem hg)
    rw [before_undo, Hunk.oldCount_reverse] at hnew
    exact {
      old_count := rfl
      new_count := rfl
      old_start := rangeStart_pos
      new_start := rangeStart_pos
      old_lines := by rwa [Hunk.oldBefore_toPatch]
      new_lines := by rw [Hunk.newBefore_toPatch]; exact hnew.trans (before_undo g.edits)
    }
  case ordered =>
    have hnew := hundo.pairwise_oldBefore
    rw [List.pairwise_map] at hnew ⊢
    refine (h.pairwise_oldBefore.and hnew).imp fun {f g} hfg => ?_
    rw [Hunk.oldCount_reverse] at hfg
    simp only [Hunk.oldBefore_toPatch, Hunk.newBefore_toPatch]
    exact hfg
  case forward => exact h.applyFrom_toPatch
  case backward =>
    have happly := hundo.applyFrom_toPatch
    rw [before_undo, after_undo] at happly
    rw [hreverse]
    exact happly

/-! ## Unified diffs -/

theorem changePositions_eq_nil {α : Type} {script : List (Op α)} (h : changes script = [])
    (i : Nat) : changePositions i script = [] := by
  rw [changes_eq_nil] at h
  induction script generalizing i with
  | nil => rfl
  | cons e script ih =>
      rw [List.forall_mem_cons] at h
      rw [changePositions, if_pos h.1, List.nil_append, ih h.2]

/-- There is a hunk exactly when there is a change. -/
theorem hunks_eq_nil {script : List (Op String)} : hunks script = [] ↔ changes script = [] := by
  constructor
  · intro h
    have htiled := tiled_hunks script
    rw [h] at htiled
    cases htiled with
    | last kept => exact changes_eq_nil.mpr kept
  · intro h
    rw [hunks, windows, changePositions_eq_nil h]
    rfl

theorem hunks_script_eq_nil {old new : List String} : hunks (script old new) = [] ↔ old = new :=
  hunks_eq_nil.trans changes_script_eq_nil

theorem unified_eq_empty {old new label : String} :
    unified old new label = "" ↔ Text.linesOf old = Text.linesOf new := by
  rw [← hunks_script_eq_nil]
  constructor
  · intro h
    by_contra hne
    rw [unified, diffLines_of_ne_nil hne, List.map_cons, String.join_cons] at h
    have hlength := congrArg String.length h
    simp at hlength
  · intro h
    rw [unified, diffLines, h]
    rfl

/-- **A unified diff is a correct patch.** It is empty exactly if two texts have the same lines;
otherwise it is read as a patch, with hunks, that is correct for these lines. -/
theorem unified_correct (old new label : String) (hlabel : '\n' ∉ label.toList) :
    (unified old new label = "" ↔ Text.linesOf old = Text.linesOf new)
      ∧ (Text.linesOf old ≠ Text.linesOf new →
        ∃ patch, Patch.read? (unified old new label) = some patch
          ∧ patch.oldHeader = "--- a/" ++ label ∧ patch.newHeader = "+++ b/" ++ label
          ∧ patch.hunks ≠ [] ∧ patch.Correct (Text.linesOf old) (Text.linesOf new)) := by
  refine ⟨unified_eq_empty, fun hne => ?_⟩
  have hhunks := mt hunks_script_eq_nil.mp hne
  have hcorrect := correct_of_tiled ("--- a/" ++ label) ("+++ b/" ++ label)
    (tiled_hunks (script (Text.linesOf old) (Text.linesOf new)))
  rw [before_script, after_script] at hcorrect
  exact ⟨_, read?_unified hlabel hhunks, rfl, rfl, mt List.map_eq_nil_iff.mp hhunks, hcorrect⟩

theorem unified_correct_second_line : '\n' ∉ "f".toList
    ∧ Text.linesOf "a\nb\n" ≠ Text.linesOf "a\nc\n"
    ∧ ∃ patch, Patch.read? (unified "a\nb\n" "a\nc\n" "f") = some patch
      ∧ patch.oldHeader = "--- a/" ++ "f" ∧ patch.newHeader = "+++ b/" ++ "f"
      ∧ patch.hunks ≠ []
      ∧ patch.Correct (Text.linesOf "a\nb\n") (Text.linesOf "a\nc\n") :=
  have hlabel : '\n' ∉ "f".toList := by decide
  have hne : Text.linesOf "a\nb\n" ≠ Text.linesOf "a\nc\n" := by decide
  ⟨hlabel, hne, (unified_correct "a\nb\n" "a\nc\n" "f" hlabel).2 hne⟩

end Remedy.Edit
