import Remedy.Proofs.Edit.Hunks

/-!
# What a patch says

A reader of unified diffs that knows nothing of how they are made (`Patch.read?`): it splits a text
at line feeds, takes two header lines, and reads the body of each hunk by the counts of its header.
Hunks are applied to lines strictly (`applyFrom`): each has to find what it keeps and deletes at the
position that its header names.
-/

namespace Remedy.Edit

/-- A hunk as its header announces it, with its body. -/
structure PatchHunk where
  oldStart : Nat
  oldCount : Nat
  newStart : Nat
  newCount : Nat
  edits : List (Op String)
deriving Repr, DecidableEq

/-- A patch: its two header lines and its hunks. -/
structure Patch where
  oldHeader : String
  newHeader : String
  hunks : List PatchHunk
deriving Repr, DecidableEq

/-! ## Reading -/

/-- The rest of a text after a beginning. -/
def expect : (beginning : List Char) → List Char → Option (List Char)
  | [], s => some s
  | c :: beginning, d :: s => if c = d then expect beginning s else none
  | _ :: _, [] => none

/-- A decimal number at the start of a text, and the rest. -/
def readNumber (s : List Char) : Option (Nat × List Char) :=
  let digits := s.takeWhile Char.isDigit
  if digits.isEmpty then none
  else some (Nat.ofDigitChars 10 digits 0, s.dropWhile Char.isDigit)

/-- A range `start,count` at the start of a text, and the rest. -/
def readRange (s : List Char) : Option (Nat × Nat × List Char) := do
  let (start, s) ← readNumber s
  let s ← expect [','] s
  let (count, s) ← readNumber s
  some (start, count, s)

/-- The first line of a hunk, `@@ -a,b +c,d @@`: the hunk without its body. -/
def readHeader (line : List Char) : Option PatchHunk := do
  let s ← expect "@@ -".toList line
  let (oldStart, oldCount, s) ← readRange s
  let s ← expect " +".toList s
  let (newStart, newCount, s) ← readRange s
  let s ← expect " @@".toList s
  if s.isEmpty then some ⟨oldStart, oldCount, newStart, newCount, []⟩ else none

/-- A line of a body, by its first character. -/
def readEdit : List Char → Option (Op String)
  | ' ' :: line => some (.keep (String.ofList line))
  | '-' :: line => some (.delete (String.ofList line))
  | '+' :: line => some (.insert (String.ofList line))
  | _ => none

/-- A body with as many lines of the old text and of the new one as are announced, and the lines
after it. -/
def readBody : (old new : Nat) → List (List Char) → Option (List (Op String) × List (List Char))
  | 0, 0, lines => some ([], lines)
  | _, _, [] => none
  | old, new, line :: lines =>
    match readEdit line, old, new with
    | some (.keep a), old + 1, new + 1 =>
      (readBody old new lines).map fun (edits, rest) => (.keep a :: edits, rest)
    | some (.delete a), old + 1, new =>
      (readBody old new lines).map fun (edits, rest) => (.delete a :: edits, rest)
    | some (.insert a), old, new + 1 =>
      (readBody old new lines).map fun (edits, rest) => (.insert a :: edits, rest)
    | _, _, _ => none

/-- Hunks one after the other, up to the end of the lines; every hunk takes a line at least. -/
def readHunks : (fuel : Nat) → List (List Char) → Option (List PatchHunk)
  | _, [] => some []
  | 0, _ :: _ => none
  | fuel + 1, line :: lines => do
    let h ← readHeader line
    let (edits, rest) ← readBody h.oldCount h.newCount lines
    let hunks ← readHunks fuel rest
    some ({ h with edits } :: hunks)

/-- The patch that a text is, if each of its lines is ended by a line feed. -/
def Patch.read? (text : String) : Option Patch :=
  match Text.splitAt '\n' text.toList with
  | old :: new :: lines =>
    if lines.getLast? = some [] then
      (readHunks lines.length lines.dropLast).map fun hunks =>
        ⟨String.ofList old, String.ofList new, hunks⟩
    else none
  | _ => none

/-! ## Applying -/

/-- How many lines come before a range that is named by its first line, or by the line before it if
it has none. -/
def linesBefore (start count : Nat) : Nat := if count = 0 then start else start - 1

/-- The edit that undoes an edit. -/
def undo {α : Type} : Op α → Op α
  | .keep a => .keep a
  | .delete a => .insert a
  | .insert a => .delete a

namespace PatchHunk

/-- How many old lines come before a hunk. -/
def oldBefore (h : PatchHunk) : Nat := linesBefore h.oldStart h.oldCount

/-- How many new lines come before a hunk. -/
def newBefore (h : PatchHunk) : Nat := linesBefore h.newStart h.newCount

/-- The hunk that undoes a hunk. -/
def reverse (h : PatchHunk) : PatchHunk :=
  ⟨h.newStart, h.newCount, h.oldStart, h.oldCount, h.edits.map undo⟩

end PatchHunk

/-- Applies hunks to the lines of a text from some line on. A hunk that is out of order, beyond the
end or not about these lines cannot be applied. -/
def applyFrom : (cursor : Nat) → List String → List PatchHunk → Option (List String)
  | _, lines, [] => some lines
  | cursor, lines, h :: hunks =>
    let skipped := h.oldBefore - cursor
    if cursor ≤ h.oldBefore ∧ skipped ≤ lines.length
        ∧ (lines.drop skipped).take h.oldCount = before h.edits then
      (applyFrom (h.oldBefore + h.oldCount) (lines.drop (skipped + h.oldCount)) hunks).map
        fun rest => lines.take skipped ++ after h.edits ++ rest
    else none

/-! ## Correctness -/

/-- The header of a hunk counts its lines and says where in either text they are. -/
structure PatchHunk.Fits (old new : List String) (h : PatchHunk) : Prop where
  old_count : h.oldCount = (before h.edits).length
  new_count : h.newCount = (after h.edits).length
  old_start : h.oldCount ≠ 0 → 0 < h.oldStart
  new_start : h.newCount ≠ 0 → 0 < h.newStart
  old_lines : (old.drop h.oldBefore).take h.oldCount = before h.edits
  new_lines : (new.drop h.newBefore).take h.newCount = after h.edits

/-- A patch makes the old lines into the new ones, and undone it makes the new lines into the old
ones; its hunks fit both and are in order, none of them reaching into the next. -/
structure Patch.Correct (old new : List String) (patch : Patch) : Prop where
  fits : ∀ h ∈ patch.hunks, h.Fits old new
  ordered : patch.hunks.Pairwise fun g h =>
    g.oldBefore + g.oldCount ≤ h.oldBefore ∧ g.newBefore + g.newCount ≤ h.newBefore
  forward : applyFrom 0 old patch.hunks = some new
  backward : applyFrom 0 new (patch.hunks.map PatchHunk.reverse) = some old

end Remedy.Edit
