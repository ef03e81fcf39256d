import Remedy.Edit.Script
import Remedy.Text.Lines

/-!
# Unified diffs

The changes of a script in hunks, each with up to three kept lines around its changes. A hunk names
the part of either text that it covers: the number of its first line and how many lines it has; a
part without lines is named by the line before it.
-/

namespace Remedy.Edit

/-- How many kept lines stand around a change. -/
def contextLines : Nat := 3

/-- A hunk: the lines of either text before it, and its edits. -/
structure Hunk where
  oldBefore : Nat
  newBefore : Nat
  edits : List (Op String)
deriving Repr, DecidableEq

namespace Hunk

def oldCount (h : Hunk) : Nat := (before h.edits).length

def newCount (h : Hunk) : Nat := (after h.edits).length

end Hunk

/-- The positions in a script, from the given one on, of the edits that change something. -/
def changePositions {α : Type} : (position : Nat) → List (Op α) → List Nat
  | _, [] => []
  | i, e :: script => (if e.isKeep then [] else [i]) ++ changePositions (i + 1) script

/-- The ranges of a script of some length that surround changes at ascending positions; ranges that
touch are one. -/
def windowsFrom (length : Nat) : (current : Nat × Nat) → List Nat → List (Nat × Nat)
  | current, [] => [current]
  | (start, stop), i :: rest =>
    let next := min (i + contextLines + 1) length
    if i - contextLines ≤ stop then windowsFrom length (start, next) rest
    else (start, stop) :: windowsFrom length (i - contextLines, next) rest

/-- The ranges of a script that its hunks cover. -/
def windows {α : Type} (script : List (Op α)) : List (Nat × Nat) :=
  match changePositions 0 script with
  | [] => []
  | i :: rest =>
    windowsFrom script.length (i - contextLines, min (i + contextLines + 1) script.length) rest

def hunkOf (script : List (Op String)) (range : Nat × Nat) : Hunk :=
  let skipped := script.take range.1
  ⟨(before skipped).length, (after skipped).length,
    (script.take range.2).drop range.1⟩

def hunks (script : List (Op String)) : List Hunk := (windows script).map (hunkOf script)

/-! ## Text -/

/-- The number that names a part of a text. -/
def rangeStart (before count : Nat) : Nat := if count = 0 then before else before + 1

def Op.render : Op String → String
  | .keep line => " " ++ line
  | .delete line => "-" ++ line
  | .insert line => "+" ++ line

def Hunk.header (h : Hunk) : String :=
  "@@ -" ++ toString (rangeStart h.oldBefore h.oldCount) ++ "," ++ toString h.oldCount ++ " +"
    ++ toString (rangeStart h.newBefore h.newCount) ++ "," ++ toString h.newCount ++ " @@"

def Hunk.render (h : Hunk) : List String := h.header :: h.edits.map Op.render

def diffLines (old new : List String) (label : String) : List String :=
  match hunks (script old new) with
  | [] => []
  | found => ("--- a/" ++ label) :: ("+++ b/" ++ label) :: found.flatMap Hunk.render

/-- The unified diff of two texts; empty if they have the same lines. -/
def unified (old new label : String) : String :=
  String.join ((diffLines (Text.linesOf old) (Text.linesOf new) label).map (· ++ "\n"))

/-- Whether a line of a diff is a deletion or an insertion and no header of a file. -/
def isChangedLine (line : List Char) : Bool :=
  (['+'].isPrefixOf line && !"+++".toList.isPrefixOf line)
    || (['-'].isPrefixOf line && !"---".toList.isPrefixOf line)

def changedLines (diff : String) : Nat := (Text.lines diff.toList).countP isChangedLine

end Remedy.Edit
