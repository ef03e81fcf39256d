import Remedy.Text.Search

/-!
# Lines and bodies of brace languages

The code of a line is what stands before the first `//`. The body of a function is the text from
the first brace after its head up to the brace that closes it, after a line feed for each line
before.
-/

namespace Remedy.Brace

open Remedy.Text

/-- A line without its comment. -/
def code (line : List Char) : List Char :=
  match splitFirst? "//".toList line with
  | some (before, _) => before
  | none => line

/-- How far a search for a body has come: how many braces are open, whether one was ever opened, and
the text so far, the last character first. -/
structure Search where
  depth : Nat := 0
  opened : Bool := false
  text : List Char := []
deriving Repr, DecidableEq, Inhabited

/-- How many lines may end before the opening brace of a body. -/
def headLines : Nat := 512

namespace Search

/-- A search goes on, or it ends with a body or without one. -/
abbrev Outcome := Except (Option (List Char)) Search

/-- Reads a character. Nothing is kept before the first opening brace, and the closing brace that
leaves none open ends the search. -/
def readChar (s : Search) (c : Char) : Outcome :=
  if c = '{' then .ok { depth := s.depth + 1, opened := true, text := c :: s.text }
  else if !s.opened then .ok s
  else if c = '}' then
    let depth := s.depth - 1
    if depth = 0 then .error (some s.text.reverse) else .ok { s with depth, text := c :: s.text }
  else .ok { s with text := c :: s.text }

/-- Reads a line and its end. A search that has found no opening brace gives up in the end. -/
def readLine (s : Search) (line : List Char) : Outcome := do
  let s ← (code line).foldlM readChar s
  let s := { s with text := '\n' :: s.text }
  if !s.opened && headLines < s.text.length then .error none else .ok s

end Search

/-- The body of the function whose head is the first of some lines. -/
def functionBody? (lines : List (List Char)) : Option (List Char) :=
  match lines.foldlM Search.readLine {} with
  | .error body => body
  | .ok _ => none

end Remedy.Brace
