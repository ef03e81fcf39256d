import Remedy.Files.Tree
import Remedy.Shell.Syntax

/-!
# Patterns of the shell

A star matches any text, a question mark any byte and brackets one byte of a set; what is quoted
matches itself. In file names a pattern matches name by name, and a name that starts with a dot only
if the pattern does.
-/

namespace Remedy.Shell

/-- A byte of a pattern, and whether it was quoted. -/
structure Glyph where
  c : Char
  quoted : Bool
deriving Repr, DecidableEq

namespace Glob

inductive Item where
  | this (c : Char)
  | anyText
  | anyByte
  | oneOf (negated : Bool) (ranges : List (Char × Char))
deriving Repr

/-- The bytes of a named class, as ranges. -/
def namedClass (name : Bytes) : List (Char × Char) :=
  match String.ofList name with
  | "digit" => [('0', '9')]
  | "lower" => [('a', 'z')]
  | "upper" => [('A', 'Z')]
  | "alpha" => [('a', 'z'), ('A', 'Z')]
  | "alnum" => [('a', 'z'), ('A', 'Z'), ('0', '9')]
  | "space" => [(' ', ' '), ('\t', '\r')]
  | "blank" => [(' ', ' '), ('\t', '\t')]
  | "xdigit" => [('0', '9'), ('a', 'f'), ('A', 'F')]
  | "punct" => [('!', '/'), (':', '@'), ('[', '\x60'), ('\x7b', '~')]
  | _ => []

/-- The name of a class behind its opening, and the rest. -/
def className? (s : List Glyph) : Option (Bytes × List Glyph) :=
  let name := (s.takeWhile fun g => g.c.isAlpha).map (·.c)
  match s.drop name.length with
  | a :: b :: rest => if a.c = ':' && b.c = ']' then some (name, rest) else none
  | _ => none

/-- The ranges of a set up to its closing bracket, and the rest; `first` allows a bracket that is a
member. -/
def ranges? : (fuel : Nat) → (first : Bool) → List Glyph →
    Option (List (Char × Char) × List Glyph)
  | 0, _, _ => none
  | _ + 1, _, [] => none
  | fuel + 1, first, g :: s =>
    if g.c = ']' && !g.quoted && !first then some ([], s)
    else
      let named := match s with
        | h :: t => if g.c = '[' && !g.quoted && h.c = ':' then className? t else none
        | [] => none
      match named, s with
      | some (name, rest), _ =>
        (ranges? fuel false rest).map fun (rs, rest) => (namedClass name ++ rs, rest)
      | none, d :: e :: rest =>
        if d.c = '-' && !d.quoted && !(e.c = ']' && !e.quoted) then
          (ranges? fuel false rest).map fun (rs, rest) => ((g.c, e.c) :: rs, rest)
        else (ranges? fuel false s).map fun (rs, rest) => ((g.c, g.c) :: rs, rest)
      | none, _ => (ranges? fuel false s).map fun (rs, rest) => ((g.c, g.c) :: rs, rest)

def items : (fuel : Nat) → List Glyph → List Item
  | 0, _ => []
  | _ + 1, [] => []
  | fuel + 1, g :: s =>
    if g.quoted then .this g.c :: items fuel s
    else if g.c = '*' then .anyText :: items fuel s
    else if g.c = '?' then .anyByte :: items fuel s
    else if g.c = '[' then
      let (negated, t) := match s with
        | h :: t => if (h.c = '!' || h.c = '^') && !h.quoted then (true, t) else (false, s)
        | [] => (false, s)
      match ranges? (s.length + 1) true t with
      | some (rs, rest) => .oneOf negated rs :: items fuel rest
      | none => .this '[' :: items fuel s
    else if g.c = '\\' then
      match s with
      | h :: t => .this h.c :: items fuel t
      | [] => [.this '\\']
    else .this g.c :: items fuel s

def ofGlyphs (s : List Glyph) : List Item := items (s.length + 1) s

def Item.accepts (c : Char) : Item → Bool
  | .this d => c = d
  | .anyText | .anyByte => true
  | .oneOf negated ranges => (ranges.any fun (a, b) => a ≤ c && c ≤ b) != negated

/-- Whether a text ends with something good; the whole text and the empty end count. -/
def someEnd (good : Bytes → Bool) : Bytes → Bool
  | [] => good []
  | c :: s => good (c :: s) || someEnd good s

/-- Whether a pattern matches a whole text. -/
def fits : List Item → Bytes → Bool
  | [], s => s.isEmpty
  | .anyText :: p, s => someEnd (fits p) s
  | _ :: _, [] => false
  | i :: p, c :: s => i.accepts c && fits p s

/-- Whether some glyphs hold anything but bytes that match themselves. -/
def isPattern (s : List Glyph) : Bool :=
  s.any fun g => !g.quoted && (g.c = '*' || g.c = '?' || g.c = '[')

def textOf (s : List Glyph) : Bytes := s.map (·.c)

/-! ## Values without their start or end -/

/-- The first of some lengths that is good. -/
def firstLength? (good : Nat → Bool) (lengths : List Nat) : Option Nat := lengths.find? good

/-- A value without what a pattern matches at its start. -/
def dropStart (longest : Bool) (p : List Item) (s : Bytes) : Bytes :=
  let lengths := List.range (s.length + 1)
  match firstLength? (fun n => fits p (s.take n)) (if longest then lengths.reverse else lengths)
    with
  | some n => s.drop n
  | none => s

/-- A value without what a pattern matches at its end. -/
def dropEnd (longest : Bool) (p : List Item) (s : Bytes) : Bytes :=
  let lengths := List.range (s.length + 1)
  match firstLength? (fun n => fits p (s.drop n)) (if longest then lengths else lengths.reverse)
    with
  | some n => s.take n
  | none => s

/-! ## File names -/

def pieces : List Glyph → List (List Glyph)
  | [] => [[]]
  | g :: s =>
    match pieces s with
    | [] => [[g]]
    | p :: ps => if g.c = '/' then [] :: p :: ps else (g :: p) :: ps

/-- The names in a directory that a piece matches. -/
def namesFor (names : List Bytes) (piece : List Glyph) : List Bytes :=
  let p := ofGlyphs piece
  let dotted := match piece with
    | g :: _ => g.c = '.'
    | [] => false
  names.filter fun n => (dotted || n.head? != some '.') && fits p n

/-- The paths that a pattern matches; `names` lists a directory and `holds` tells what there is. -/
def expand (names : Bytes → List Bytes) (holds : Bytes → Bool) (base : Bytes) :
    List (List Glyph) → List Bytes
  | [] => []
  | [last] =>
    if isPattern last then (namesFor (names base) last).map (base ++ ·)
    else if holds (base ++ textOf last) then [base ++ textOf last]
    else []
  | piece :: rest =>
    if isPattern piece then
      (namesFor (names base) piece).flatMap fun n => expand names holds (base ++ n ++ ['/']) rest
    else expand names holds (base ++ textOf piece ++ ['/']) rest

end Glob

end Remedy.Shell
