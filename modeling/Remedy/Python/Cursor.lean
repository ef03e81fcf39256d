import Remedy.Text.Blank

/-!
# Places in a Python text, and its layout

Blanks, comments and line ends carry meaning: where the grammar allows it, a line end closes a
statement, a deeper margin opens a block and a shallower one closes it. `Cursor.ahead` looks past
them and answers with such a boundary or with the place of the next token.
-/

namespace Remedy.Python

open Remedy.Text

/-- A place in a text: what is left of it, the number of characters left and the line. -/
structure Cursor where
  rest : List Char
  left : Nat
  line : Nat
deriving Repr

namespace Cursor

def start (s : List Char) : Cursor := ⟨s, s.length, 1⟩

def next (c : Cursor) : Cursor :=
  match c.rest with
  | [] => c
  | x :: rest => ⟨rest, c.left - 1, if x = '\n' then c.line + 1 else c.line⟩

def skip : Nat → Cursor → Cursor
  | 0, c => c
  | n + 1, c => skip n c.next

def peek? (c : Cursor) : Option Char := c.rest.head?

def sees (c : Cursor) (s : String) : Bool := s.toList.isPrefixOf c.rest

def textTo (c d : Cursor) : List Char := c.rest.take (c.left - d.left)

end Cursor

/-- What lies between a place and the next text that is neither blank nor comment: whether a line
ended, the column of that text, the column of the first comment line and the first character. -/
structure Margin where
  broken : Bool
  column : Nat
  comment : Option Nat
  next : Option Char

namespace Margin

/-- Looks over blanks and joined lines, and over comment lines if `comments` says so. A comment
right after a statement and a stray backslash hide the margin. -/
def scan (comments : Bool) : (inComment broken : Bool) → (column : Nat) → (comment : Option Nat) →
    List Char → Option Margin
  | _, _, _, comment, [] => some ⟨true, 0, comment, none⟩
  | true, broken, column, comment, x :: s =>
    if x = '\n' then scan comments false broken 0 comment s
    else scan comments true broken column comment s
  | false, broken, column, comment, x :: s =>
    if x = '\n' then scan comments false true 0 comment s
    else if x = ' ' then scan comments false broken (column + 1) comment s
    else if x = '\r' ∨ x = '\x0c' then scan comments false broken 0 comment s
    else if x = '\t' then scan comments false broken (column + 8) comment s
    else if x = '#' ∧ comments then
      if broken then scan comments true broken column (comment.or (some column)) s else none
    else if x = '\\' then
      match s with
      | [] | ['\r'] => some ⟨true, 0, comment, none⟩
      | '\n' :: t => scan comments false broken column comment t
      | '\r' :: '\n' :: t => scan comments false broken column comment t
      | _ => none
    else some ⟨broken, column, comment, some x⟩

end Margin

/-- A boundary that the layout draws. -/
inductive Boundary where
  | newline
  | indent (column : Nat)
  | dedent

/-- What the grammar allows at a place: the boundaries, and a closing bracket. -/
structure Wanted where
  newline : Bool := false
  indent : Bool := false
  dedent : Bool := false
  closer : Bool := false

/-- The block that a place belongs to: the column of its statements, and whether the place is in a
replacement field of a formatted string, where no block ends. -/
structure Block where
  column : Nat := 0
  inField : Bool := false

/-- The boundary that a margin draws. A block ends only after the comments of its own column. Where
neither a line end nor a closing bracket is allowed, a shallower margin ends the block too. -/
def Margin.boundary? (m : Margin) (w : Wanted) (b : Block) : Option Boundary :=
  let quote := m.next == some '"' || m.next == some '\'' || m.next == some '\x60'
  let closing := w.dedent || (!w.newline && !quote && !w.closer)
  if !m.broken then none
  else if w.indent && b.column < m.column then some (.indent m.column)
  else if closing && m.column < b.column && !b.inField && m.comment.all (· < b.column) then
    some .dedent
  else if w.newline then some .newline
  else none

/-- What comes next: a boundary, or a token at a place. -/
inductive Ahead where
  | boundary (what : Boundary)
  | token (place : Cursor)

namespace Cursor

/-- Characters that may stand between tokens. -/
def isFiller (x : Char) : Bool :=
  isBlank x || x == Char.ofNat 0xFEFF || x == Char.ofNat 0x200B || x == Char.ofNat 0x2060

def skipWhile (test : Char → Bool) (c : Cursor) : Cursor :=
  c.skip (c.rest.takeWhile test).length

def boundary? (c : Cursor) (w : Wanted) (b : Block) : Option Boundary :=
  (Margin.scan (w.newline || w.indent || w.dedent) false false 0 none c.rest).bind
    (·.boundary? w b)

/-- Looks past blanks, comments and joined lines, at most `fuel` of them, for a boundary or the
next token. -/
def aheadFrom (w : Wanted) (b : Block) : (fuel : Nat) → Cursor → Ahead
  | 0, c => .token c
  | fuel + 1, c =>
    match c.boundary? w b with
    | some what => .boundary what
    | none =>
      let d := c.skipWhile isFiller
      match d.rest with
      | '#' :: _ => aheadFrom w b fuel (d.skipWhile (· != '\n'))
      | '\\' :: '\n' :: _ => aheadFrom w b fuel (d.skip 2)
      | '\\' :: '\r' :: '\n' :: _ => aheadFrom w b fuel (d.skip 3)
      | ['\\'] => aheadFrom w b fuel (d.skip 1)
      | _ => .token d

/-- Looks past blanks, comments and joined lines for a boundary or the next token. -/
def ahead (c : Cursor) (w : Wanted) (b : Block) : Ahead := aheadFrom w b (c.left + 1) c

end Cursor

end Remedy.Python
