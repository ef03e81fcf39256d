import Remedy.Python.Cursor
import Remedy.Text.Identifier

/-!
# Reading a Python text

A reading takes something from the front of a text or fails; a failure leaves the text as it was, so
another reading may be tried. A token is looked for in one of two ways: where an operand must come,
and after an operand, where the surroundings say whether a line end or a closing bracket may come
too.
-/

namespace Remedy.Python

open Remedy.Text

abbrev Reading := StateT Cursor Option

/-- What surrounds an expression: its block, and whether a line end (`ends`) or a closing bracket
(`closes`) may follow it. -/
structure Surroundings where
  block : Block
  ends : Bool := false
  closes : Bool := false

namespace Surroundings

def bracketed (s : Surroundings) : Surroundings := { s with ends := false, closes := true }

/-- Before a word or sign that has to come. -/
def inner (s : Surroundings) : Surroundings := { s with ends := false, closes := false }

end Surroundings

namespace Cursor

def word? (c : Cursor) : Option (String × Cursor) :=
  match c.rest with
  | [] => none
  | x :: _ =>
    if isIdentStart x then
      let text := c.rest.takeWhile isIdentContinue
      some (String.ofList text, c.skip text.length)
    else none

/-- The operators and brackets, longer ones first. -/
def signs : List String :=
  ["**=", "//=", ">>=", "<<=", "**", "//", ">>", "<<", "<=", ">=", "==", "!=", "<>", ":=", "->",
    "+=", "-=", "*=", "/=", "%=", "@=", "&=", "^=", "|=", "+", "-", "*", "/", "%", "@", "&", "^",
    "|", "~", "<", ">", "=", ":", ",", ".", ";", "(", ")", "[", "]", "\x7b", "\x7d"]

def sign? (c : Cursor) : Option (String × Cursor) :=
  (signs.find? c.sees).map fun sign => (sign, c.skip sign.length)

end Cursor

namespace Reading

variable {α : Type}

/-- Goes to the next token where an operand must come; `closer` says that a closing bracket is
allowed as well. -/
def operand (s : Surroundings) (closer : Bool) : Reading Unit := do
  match (← get).ahead { closer } s.block with
  | .boundary _ => failure
  | .token c => set c

/-- The place of the next token after an operand; none at a boundary. -/
def following (s : Surroundings) : Reading (Option Cursor) := do
  match (← get).ahead { newline := s.ends, closer := s.closes } s.block with
  | .boundary _ => pure none
  | .token c => pure (some c)

/-- One of several signs, if it follows an operand. -/
def sign? (s : Surroundings) (wanted : List String) : Reading (Option String) := do
  match (← following s).bind Cursor.sign? with
  | some (sign, next) =>
    if wanted.contains sign then
      set next
      pure (some sign)
    else pure none
  | none => pure none

def sign (s : Surroundings) (wanted : String) : Reading Unit := do
  guard (← sign? s [wanted]).isSome

/-- One of several words, if it follows an operand. -/
def word? (s : Surroundings) (wanted : List String) : Reading (Option String) := do
  match (← following s).bind Cursor.word? with
  | some (word, next) =>
    if wanted.contains word then
      set next
      pure (some word)
    else pure none
  | none => pure none

def word (s : Surroundings) (wanted : String) : Reading Unit := do
  guard (← word? s [wanted]).isSome

/-- The word at the very place, without a look past blanks. -/
def wordHere? : Reading (Option String) := do
  pure ((← get).word?.map (·.1))

def takeWord : Reading String := do
  let (word, next) ← (← get).word?
  set next
  pure word

def identifier (s : Surroundings) : Reading String := do
  operand s false
  takeWord

def advance (n : Nat) : Reading Unit := modify (·.skip n)

/-- A reading that may fail without harm. -/
def attempt (p : Reading α) : Reading (Option α) := (some <$> p) <|> pure none

/-- What a reading gives, at most `fuel` times, until it gives nothing. -/
def repeatedly (p : Reading (Option α)) : (fuel : Nat) → Reading (List α)
  | 0 => pure []
  | fuel + 1 => do
    match ← p with
    | none => pure []
    | some a => return a :: (← repeatedly p fuel)

/-- What a reading gives until it gives nothing; each time it must take something from the text. -/
def many (p : Reading (Option α)) : Reading (List α) := do
  repeatedly p ((← get).left + 1)

end Reading

end Remedy.Python
