import Remedy.Python.Expression

/-!
# Reading case patterns

The patterns of a `match` statement. The tree keeps none of them, so a reading only says whether a
pattern stands there.
-/

namespace Remedy.Python.CasePattern

open Reading

def number (s : Surroundings) : Reading Unit := do
  operand s false
  let (_, size) ← Numeral.read? (← get).rest
  advance size

/-- A number, perhaps with a sign before it and a second one as imaginary part. -/
def numeric (s : Surroundings) : Reading Unit := do
  operand s false
  if (← get).sees "-" then advance 1
  number s
  if (← sign? s ["+", "-"]).isSome then number s

def dotted (s : Surroundings) : Reading Unit := do
  let _ ← identifier s
  let _ ← many do
    match ← sign? s ["."] with
    | none => pure none
    | some _ => some <$> identifier s.inner

/-- Patterns with commas between them, up to a closing bracket. -/
def upTo (b : Surroundings) (close : String) (one : Reading Unit) : Reading Unit := do
  operand b true
  if (← get).sees close then advance 1
  else
    let _ ← commaSeparated b one
    sign b close

/-- A name or an underscore after one or two stars. -/
def splat (s : Surroundings) : Reading Unit := do
  operand s false
  let c ← get
  if c.sees "**" then advance 2
  else
    guard (c.sees "*")
    advance 1
  let _ ← identifier s

/-- A pattern without alternatives; `inside` reads a pattern one level deeper. -/
def single (n : Nest) (s : Surroundings) (inside : Surroundings → Reading Unit) : Reading Unit := do
  operand s true
  let c ← get
  let b := s.bracketed
  let pair : Reading Unit :=
    splat b <|> do
      inside b
      sign b ":"
      inside b
  if c.sees "(" then
    advance 1
    upTo b ")" (inside b)
  else if c.sees "[" then
    advance 1
    upTo b "]" (inside b)
  else if c.sees "\x7b" then
    advance 1
    upTo b "\x7d" pair
  else if c.sees "*" then splat s
  else if (Quoted.opening? c.rest).isSome then
    let _ ← strings n s
  else
    numeric s <|> do
      dotted s
      if (← sign? s ["("]).isSome then upTo b ")" (inside b)

def alternatives (n : Nest) (s : Surroundings) (inside : Surroundings → Reading Unit) :
    Reading Unit := do
  single n s inside
  let _ ← many do
    match ← sign? s ["|"] with
    | none => pure none
    | some _ => some <$> single n s inside

/-- A pattern, perhaps after a keyword or with a name for what it matches, that nests at most
`depth` levels. -/
def read (n : Nest) : (depth : Nat) → Surroundings → Reading Unit
  | 0, _ => failure
  | depth + 1, s => do
    operand s true
    let keyword : Reading Unit := do
      let _ ← takeWord
      sign s "="
    let _ ← attempt keyword
    alternatives n s (read n depth)
    let _ ← many do
      match ← Reading.word? s ["as"] with
      | none => pure none
      | some _ => some <$> identifier s.inner

end Remedy.Python.CasePattern
