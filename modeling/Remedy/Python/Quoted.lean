import Remedy.Python.Reading
import Remedy.Text.Pattern

/-!
# Python string literals

A literal is a mix of prefix letters, a quote, content and the same quote. A formatted literal holds
replacement fields, whose expressions are read by a reading that the caller supplies. The content
comes in chunks: a new chunk starts after an escape, a field and a lone quote of a triple one, and
only as the first character of a chunk may a line end stand in a literal with single quotes.
-/

namespace Remedy.Python.Quoted

open Remedy.Text

/-- How a string literal is delimited and what its prefix letters say. -/
structure Delimiter where
  quote : Char
  triple : Bool
  raw : Bool
  bytes : Bool
  format : Bool

def isPrefixLetter (c : Char) : Bool := "fFrRbBuU".toList.contains c

def opening? (s : List Char) : Option (Delimiter × Nat) :=
  let letters := s.takeWhile isPrefixLetter
  let has := fun (c : Char) => letters.any fun d => d.toLower == c
  match s.drop letters.length with
  | [] => none
  | q :: rest =>
    if q = '\x60' then some (⟨q, false, has 'r', has 'b', has 'f'⟩, letters.length + 1)
    else if q = '\'' ∨ q = '"' then
      let triple := [q, q].isPrefixOf rest
      some (⟨q, triple, has 'r', has 'b', has 'f'⟩, letters.length + if triple then 3 else 1)
    else none

private def hexDigit : Pattern := .among "0123456789abcdefABCDEF"

def escape : Pattern :=
  .all [.lit "\\", .any [
    .all (.lit "u" :: List.replicate 4 hexDigit),
    .all (.lit "U" :: List.replicate 8 hexDigit),
    .all (.lit "x" :: List.replicate 2 hexDigit),
    .all [.digit, .optional .digit, .optional .digit],
    .all [.optional (.lit "\r"), .lit "\n"],
    .among "'\"abfrntv\\",
    .all [.lit "N\x7b", .some (.noneOf "\x7d"), .lit "\x7d"]]]

/-- The length of the escape at the start of a text; a backslash before anything else stands for
itself. -/
def escapeLength (s : List Char) : Nat :=
  match escape.matchAt? (.start s) with
  | some m => m.start.left - m.stop.left
  | none => 1

/-- The length of what a backslash of a raw literal covers: the backslash, a quote or backslash
after it, and then a line end. -/
def rawLength (quote : Char) (s : List Char) : Nat :=
  let rest := s.drop 1
  let covered := match rest with
    | x :: _ => if x = quote ∨ x = '\\' then 1 else 0
    | [] => 0
  let ending := match rest.drop covered with
    | '\r' :: '\n' :: _ => 2
    | '\r' :: _ => 1
    | '\n' :: _ => 1
    | _ => 0
  1 + covered + ending

/-- The content of a string literal and its closing quote. `begun` says that the chunk holds
something already. -/
def content (field : Reading Unit) (d : Delimiter) : (fuel : Nat) → (begun : Bool) → Reading Unit
  | 0, _ => failure
  | fuel + 1, begun => do
    match (← get).rest with
    | [] => failure
    | x :: rest =>
      if x = Char.ofNat 0 then failure
      else if d.format ∧ (x = '\x7b' ∨ x = '\x7d') then
        if rest.head? = some x then
          Reading.advance 2
          content field d fuel false
        else
          guard (x == '\x7b')
          Reading.advance 1
          field
          content field d fuel false
      else if x = '\\' then
        if d.raw then
          Reading.advance (rawLength d.quote (x :: rest))
          content field d fuel begun
        else if d.bytes ∧ (rest.head?.any fun c => c == 'N' || c == 'u' || c == 'U') then
          Reading.advance 3
          content field d fuel true
        else
          Reading.advance (escapeLength (x :: rest))
          content field d fuel false
      else if x = d.quote then
        if ¬ d.triple then Reading.advance 1
        else if [x, x].isPrefixOf rest then Reading.advance 3
        else
          Reading.advance (if rest.head? = some x then 2 else 1)
          content field d fuel false
      else if x = '\n' ∧ begun ∧ ¬ d.triple then failure
      else
        Reading.advance 1
        content field d fuel true

def literal (field : Reading Unit) : Reading Unit := do
  let c ← get
  let (d, size) ← opening? c.rest
  Reading.advance size
  content field d (c.left + 1) false

/-- The text between the quotes, given a literal or several adjacent ones: prefix letters go, then
the outermost pair of quotes; grave accents stay. -/
def value (text : List Char) : String :=
  let body := text.dropWhile Char.isAlpha
  let quotes := ["\"\"\"", "'''", "\"", "'"].map String.toList
  let outer? := quotes.find? fun q =>
    2 * q.length ≤ body.length && q.isPrefixOf body && q.isSuffixOf body
  match outer? with
  | some q => String.ofList ((body.drop q.length).take (body.length - 2 * q.length))
  | none => String.ofList body

end Remedy.Python.Quoted
