import Remedy.Shell.Arithmetic
import Remedy.Text.Utf8

/-!
# Conditions

The condition of `test` is read off its arguments from the left. Whether a word is an operator
depends on the words after it, and few words are read by rules of their own.
-/

namespace Remedy.Shell

open Remedy.Text

namespace Condition

inductive Sign where
  | either | both | negation | opening | closing
  | unary (letter : Char)
  | binary (name : String)
deriving Repr, DecidableEq

/-- Letters of operators before one operand. -/
def unaryLetters : Bytes := "rwxefdcbpugkstznhLOGS".toList

/-- Operators between two operands. -/
def binaryNames : List String :=
  ["=", "!=", "<", ">", "-eq", "-ne", "-ge", "-gt", "-le", "-lt", "-nt", "-ot", "-ef"]

def sign? (w : Bytes) : Option Sign :=
  match w with
  | ['!'] => some .negation
  | ['('] => some .opening
  | [')'] => some .closing
  | ['-', 'a'] => some .both
  | ['-', 'o'] => some .either
  | ['-', c] => if unaryLetters.contains c then some (.unary c) else none
  | w => if binaryNames.contains (String.ofList w) then some (.binary (String.ofList w)) else none

def binary? (w : Bytes) : Option String :=
  match sign? w with
  | some (.binary name) => some name
  | _ => none

/-- What stands at the front of some words. -/
inductive Front where
  | nothing
  | operand
  | operator (s : Sign)
deriving DecidableEq

/-- Whether the first of some words is an operand even if it looks like an operator before one: it
is the last one, or an operator between two operands follows and another word. -/
def isOperand : List Bytes → Bool
  | [] | [_] => true
  | [_, _] => false
  | _ :: w :: _ => (binary? w).isSome

def front : List Bytes → Front
  | [] => .nothing
  | w :: ws =>
    match sign? w with
    | none => .operand
    | some (.unary c) => if isOperand (w :: ws) then .operand else .operator (.unary c)
    | some .opening => if ws.isEmpty then .operand else .operator .opening
    | some s => .operator s

/-- How conditions look at the world outside. -/
structure Look where
  /-- Whether a file is as an operator before one operand asks. -/
  file : (letter : Char) → (path : Bytes) → Bool
  /-- Whether two files are as an operator between two operands asks. -/
  files : (name : String) → (first second : Bytes) → Bool

def number (w : Bytes) : Except Bytes Int :=
  let wrong : Except Bytes Int := .error (bytesOf "Illegal number: " ++ w)
  let isSpace := fun (c : Char) => c = ' ' || ('\t' ≤ c && c ≤ '\r')
  let t := w.dropWhile isSpace
  let (negative, t) := match t with
    | '-' :: t => (true, t)
    | '+' :: t => (false, t)
    | t => (false, t)
  let digits := t.takeWhile (·.isDigit)
  if digits.isEmpty || !(t.drop digits.length).all isSpace then wrong
  else
    let n : Int := digits.foldl (fun n c => n * 10 + ((c.toNat - 48 : Nat) : Int)) 0
    let n := if negative then -n else n
    if -0x8000000000000000 ≤ n && n < 0x8000000000000000 then .ok n else wrong

def wrong {α : Type} (word : Bytes) (message : String) : Except Bytes α :=
  .error (if word.isEmpty then bytesOf message else word ++ bytesOf (": " ++ message))

def compare (look : Look) (name : String) (a b : Bytes) : Except Bytes Bool :=
  let numbers := fun (test : Int → Int → Bool) => do
    let m ← number a
    let n ← number b
    pure (test m n)
  match name with
  | "=" => .ok (a = b)
  | "!=" => .ok (a ≠ b)
  | "<" => .ok (a < b)
  | ">" => .ok (b < a)
  | "-eq" => numbers (· = ·)
  | "-ne" => numbers (· ≠ ·)
  | "-ge" => numbers (· ≥ ·)
  | "-gt" => numbers (· > ·)
  | "-le" => numbers (· ≤ ·)
  | "-lt" => numbers (· < ·)
  | name => .ok (look.files name a b)

def ask (look : Look) (letter : Char) (a : Bytes) : Except Bytes Bool :=
  match letter with
  | 'z' => .ok a.isEmpty
  | 'n' => .ok (!a.isEmpty)
  | 't' => do
    let _ ← number a
    pure false
  | letter => .ok (look.file letter a)

mutual

/-- Conditions with `-o` between them. The words left begin with the last one that was read. -/
def anyOf (look : Look) (start : Front) : Nat → List Bytes → Except Bytes (Bool × List Bytes)
  | 0, ws => .ok (false, ws)
  | fuel + 1, ws => do
    let (a, ws) ← allOf look start fuel ws
    match front ws.tail with
    | .operator .either =>
      let rest := ws.drop 2
      let (b, ws) ← anyOf look (front rest) fuel rest
      pure (a || b, ws)
    | _ => pure (a, ws)
termination_by structural n => n

/-- Conditions with `-a` between them. -/
def allOf (look : Look) (start : Front) : Nat → List Bytes → Except Bytes (Bool × List Bytes)
  | 0, ws => .ok (false, ws)
  | fuel + 1, ws => do
    let (a, ws) ← negated look start fuel ws
    match front ws.tail with
    | .operator .both =>
      let rest := ws.drop 2
      let (b, ws) ← allOf look (front rest) fuel rest
      pure (a && b, ws)
    | _ => pure (a, ws)
termination_by structural n => n

def negated (look : Look) (start : Front) : Nat → List Bytes → Except Bytes (Bool × List Bytes)
  | 0, ws => .ok (false, ws)
  | fuel + 1, ws => do
    match start with
    | .operator .negation =>
      let next := front ws.tail
      let (a, ws) ← negated look next fuel (if next = .nothing then ws else ws.tail)
      pure (!a, ws)
    | start => single look start fuel ws
termination_by structural n => n

/-- A condition without an operator that joins others. -/
def single (look : Look) (start : Front) : Nat → List Bytes → Except Bytes (Bool × List Bytes)
  | 0, ws => .ok (false, ws)
  | fuel + 1, ws => do
    match start, ws with
    | .nothing, ws => pure (false, ws)
    | .operator .opening, _ :: ws =>
      let inner := front ws
      if inner = .operator .closing then pure (false, ws)
      else
        let (a, ws) ← anyOf look inner fuel ws
        if front ws.tail = .operator .closing then pure (a, ws.tail)
        else wrong [] "closing paren expected"
    | .operator (.unary c), w :: ws =>
      match ws with
      | [] => wrong w "argument expected"
      | a :: _ => pure (← ask look c a, ws)
    | _, w :: ws =>
      match front ws, ws with
      | .operator (.binary name), op :: rest =>
        match rest with
        | [] => wrong op "argument expected"
        | b :: _ => pure (← compare look name w b, rest)
      | _, _ => pure (!w.isEmpty, w :: ws)
    | _, [] => pure (false, [])
termination_by structural n => n

end

/-- A condition from what stands at the front on; what is left behind it has to be one word at
most. -/
def whole (look : Look) (start : Front) (ws : List Bytes) : Except Bytes Bool := do
  let (a, rest) ← anyOf look start (4 * ws.length + 4) ws
  match rest with
  | w :: _ :: _ => wrong w "unexpected operator"
  | _ => pure a

/-- Whether a condition holds. Three words with an operator in the middle are read as such; three or
four words may be negated or stand in brackets. -/
def holds (look : Look) : List Bytes → Except Bytes Bool
  | [] => .ok false
  | [a, b, c] =>
    if (binary? b).isSome then whole look .operand [a, b, c]
    else if a = ['('] && c = [')'] then whole look (front [b]) [b]
    else if a = ['!'] then do
      let r ← whole look (front [b, c]) [b, c]
      pure (!r)
    else whole look (front [a, b, c]) [a, b, c]
  | [a, b, c, d] =>
    if a = ['('] && d = [')'] then whole look (front [b, c]) [b, c]
    else if a = ['!'] then do
      let r ← holds look [b, c, d]
      pure (!r)
    else whole look (front [a, b, c, d]) [a, b, c, d]
  | ws => whole look (front ws) ws

end Condition

end Remedy.Shell
