import Remedy.Shell.Syntax

/-!
# Arithmetic of the shell

Signed numbers of 64 bits, variables, and the operators of C without those that count up or down.
-/

namespace Remedy.Shell

inductive Arith where
  | number (n : Int)
  | var (name : Bytes)
  | unary (op : Char) (e : Arith)
  | binary (op : String) (a b : Arith)
  | choice (test yes no : Arith)
  /-- Sets a variable to a value, or to what an operator makes of its old one. -/
  | assign (name : Bytes) (op : Option String) (e : Arith)
deriving Inhabited

namespace Arith

/-- A number brought into 64 bits. -/
def wrap (n : Int) : Int := Int.bmod n 0x10000000000000000

/-! ## Numbers -/

def digit? (c : Char) : Option Nat :=
  if c.isDigit then some (c.toNat - 48)
  else if c.isAlpha then some (c.toLower.toNat - 87)
  else none

/-- The number at the front of a text, in the base that its first characters tell. -/
def constant? (s : Bytes) : Option (Int × Bytes) :=
  let read := fun (base : Nat) (s : Bytes) =>
    let digits := s.takeWhile fun c => (digit? c).any (· < base)
    let n := digits.foldl (fun n c => n * base + (digit? c).getD 0) 0
    (min (n : Int) 0x7fffffffffffffff, s.drop digits.length, digits.isEmpty)
  match s with
  | '0' :: x :: t =>
    if x = 'x' || x = 'X' then
      let (n, rest, none?) := read 16 t
      if none? then none else some (n, rest)
    else
      let (n, rest, _) := read 8 (x :: t)
      some (n, rest)
  | _ =>
    let (n, rest, none?) := read 10 s
    if none? then none else some (n, rest)

def isBlank (c : Char) : Bool := c = ' ' || c = '\t' || c = '\n'

/-- The number that the value of a variable is; an empty one is zero. -/
def ofValue? (value : Bytes) : Option Int :=
  let s := value.dropWhile isBlank
  if s.isEmpty then some 0
  else
    let (negative, s) := match s with
      | '-' :: s => (true, s)
      | '+' :: s => (false, s)
      | s => (false, s)
    match constant? s with
    | some (n, rest) =>
      if rest.all isBlank then some (if negative then -n else n) else none
    | none => none

/-! ## Reading -/

/-- The binary operators with their ranks, longer ones first; a higher rank binds tighter. -/
def operators : List (String × Nat) :=
  [("||", 1), ("&&", 2), ("==", 6), ("!=", 6), ("<=", 7), (">=", 7), ("<<", 8), (">>", 8),
    ("|", 3), ("^", 4), ("&", 5), ("<", 7), (">", 7), ("+", 9), ("-", 9), ("*", 10), ("/", 10),
    ("%", 10)]

/-- The operators that an equals sign may follow. -/
def updates : List String := ["<<", ">>", "+", "-", "*", "/", "%", "&", "^", "|"]

def assignment? (s : Bytes) : Option (Option String × Bytes) :=
  match s with
  | '=' :: '=' :: _ => none
  | '=' :: rest => some (none, rest)
  | _ =>
    (updates.find? fun op => (op.toList ++ ['=']).isPrefixOf s).map fun op =>
      (some op, s.drop (op.length + 1))

def operator? (s : Bytes) : Option (String × Nat) :=
  if (assignment? s).isSome then none
  else operators.find? fun (op, _) => op.toList.isPrefixOf s

mutual

def operand : Nat → Bytes → Except String (Arith × Bytes)
  | 0, _ => .error "expecting primary"
  | fuel + 1, s =>
    match s.dropWhile isBlank with
    | '(' :: s => do
      let (e, rest) ← whole fuel s
      match rest.dropWhile isBlank with
      | ')' :: rest => pure (e, rest)
      | _ => .error "expecting ')'"
    | c :: s =>
      if c = '-' || c = '+' || c = '!' || c = '~' then do
        let (e, rest) ← operand fuel s
        pure (.unary c e, rest)
      else if isNameStart c then
        let name := (c :: s).takeWhile isNameChar
        .ok (.var name, (c :: s).drop name.length)
      else
        match constant? (c :: s) with
        | some (n, rest) => .ok (.number n, rest)
        | none => .error "expecting primary"
    | [] => .error "expecting primary"
termination_by structural n => n

/-- Operands with operators of at least some rank between them. -/
def chain (rank : Nat) : Nat → Bytes → Except String (Arith × Bytes)
  | 0, _ => .error "expecting primary"
  | fuel + 1, s => do
    let (e, rest) ← operand fuel s
    chainRest rank e fuel rest
termination_by structural n => n

def chainRest (rank : Nat) (e : Arith) : Nat → Bytes → Except String (Arith × Bytes)
  | 0, s => .ok (e, s)
  | fuel + 1, s =>
    let s := s.dropWhile isBlank
    match operator? s with
    | some (op, r) =>
      if r < rank then .ok (e, s)
      else do
        let (f, rest) ← chain (r + 1) fuel (s.drop op.length)
        chainRest rank (.binary op e f) fuel rest
    | none => .ok (e, s)
termination_by structural n => n

/-- A whole expression: an assignment, a choice or a chain. -/
def whole : Nat → Bytes → Except String (Arith × Bytes)
  | 0, _ => .error "expecting primary"
  | fuel + 1, s => do
    let (e, rest) ← chain 1 fuel s
    let rest := rest.dropWhile isBlank
    match e, assignment? rest with
    | .var name, some (op, rest) =>
      let (f, rest) ← whole fuel rest
      pure (.assign name op f, rest)
    | e, _ =>
      match rest with
      | '?' :: rest => do
        let (yes, rest) ← whole fuel rest
        match rest.dropWhile isBlank with
        | ':' :: rest => do
          let (no, rest) ← whole fuel rest
          pure (.choice e yes no, rest)
        | _ => .error "expecting ':'"
      | rest => pure (e, rest)
termination_by structural n => n

end

def parse (s : Bytes) : Except String Arith := do
  let (e, rest) ← whole (4 * s.length + 4) s
  if rest.all isBlank then pure e else .error "expecting EOF"

/-! ## Values -/

def ofBool (b : Bool) : Int := if b then 1 else 0

/-- Two numbers of 64 bits, bit by bit. -/
def bitwise (f : BitVec 64 → BitVec 64 → BitVec 64) (a b : Int) : Int :=
  (f (BitVec.ofInt 64 a) (BitVec.ofInt 64 b)).toInt

def apply (op : String) (a b : Int) : Except String Int :=
  match op with
  | "+" => .ok (wrap (a + b))
  | "-" => .ok (wrap (a - b))
  | "*" => .ok (wrap (a * b))
  | "/" => if b = 0 then .error "division by zero" else .ok (wrap (a.tdiv b))
  | "%" => if b = 0 then .error "division by zero" else .ok (a.tmod b)
  | "<<" => .ok (bitwise (fun x _ => x <<< (b % 64).toNat) a b)
  | ">>" => .ok (bitwise (fun x _ => x.sshiftRight (b % 64).toNat) a b)
  | "&" => .ok (bitwise (· &&& ·) a b)
  | "^" => .ok (bitwise (· ^^^ ·) a b)
  | "|" => .ok (bitwise (· ||| ·) a b)
  | "==" => .ok (ofBool (a = b))
  | "!=" => .ok (ofBool (a ≠ b))
  | "<" => .ok (ofBool (a < b))
  | "<=" => .ok (ofBool (a ≤ b))
  | ">" => .ok (ofBool (b < a))
  | _ => .ok (ofBool (b ≤ a))

/-- The variables that an expression has set, the last one first. -/
abbrev Assigned := List (Bytes × Int)

/-- Why an expression has no value. -/
inductive Fault where
  /-- Something is wrong with the expression. -/
  | wrong (reason : String)
  /-- The value of a variable is no number. -/
  | notNumber (value : Bytes)

def eval (look : Bytes → Bytes) (assigned : Assigned) :
    Arith → Except Fault (Int × Assigned)
  | .number n => .ok (n, assigned)
  | .var name =>
    match assigned.lookup name with
    | some n => .ok (n, assigned)
    | none =>
      match ofValue? (look name) with
      | some n => .ok (n, assigned)
      | none => .error (.notNumber (look name))
  | .unary op e => do
    let (n, assigned) ← eval look assigned e
    let value := match op with
      | '-' => wrap (-n)
      | '!' => ofBool (n = 0)
      | '~' => -n - 1
      | _ => n
    pure (value, assigned)
  | .binary "||" a b => do
    let (n, assigned) ← eval look assigned a
    if n ≠ 0 then pure (1, assigned)
    else
      let (m, assigned) ← eval look assigned b
      pure (ofBool (m ≠ 0), assigned)
  | .binary "&&" a b => do
    let (n, assigned) ← eval look assigned a
    if n = 0 then pure (0, assigned)
    else
      let (m, assigned) ← eval look assigned b
      pure (ofBool (m ≠ 0), assigned)
  | .binary op a b => do
    let (n, assigned) ← eval look assigned a
    let (m, assigned) ← eval look assigned b
    match apply op n m with
    | .ok v => pure (v, assigned)
    | .error reason => .error (.wrong reason)
  | .choice test yes no => do
    let (n, assigned) ← eval look assigned test
    if n ≠ 0 then eval look assigned yes else eval look assigned no
  | .assign name op e => do
    let (m, assigned) ← eval look assigned e
    match op with
    | none => pure (m, (name, m) :: assigned)
    | some op => do
      let (n, assigned) ← eval look assigned (.var name)
      match apply op n m with
      | .ok v => pure (v, (name, v) :: assigned)
      | .error reason => .error (.wrong reason)

end Arith

end Remedy.Shell
