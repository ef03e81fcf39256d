import Remedy.Decimal.Shortest
import Remedy.Json.Value

/-!
# Reading JSON

Reading is strict: no trailing commas, no leading zeros, no raw controls in strings, surrogates only
in pairs, at most 127 levels of nesting. A failed reading names its cause and the place, counted in
bytes of UTF-8. An integer that fits 64 bits stays an integer; any other number is the significand
(as many leading digits as fit 64 bits) as a double, scaled once by a power of ten.
-/

namespace Remedy.Json

inductive Cause where
  | endInValue | endInString | endInArray | endInObject
  | expectedValue | expectedWord | expectedColon | expectedArrayEnd | expectedObjectEnd
  | keyNotString | trailingComma | trailingText
  | badNumber | numberRange
  | badEscape | rawControl | loneSurrogate | cutSurrogate
  | tooDeep
deriving Repr, DecidableEq

def Cause.message : Cause → String
  | .endInValue => "EOF while parsing a value"
  | .endInString => "EOF while parsing a string"
  | .endInArray => "EOF while parsing a list"
  | .endInObject => "EOF while parsing an object"
  | .expectedValue => "expected value"
  | .expectedWord => "expected ident"
  | .expectedColon => "expected \x60:\x60"
  | .expectedArrayEnd => "expected \x60,\x60 or \x60]\x60"
  | .expectedObjectEnd => "expected \x60,\x60 or \x60\x7d\x60"
  | .keyNotString => "key must be a string"
  | .trailingComma => "trailing comma"
  | .trailingText => "trailing characters"
  | .badNumber => "invalid number"
  | .numberRange => "number out of range"
  | .badEscape => "invalid escape"
  | .rawControl => "control character (\\u0000-\\u001F) found while parsing a string"
  | .loneSurrogate => "lone leading surrogate in hex escape"
  | .cutSurrogate => "unexpected end of hex escape"
  | .tooDeep => "recursion limit exceeded"

/-- A failed reading: its cause and the number of bytes behind the place of the failure. -/
structure Fault where
  cause : Cause
  left : Nat
deriving Repr, DecidableEq

def byteSize (s : List Char) : Nat := s.foldr (fun c n => c.utf8Size + n) 0

/-- A failure right before the rest of the text. -/
def failBefore {α : Type} (cause : Cause) (rest : List Char) : Except Fault α :=
  .error ⟨cause, byteSize rest⟩

/-- A failure at the first byte of the rest of the text, or at its end. -/
def failAt {α : Type} (cause : Cause) (rest : List Char) : Except Fault α :=
  .error ⟨cause, byteSize rest - 1⟩

def isSpace (c : Char) : Bool := c = ' ' || c = '\n' || c = '\t' || c = '\r'

def skipSpace (s : List Char) : List Char := s.dropWhile isSpace

/-! ## Words and numbers -/

def readWord (value : Json) : (word rest : List Char) → Except Fault (Json × List Char)
  | [], s => .ok (value, s)
  | _ :: _, [] => failBefore .endInValue []
  | w :: word, c :: s => if c = w then readWord value word s else failAt .expectedWord (c :: s)

/-- Reads digits behind the number `n` while the result stays below `limit`: the number, how many
digits were read, and the rest. -/
def readDigits (limit n count : Nat) : List Char → Nat × Nat × List Char
  | [] => (n, count, [])
  | c :: s =>
    let next := 10 * n + (c.toNat - 48)
    if c.isDigit && next < limit then readDigits limit next (count + 1) s else (n, count, c :: s)

/-- Skips digits: how many there were, and the rest. -/
def skipDigits (s : List Char) : Nat × List Char :=
  ((s.takeWhile Char.isDigit).length, s.dropWhile Char.isDigit)

/-- A double scaled by a power of ten; nothing if it leaves the range of doubles. A very small
result is reached in steps of the largest power, at most `fuel` of them. -/
def scale : (fuel : Nat) → Float → Int → Option Float
  | fuel, x, e =>
    if e.natAbs ≤ 308 then
      let power := Float.ofScientific 1 false e.natAbs
      if 0 ≤ e then
        let y := x * power
        if y.isInf then none else some y
      else some (x / power)
    else if x == 0.0 then some x
    else if 0 ≤ e then none
    else
      match fuel with
      | 0 => some 0.0
      | fuel + 1 => scale fuel (x / Float.ofScientific 1 false 308) (e + 308)

def scaled (negative : Bool) (n : Nat) (e : Int) (rest : List Char) :
    Except Fault (Number × List Char) :=
  match scale 4 (Float.ofNat n) e with
  | some x => .ok (.float (if negative then -x else x).toBits, rest)
  | none => failBefore .numberRange rest

/-- One more than the largest unsigned 64-bit number. -/
def limit64 : Nat := 0x10000000000000000

/-- One more than the largest exponent that is read. -/
def exponentLimit : Nat := 0x80000000

def readExponentDigits (negative : Bool) (n : Nat) (e : Int) (minus : Bool) (s : List Char) :
    Except Fault (Number × List Char) :=
  match readDigits exponentLimit 0 0 s with
  | (_, 0, []) => failBefore .endInValue []
  | (_, 0, rest) => failAt .badNumber rest
  | (x, _, rest) =>
    match skipDigits rest with
    | (0, _) => scaled negative n (if minus then e - x else e + x) rest
    | (_, after) =>
      if n ≠ 0 && !minus then failBefore .numberRange (rest.drop 1)
      else .ok (.float (if negative then -0.0 else (0.0 : Float)).toBits, after)

def readExponent (negative : Bool) (n : Nat) (e : Int) :
    List Char → Except Fault (Number × List Char)
  | '+' :: s => readExponentDigits negative n e false s
  | '-' :: s => readExponentDigits negative n e true s
  | s => readExponentDigits negative n e false s

/-- Reads what may follow the digits of a fraction or of a long integer. -/
def readScale (negative : Bool) (n : Nat) (e : Int) :
    List Char → Except Fault (Number × List Char)
  | 'e' :: s => readExponent negative n e s
  | 'E' :: s => readExponent negative n e s
  | s => scaled negative n e s

def readFraction (negative : Bool) (n : Nat) (e : Int) (s : List Char) :
    Except Fault (Number × List Char) :=
  match readDigits limit64 n 0 s with
  | (n, count, rest) =>
    match skipDigits rest with
    | (0, _) =>
      if count = 0 then
        if rest.isEmpty then failBefore .endInValue [] else failAt .badNumber rest
      else readScale negative n (e - count) rest
    | (_, after) => readScale negative n (e - count) after

/-- Reads what may follow the integer digits of a number. -/
def readTail (negative : Bool) (n : Nat) : List Char → Except Fault (Number × List Char)
  | '.' :: s => readFraction negative n 0 s
  | 'e' :: s => readExponent negative n 0 s
  | 'E' :: s => readExponent negative n 0 s
  | s =>
    if !negative then .ok (.int n, s)
    else if 0 < n && n ≤ 0x8000000000000000 then .ok (.int (-n), s)
    else .ok (.float (-Float.ofNat n).toBits, s)

/-- Reads a number behind its sign. -/
def readNumber (negative : Bool) : List Char → Except Fault (Number × List Char)
  | [] => failBefore .endInValue []
  | '0' :: s =>
    if (s.head?.map Char.isDigit).getD false then failAt .badNumber s else readTail negative 0 s
  | c :: s =>
    if c.isDigit then
      match readDigits limit64 0 0 (c :: s) with
      | (n, _, rest) =>
        match skipDigits rest with
        | (0, _) => readTail negative n rest
        | (dropped, '.' :: after) => readFraction negative n dropped after
        | (dropped, after) => readScale negative n dropped after
    else failAt .badNumber (c :: s)

/-! ## Strings -/

/-- The character behind a backslash, for the escapes of one letter. -/
def letterEscape? : Char → Option Char
  | '"' => some '"'
  | '\\' => some '\\'
  | '/' => some '/'
  | 'b' => some (Char.ofNat 8)
  | 'f' => some (Char.ofNat 12)
  | 'n' => some '\n'
  | 'r' => some '\r'
  | 't' => some '\t'
  | _ => none

def hexValue? (c : Char) : Option Nat :=
  if c.isDigit then some (c.toNat - 48)
  else if 'a' ≤ c && c ≤ 'f' then some (c.toNat - 87)
  else if 'A' ≤ c && c ≤ 'F' then some (c.toNat - 55)
  else none

def hexValue4? (a b c d : Char) : Option Nat := do
  let a ← hexValue? a
  let b ← hexValue? b
  let c ← hexValue? c
  let d ← hexValue? d
  pure (((a * 16 + b) * 16 + c) * 16 + d)

def isHighSurrogate (n : Nat) : Bool := 0xD800 ≤ n && n < 0xDC00

def isLowSurrogate (n : Nat) : Bool := 0xDC00 ≤ n && n < 0xE000

/-- The failure of four hexadecimal digits that are none, or that are cut off by the end. -/
def failHex {α : Type} (rest : List Char) : Except Fault α :=
  if byteSize rest < 4 then failBefore .endInString []
  else .error ⟨.badEscape, byteSize rest - 4⟩

def consChar (c : Char) (r : Except Fault (List Char × List Char)) :
    Except Fault (List Char × List Char) :=
  r.map fun (text, rest) => (c :: text, rest)

def readString : List Char → Except Fault (List Char × List Char)
  | [] => failBefore .endInString []
  | '"' :: s => .ok ([], s)
  | ['\\'] => failBefore .endInString []
  | '\\' :: 'u' :: s =>
    match s with
    | a :: b :: c :: d :: s =>
      match hexValue4? a b c d with
      | none => failHex (a :: b :: c :: d :: s)
      | some n =>
        if isLowSurrogate n then failBefore .loneSurrogate s
        else if isHighSurrogate n then
          match s with
          | '\\' :: 'u' :: e :: f :: g :: h :: s =>
            match hexValue4? e f g h with
            | none => failHex (e :: f :: g :: h :: s)
            | some m =>
              if isLowSurrogate m then
                consChar (Char.ofNat ((n - 0xD800) * 0x400 + (m - 0xDC00) + 0x10000)) (readString s)
              else failBefore .loneSurrogate s
          | '\\' :: 'u' :: s => failHex s
          | '\\' :: s => if s.isEmpty then failBefore .endInString [] else failAt .cutSurrogate s
          | s => if s.isEmpty then failBefore .endInString [] else failAt .cutSurrogate s
        else consChar (Char.ofNat n) (readString s)
    | s => failHex s
  | '\\' :: c :: s =>
    match letterEscape? c with
    | some e => consChar e (readString s)
    | none => failAt .badEscape (c :: s)
  | c :: s => if c.toNat < 32 then failAt .rawControl (c :: s) else consChar c (readString s)

/-! ## Values -/

/-- Reads the items of an array and its closing bracket; every item and its comma take one of
`fuel`. -/
def readItems (readItem : List Char → Except Fault (Json × List Char)) (first : Bool) :
    (fuel : Nat) → List Char → Except Fault (List Json × List Char)
  | 0, _ => failBefore .endInArray []
  | fuel + 1, s =>
    let item := fun (s : List Char) => do
      let (v, rest) ← readItem s
      let (vs, rest) ← readItems readItem false fuel rest
      pure (v :: vs, rest)
    match skipSpace s with
    | [] => failBefore .endInArray []
    | ']' :: s => .ok ([], s)
    | c :: s =>
      if first then item (c :: s)
      else if c = ',' then
        match skipSpace s with
        | [] => failBefore .endInValue []
        | ']' :: s => failAt .trailingComma (']' :: s)
        | s => item s
      else failAt .expectedArrayEnd (c :: s)

/-- Reads a key behind its opening quote, the colon and the value. -/
def readField (readItem : List Char → Except Fault (Json × List Char)) (s : List Char) :
    Except Fault ((String × Json) × List Char) := do
  let (key, rest) ← readString s
  match skipSpace rest with
  | [] => failBefore .endInObject []
  | ':' :: rest =>
    let (v, rest) ← readItem rest
    pure ((String.ofList key, v), rest)
  | rest => failAt .expectedColon rest

/-- Reads the fields of an object and its closing brace; every field and its comma take one of
`fuel`. -/
def readFields (readItem : List Char → Except Fault (Json × List Char)) (first : Bool) :
    (fuel : Nat) → List Char → Except Fault (List (String × Json) × List Char)
  | 0, _ => failBefore .endInObject []
  | fuel + 1, s =>
    let field := fun (s : List Char) => do
      let (kv, rest) ← readField readItem s
      let (kvs, rest) ← readFields readItem false fuel rest
      pure (kv :: kvs, rest)
    match skipSpace s with
    | [] => failBefore .endInObject []
    | '}' :: s => .ok ([], s)
    | c :: s =>
      if first then if c = '"' then field s else failAt .keyNotString (c :: s)
      else if c = ',' then
        match skipSpace s with
        | [] => failBefore .endInValue []
        | '"' :: s => field s
        | '}' :: s => failAt .trailingComma ('}' :: s)
        | s => failAt .keyNotString s
      else failAt .expectedObjectEnd (c :: s)

/-- Reads a value that nests at most `depth` arrays and objects. -/
def readValue : (depth : Nat) → List Char → Except Fault (Json × List Char)
  | depth, s =>
    match skipSpace s with
    | [] => failBefore .endInValue []
    | 'n' :: s => readWord .null ['u', 'l', 'l'] s
    | 't' :: s => readWord (.bool true) ['r', 'u', 'e'] s
    | 'f' :: s => readWord (.bool false) ['a', 'l', 's', 'e'] s
    | '"' :: s => (readString s).map fun (text, rest) => (.str (String.ofList text), rest)
    | '-' :: s => (readNumber true s).map fun (n, rest) => (.num n, rest)
    | '[' :: s =>
      match depth with
      | 0 => failAt .tooDeep ('[' :: s)
      | depth + 1 =>
        (readItems (readValue depth) true (s.length + 1) s).map fun (vs, rest) => (.arr vs, rest)
    | '{' :: s =>
      match depth with
      | 0 => failAt .tooDeep ('{' :: s)
      | depth + 1 =>
        (readFields (readValue depth) true (s.length + 1) s).map fun (kvs, rest) =>
          (ofFields kvs, rest)
    | c :: s =>
      if c.isDigit then (readNumber false (c :: s)).map fun (n, rest) => (.num n, rest)
      else failAt .expectedValue (c :: s)

def maxDepth : Nat := 127

def parse (s : String) : Except Fault Json := do
  let (v, rest) ← readValue maxDepth s.toList
  match skipSpace rest with
  | [] => pure v
  | rest => failAt .trailingText rest

/-- Line and column of a failure in the text that failed: the column counts bytes. -/
def Fault.position (f : Fault) (s : String) : Nat × Nat :=
  let read := s.toUTF8.toList.take (s.utf8ByteSize - f.left)
  (1 + read.count 10, (read.reverse.takeWhile (· ≠ 10)).length)

def Fault.message (f : Fault) (s : String) : String :=
  let (line, column) := f.position s
  f.cause.message ++ " at line " ++ toString line ++ " column " ++ toString column

end Remedy.Json
