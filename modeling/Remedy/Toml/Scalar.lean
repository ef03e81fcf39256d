import Remedy.Json.Parser

/-!
# Scalars of a TOML document

Strings in four forms, numbers with underscores between their digits, truth values, and dates and
times, which are kept as an object of their text.
-/

namespace Remedy.Toml

def isSpace (c : Char) : Bool := c = ' ' || c = '\t'

/-- A character of a comment, or of a string in which nothing is escaped. -/
def isText (c : Char) : Bool := c = '\t' || (32 ≤ c.toNat && c.toNat ≠ 127)

def isCommentText (c : Char) : Bool := c = '\t' || 32 ≤ c.toNat

def skipSpace (s : List Char) : List Char := s.dropWhile isSpace

def afterLineEnd? : List Char → Option (List Char)
  | '\n' :: s => some s
  | '\r' :: '\n' :: s => some s
  | _ => none

/-- Skips spaces, line ends and comments; `comment` says that a comment has begun. -/
def skipFree : (comment : Bool) → List Char → List Char
  | _, '\n' :: s => skipFree false s
  | _, '\r' :: '\n' :: s => skipFree false s
  | false, '#' :: s => skipFree true s
  | comment, c :: s =>
    if (if comment then isCommentText c else isSpace c) then skipFree comment s else c :: s
  | _, [] => []

def skipBlanks : List Char → List Char
  | '\n' :: s => skipBlanks s
  | '\r' :: '\n' :: s => skipBlanks s
  | c :: s => if isSpace c then skipBlanks s else c :: s
  | [] => []

def consChar (c : Char) (r : Option (List Char × List Char)) : Option (List Char × List Char) :=
  r.map fun (text, rest) => (c :: text, rest)

/-! ## Strings -/

def scalar? (n : Nat) : Option Char := if n.isValidChar then some (Char.ofNat n) else none

def hex? (digits : List Char) : Option Nat :=
  digits.foldlM (fun n c => (Json.hexValue? c).map (n * 16 + ·)) 0

/-- The character behind a backslash and the number of characters that stand for it. -/
def escape? : List Char → Option (Char × Nat)
  | 'u' :: s => do
    if s.length < 4 then failure
    pure (← scalar? (← hex? (s.take 4)), 5)
  | 'U' :: s => do
    if s.length < 8 then failure
    pure (← scalar? (← hex? (s.take 8)), 9)
  | '/' :: _ => none
  | c :: _ => (Json.letterEscape? c).map (·, 1)
  | [] => none

/-- The rest of a string with escapes; the first `skip` characters belong to one that is read
already. -/
def basic : (skip : Nat) → List Char → Option (List Char × List Char)
  | _, [] => none
  | skip + 1, _ :: s => basic skip s
  | 0, '"' :: s => some ([], s)
  | 0, '\\' :: s => do
    let (c, length) ← escape? s
    consChar c (basic length s)
  | 0, c :: s => if isText c then consChar c (basic 0 s) else none

/-- The rest of a string without escapes. -/
def literal : List Char → Option (List Char × List Char)
  | [] => none
  | '\'' :: s => some ([], s)
  | c :: s => if isText c then consChar c (literal s) else none

/-- The end of a string of several lines: three quotes, and up to two before them that belong to
the string. -/
def closing? (quote : Char) (s : List Char) : Option (List Char × List Char) :=
  let count := (s.takeWhile (· = quote)).length
  if 3 ≤ count then
    some (List.replicate (min count 5 - 3) quote, s.drop (min count 5))
  else none

/-- The number of characters of an escaped line end with the blanks after it. -/
def foldedLength? (s : List Char) : Option Nat :=
  match afterLineEnd? (skipSpace s) with
  | none => none
  | some rest =>
    some (s.length - (skipBlanks rest).length)

def multiline (quote : Char) (escapes : Bool) : (skip : Nat) → List Char → Option (List Char × List Char)
  | _, [] => none
  | skip + 1, _ :: s => multiline quote escapes skip s
  | 0, c :: s =>
    if c = quote then
      match closing? quote (c :: s) with
      | some closed => some closed
      | none => consChar c (multiline quote escapes 0 s)
    else if c = '\\' && escapes then
      match foldedLength? s with
      | some length => multiline quote escapes length s
      | none => do
        let (e, length) ← escape? s
        consChar e (multiline quote escapes length s)
    else if c = '\n' then consChar c (multiline quote escapes 0 s)
    else if c = '\r' then
      match s with
      | '\n' :: _ => multiline quote escapes 0 s
      | _ => none
    else if isText c then consChar c (multiline quote escapes 0 s)
    else none

/-- A string of several lines behind its opening quotes; a line end right there is skipped. -/
def multilineFrom (quote : Char) (escapes : Bool) (s : List Char) : Option (List Char × List Char) :=
  multiline quote escapes 0 ((afterLineEnd? s).getD s)

def lineString? : List Char → Option (String × List Char)
  | '"' :: s => (basic 0 s).map fun (text, rest) => (String.ofList text, rest)
  | '\'' :: s => (literal s).map fun (text, rest) => (String.ofList text, rest)
  | _ => none

def string? : List Char → Option (String × List Char)
  | '"' :: '"' :: '"' :: s =>
    (multilineFrom '"' true s).map fun (text, rest) => (String.ofList text, rest)
  | '\'' :: '\'' :: '\'' :: s =>
    (multilineFrom '\'' false s).map fun (text, rest) => (String.ofList text, rest)
  | s => lineString? s

/-! ## Numbers -/

/-- Further digits, an underscore before any of them. -/
def moreDigits (isDigit : Char → Bool) : List Char → List Char × List Char
  | '_' :: c :: s =>
    if isDigit c then
      let (digits, rest) := moreDigits isDigit s
      (c :: digits, rest)
    else ([], '_' :: c :: s)
  | c :: s =>
    if isDigit c then
      let (digits, rest) := moreDigits isDigit s
      (c :: digits, rest)
    else ([], c :: s)
  | [] => ([], [])

/-- Digits, the first one without an underscore. -/
def digits? (isDigit : Char → Bool) : List Char → Option (List Char × List Char)
  | c :: s =>
    if isDigit c then
      let (digits, rest) := moreDigits isDigit s
      some (c :: digits, rest)
    else none
  | [] => none

def number (base : Nat) (digits : List Char) : Nat :=
  digits.foldl (fun n c => n * base + (Json.hexValue? c).getD 0) 0

/-- An integer, if it fits 64 bits. -/
def integer? (n : Int) : Option Json :=
  if -0x8000000000000000 ≤ n ∧ n < 0x8000000000000000 then some (.ofInt n) else none

def isHexDigit (c : Char) : Bool := (Json.hexValue? c).isSome

def sign : List Char → Bool × List Char
  | '+' :: s => (false, s)
  | '-' :: s => (true, s)
  | s => (false, s)

/-- The digits before the point: no zero before other digits. -/
def whole? : List Char → Option (List Char × List Char)
  | '0' :: s => some (['0'], s)
  | s => digits? Char.isDigit s

/-- The exponent of a number; zero if none is written. -/
def exponent? (s : List Char) : Option (Int × List Char) :=
  match s with
  | e :: s =>
    if e = 'e' || e = 'E' then do
      let (negative, s) := sign s
      let (digits, rest) ← digits? Char.isDigit s
      let n : Int := number 10 digits
      pure (if negative then -n else n, rest)
    else some (0, e :: s)
  | [] => some (0, [])

/-- The number with some digits, the last `places` of them behind the point, times a power of ten.
One that is too great is none, unless it is negative. -/
def float? (negative : Bool) (digits : List Char) (places : Nat) (exponent : Int) : Option Json :=
  let n := number 10 digits
  let magnitude : Int := (toString n).length + exponent - places
  let value : Float :=
    if n = 0 || magnitude < -400 then 0
    else if 400 < magnitude then 1 / 0
    else
      let shift := exponent - places
      if 0 ≤ shift then Float.ofScientific (n * Nat.pow 10 shift.toNat) false 0
      else Float.ofScientific n true (-shift).toNat
  if negative then some (.num (.float (-value).toBits))
  else if value.isInf then none
  else some (.num (.float value.toBits))

/-- A number in base ten, with a point or an exponent or without. -/
def decimal? (s : List Char) : Option (Json × List Char) := do
  let (negative, s) := sign s
  let (digits, rest) ← whole? s
  match rest with
  | '.' :: s => do
    let (fraction, rest) ← digits? Char.isDigit s
    let (exponent, rest) ← exponent? rest
    pure (← float? negative (digits ++ fraction) fraction.length exponent, rest)
  | e :: _ =>
    if e = 'e' || e = 'E' then do
      let (exponent, rest) ← exponent? rest
      pure (← float? negative digits 0 exponent, rest)
    else
      let n : Int := number 10 digits
      pure (← integer? (if negative then -n else n), rest)
  | [] =>
    let n : Int := number 10 digits
    pure (← integer? (if negative then -n else n), rest)

/-- A number in a base that is written before it. -/
def based? (base : Nat) (isDigit : Char → Bool) (s : List Char) : Option (Json × List Char) := do
  let (digits, rest) ← digits? isDigit s
  pure (← integer? (number base digits), rest)

/-- A number that is none or infinite. -/
def special? (s : List Char) : Option (Json × List Char) :=
  let (negative, s) := sign s
  let mark := fun (x : Float) => Json.num (.float (if negative then -x else x).toBits)
  match s with
  | 'i' :: 'n' :: 'f' :: s => some (mark (1 / 0), s)
  | 'n' :: 'a' :: 'n' :: s => some (mark (0 / 0), s)
  | _ => none

/-! ## Dates and times -/

/-- A number of exactly so many digits, from `low` to `high`. -/
def field? (width low high : Nat) (s : List Char) : Option (Nat × List Char) :=
  let digits := s.take width
  if digits.length = width && digits.all Char.isDigit then
    let n := number 10 digits
    if low ≤ n && n ≤ high then some (n, s.drop width) else none
  else none

def after? (c : Char) : List Char → Option (List Char)
  | d :: s => if d = c then some s else none
  | [] => none

def daysOf (year month : Nat) : Nat :=
  if month = 2 then
    if year % 4 = 0 && (year % 100 ≠ 0 || year % 400 = 0) then 29 else 28
  else if month ∈ [4, 6, 9, 11] then 30
  else 31

def afterDate? (s : List Char) : Option (List Char) := do
  let (year, s) ← field? 4 0 9999 s
  let (month, s) ← field? 2 1 12 (← after? '-' s)
  let (_, s) ← field? 2 1 (daysOf year month) (← after? '-' s)
  pure s

def afterTime? (s : List Char) : Option (List Char) := do
  let (_, s) ← field? 2 0 23 s
  let (_, s) ← field? 2 0 59 (← after? ':' s)
  let (_, s) ← field? 2 0 60 (← after? ':' s)
  match s with
  | '.' :: s =>
    let digits := s.takeWhile Char.isDigit
    if digits.isEmpty then none else pure (s.drop digits.length)
  | s => pure s

/-- The text after the distance from world time, if one is written. -/
def afterOffset (s : List Char) : Option (List Char) :=
  match s with
  | 'Z' :: s | 'z' :: s => some s
  | '+' :: s | '-' :: s => do
    let (_, s) ← field? 2 0 23 s
    let (_, s) ← field? 2 0 59 (← after? ':' s)
    pure s
  | s => some s

/-- The text after a date, a time, or a date with a time. -/
def afterMoment? (s : List Char) : Option (List Char) :=
  match afterDate? s with
  | none => afterTime? s
  | some rest =>
    match rest with
    | c :: t =>
      if c = 'T' || c = 't' || c = ' ' then
        match afterTime? t with
        | none => if c = ' ' then some rest else none
        | some t => afterOffset t
      else some rest
    | [] => some rest

def momentKey : String := "$__toml_private_datetime"

def moment? (s : List Char) : Option (Json × List Char) := do
  let rest ← afterMoment? s
  let text := String.ofList (s.take (s.length - rest.length))
  pure (.ofFields [(momentKey, .str text)], rest)

/-- Whether a text starts like a date or time: with two or four digits and a hyphen or colon. -/
def looksLikeMoment (s : List Char) : Bool :=
  let digits := s.takeWhile Char.isDigit
  match s.drop digits.length with
  | c :: _ => (digits.length = 4 && c = '-') || (digits.length = 2 && c = ':')
  | [] => false

/-! ## All of them -/

/-- A value that holds no others. -/
def scalarValue? (s : List Char) : Option (Json × List Char) :=
  match s with
  | '"' :: _ | '\'' :: _ => (string? s).map fun (text, rest) => (.str text, rest)
  | 't' :: 'r' :: 'u' :: 'e' :: rest => some (.bool true, rest)
  | 'f' :: 'a' :: 'l' :: 's' :: 'e' :: rest => some (.bool false, rest)
  | '0' :: 'x' :: s => based? 16 isHexDigit s
  | '0' :: 'o' :: s => based? 8 (fun c => '0' ≤ c && c ≤ '7') s
  | '0' :: 'b' :: s => based? 2 (fun c => c = '0' || c = '1') s
  | _ =>
    if looksLikeMoment s then moment? s
    else (special? s).or (decimal? s)

end Remedy.Toml
