import Remedy.Decimal.Shortest
import Remedy.Json.Value

/-!
# The compact text of a JSON value

No blanks between the parts. A string escapes the quote, the backslash and the controls below
U+0020, five of them by a letter; everything else stands for itself.
-/

namespace Remedy.Json

/-- Decimal exponents from -5 to 15 are written in positional notation, and a positive exponent
gets a sign. -/
def numberStyle : Decimal.Style := ⟨-5, 15, true⟩

def Number.render : Number → String
  | .int n => toString n
  | .float bits =>
    let mark := if bits.toNat < 0x8000000000000000 then "" else "-"
    mark ++ numberStyle.write (Decimal.Dyadic.ofBits64 bits).shortest

def hexDigit (n : Nat) : Char := if n < 10 then Char.ofNat (48 + n) else Char.ofNat (87 + n)

def escapeChar (c : Char) : List Char :=
  if c = '"' then ['\\', '"']
  else if c = '\\' then ['\\', '\\']
  else if c = '\n' then ['\\', 'n']
  else if c = '\r' then ['\\', 'r']
  else if c = '\t' then ['\\', 't']
  else if c.toNat = 8 then ['\\', 'b']
  else if c.toNat = 12 then ['\\', 'f']
  else if c.toNat < 32 then ['\\', 'u', '0', '0', hexDigit (c.toNat / 16), hexDigit (c.toNat % 16)]
  else [c]

def escape (s : List Char) : List Char := s.flatMap escapeChar

def quote (s : String) : String := String.ofList ('"' :: escape s.toList ++ ['"'])

mutual

def render : Json → String
  | .null => "null"
  | .bool true => "true"
  | .bool false => "false"
  | .num n => n.render
  | .str s => quote s
  | .arr items => "[" ++ renderItems items ++ "]"
  | .obj fields => "\x7b" ++ renderFields fields ++ "\x7d"

/-- The items of an array, a comma between two of them. -/
def renderItems : List Json → String
  | [] => ""
  | [v] => render v
  | v :: vs => render v ++ "," ++ renderItems vs

def renderFields : List (String × Json) → String
  | [] => ""
  | [(k, v)] => quote k ++ ":" ++ render v
  | (k, v) :: fields => quote k ++ ":" ++ render v ++ "," ++ renderFields fields

end

end Remedy.Json
