/-!
# Bytes of a text

A byte is kept as the character of its number, so that text and bytes are read alike. Decoding puts
U+FFFD for each piece of the bytes that is no character: the longest beginning of a character, or
else one byte.
-/

namespace Remedy.Text

def bytesOf (s : String) : List Char := s.toUTF8.data.toList.map fun b => Char.ofNat b.toNat

/-- A character that is not complete yet: its bits so far, how many bytes are missing, and the least
and the greatest next one. -/
structure Unfinished where
  bits : Nat
  missing : Nat
  low : Nat
  high : Nat

/-- What a first byte begins, if it begins a character of several bytes. -/
def unfinished? (b : Nat) : Option Unfinished :=
  if 0xC2 ≤ b ∧ b < 0xE0 then some ⟨b - 0xC0, 1, 0x80, 0xBF⟩
  else if b = 0xE0 then some ⟨0, 2, 0xA0, 0xBF⟩
  else if b = 0xED then some ⟨0xD, 2, 0x80, 0x9F⟩
  else if 0xE1 ≤ b ∧ b < 0xF0 then some ⟨b - 0xE0, 2, 0x80, 0xBF⟩
  else if b = 0xF0 then some ⟨0, 3, 0x90, 0xBF⟩
  else if 0xF1 ≤ b ∧ b < 0xF4 then some ⟨b - 0xF0, 3, 0x80, 0xBF⟩
  else if b = 0xF4 then some ⟨4, 3, 0x80, 0x8F⟩
  else none

/-- The character for bytes that are none. -/
def replacement : Char := '\ufffd'

/-- The characters that end or begin with a byte, and what it leaves unfinished. -/
def decodeByte (open? : Option Unfinished) (b : Nat) : List Char × Option Unfinished :=
  let fresh :=
    if b < 0x80 then ([Char.ofNat b], none)
    else
      match unfinished? b with
      | some u => ([], some u)
      | none => ([replacement], none)
  match open? with
  | none => fresh
  | some u =>
    if u.low ≤ b ∧ b ≤ u.high then
      let bits := u.bits * 64 + b % 64
      if u.missing = 1 then ([Char.ofNat bits], none)
      else ([], some ⟨bits, u.missing - 1, 0x80, 0xBF⟩)
    else (replacement :: fresh.1, fresh.2)

def decodeFrom : Option Unfinished → List Char → List Char
  | none, [] => []
  | some _, [] => [replacement]
  | open?, b :: bytes =>
    let (chars, next) := decodeByte open? b.toNat
    chars ++ decodeFrom next bytes

def decodeBytes (bytes : List Char) : String := String.ofList (decodeFrom none bytes)

end Remedy.Text
