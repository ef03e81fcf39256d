import Remedy.Decimal.Shortest
import Remedy.Python.Tree
import Remedy.Text.Pattern

/-!
# Python numerals

Integers in four bases with single underscores between digits, the old suffix `L`, floating-point
numbers, and imaginary numbers with the suffix `j`.
-/

namespace Remedy.Python.Numeral

open Remedy.Text

private def ascii : Pattern := .char Char.isDigit

private def hexDigit : Pattern := .among "0123456789abcdefABCDEF"

/-- Decimal digits with single underscores after them. -/
def run : Pattern := .some (.all [.some ascii, .optional (.lit "_")])

/-- Digits of a base, each run of them perhaps after an underscore. -/
def based (mark : List String) (one : Pattern) : Pattern :=
  .all [.oneOf mark, .some (.all [.optional (.lit "_"), .some one]), .optional (.among "lL")]

def exponent : Pattern := .all [.among "eE", .optional (.among "+-"), run]

def float : Pattern :=
  .all [
    .any [
      .all [run, .lit ".", .optional run, .optional exponent],
      .all [.optional run, .lit ".", run, .optional exponent],
      .all [run, exponent]],
    .optional (.among "jJ")]

def integer : Pattern :=
  .any [
    based ["0x", "0X"] hexDigit,
    based ["0o", "0O"] (.among "01234567"),
    based ["0b", "0B"] (.among "01"),
    .all [run, .optional (.among "lLjJ")]]

def natOf (base : Nat) (digits : List Char) : Nat :=
  digits.foldl (fun n c => n * base + ("0123456789abcdef".toList.idxOf c)) 0

/-- The value of an integer numeral; imaginary numbers and integers of more than 64 bits have
none. -/
def intValue? (text : List Char) : Option Literal :=
  let plain := (text.filter (· != '_')).map Char.toLower
  let plain := if plain.getLast? = some 'l' then plain.dropLast else plain
  let value? :=
    match plain with
    | '0' :: 'x' :: digits => some (natOf 16 digits)
    | '0' :: 'o' :: digits => some (natOf 8 digits)
    | '0' :: 'b' :: digits => some (natOf 2 digits)
    | digits => if digits.all Char.isDigit then some (natOf 10 digits) else none
  value?.bind fun n => if n < 0x8000000000000000 then some (.int n) else none

def decimalOf (text : List Char) : Decimal.Digits :=
  let (mantissa, power) := text.span fun c => c != 'e' && c != 'E'
  let (whole, fraction) := mantissa.span (· != '.')
  let fraction := fraction.drop 1
  let shift : Int :=
    match power.drop 1 with
    | '-' :: digits => -(natOf 10 digits : Int)
    | '+' :: digits => natOf 10 digits
    | digits => natOf 10 digits
  ⟨natOf 10 (whole ++ fraction), shift - fraction.length⟩

/-- The value of a floating-point numeral; imaginary numbers have none. -/
def floatValue? (text : List Char) : Option Literal :=
  let plain := text.filter (· != '_')
  if plain.getLast?.any fun c => c == 'j' || c == 'J' then none
  else some (.float (decimalOf plain).toFloat.toBits)

/-- A numeral at the start of a text: its value, if the tree keeps it, and its length. -/
def read? (s : List Char) : Option (Option Literal × Nat) :=
  let place : Text.Place := .start s
  let size := fun (m : Pattern.Found) => m.start.left - m.stop.left
  match float.matchAt? place with
  | some m => some (floatValue? m.text.toList, size m)
  | none => (integer.matchAt? place).map fun m => (intValue? m.text.toList, size m)

end Remedy.Python.Numeral
