import Remedy.Diagnosis.Finding
import Remedy.Text.Pattern

/-!
# What a clean run printed

A run that ends well may still print that something is wrong: a value that came out as `None`, or a
line that checks itself and shows another number than it expects.
-/

namespace Remedy.Printed

open Remedy.Text

/-- A text in any case of its letters; the long s counts as an s. -/
def anyCase (s : String) : Pattern :=
  .all (s.toList.map fun c => .char fun d =>
    d.toLower == c.toLower || (c.toLower == 's' && d == 'ſ'))

/-- A word that is said to be `None`. -/
def noneShown : Pattern :=
  .all [.group 1 .word,
    .any [.all [.someBlanks, anyCase "is"], .all [.blanks, .among "=:"]],
    .someBlanks, anyCase "None", .wordEdge]

/-- A number that is expected and the one that is shown. -/
def expectation : Pattern :=
  .all [.lit "(expect", .someBlanks, .group 1 (.all [.optional (.lit "-"), .digits]), .lit ")",
    .some (.char fun c => c == ':' || isBlank c),
    .group 2 (.all [.optional (.lit "-"), .digits])]

/-- Whether a number is negative, and what follows its sign. -/
def sign : List Char → Bool × List Char
  | '-' :: digits => (true, digits)
  | digits => (false, digits)

/-- The number of a text of ASCII digits, perhaps with a minus, if it fits into 64 bits. -/
def number? (s : String) : Option Int :=
  let (negative, digits) := sign s.toList
  if digits.isEmpty || !digits.all Char.isDigit then none
  else
    let n : Nat := digits.foldl (fun n c => n * 10 + (c.toNat - 48)) 0
    let value : Int := if negative then -n else n
    if -0x8000000000000000 ≤ value ∧ value < 0x8000000000000000 then some value else none

/-- The first expectation that is not met, as the number expected and the number shown. -/
def mismatch? (stdout : List Char) : Option (Int × Int) :=
  (expectation.findAll stdout).findSome? fun m =>
    match number? (m.group 1), number? (m.group 2) with
    | some expected, some actual => if expected = actual then none else some (expected, actual)
    | _, _ => none

/-- The findings in the output of a clean run. -/
def inspect (stdout : String) : List Finding :=
  let text := stdout.toList
  let shown := (noneShown.find? text).map fun m =>
    { category := .suspiciousNoneOutput, line := none, severity := .medium
      confidence := .ofPercent 70
      message := "Output shows '" ++ m.text ++ "': a function probably returns nothing"
      fix := some "Return the computed value from the function" : Finding }
  let unmet := (mismatch? text).map fun (expected, actual) =>
    { category := .outputMismatch, line := none, severity := .medium
      confidence := .ofPercent 80
      message := "Expected " ++ toString expected ++ " but the program printed "
        ++ toString actual
      fix := none : Finding }
  shown.toList ++ unmet.toList

end Remedy.Printed
