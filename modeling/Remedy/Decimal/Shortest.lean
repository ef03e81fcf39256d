/-!
# Shortest decimals

The decimal text of a binary floating-point number: the fewest digits that read back as the same
number, and of those the nearest. A number is `m · 2 ^ q`; every real between the midpoints to its
two neighbours reads back as it, the midpoints themselves exactly when `m` is even.
-/

namespace Remedy.Decimal

/-- A decimal number `coefficient · 10 ^ exponent`. -/
structure Digits where
  coefficient : Nat
  exponent : Int
deriving Repr, DecidableEq

/-- A finite binary number `m · 2 ^ q`. `narrow` says that the neighbour below is only half as far
away as the one above, as it is at a power of two. -/
structure Dyadic where
  m : Nat
  q : Int
  narrow : Bool
deriving Repr, DecidableEq

namespace Dyadic

/-- The numerators of the lower midpoint, the number and the upper midpoint, and their common
denominator. -/
def interval (x : Dyadic) : Nat × Nat × Nat × Nat :=
  let s := x.q - 2
  let scale := 1 <<< s.toNat
  ((4 * x.m - if x.narrow then 1 else 2) * scale, 4 * x.m * scale, (4 * x.m + 2) * scale,
    1 <<< (-s).toNat)

/-- The least `d` with `num / den < 10 ^ d`, for a positive quotient that is not tiny. -/
def magnitude (num den : Nat) : Int :=
  if den ≤ num then ((Nat.toDigits 10 (num / den)).length : Int)
  else
    match (List.range 400).find? fun k => den ≤ num * Nat.pow 10 k with
    | some k => 1 - (k : Int)
    | none => -400

/-- The point of the grid of step `10 ^ e` that reads back as `x`, if there is one: of the two grid
points around `x` the nearer one. -/
def onGrid (x : Dyadic) (e : Int) : Option Digits :=
  let (low, num, high, den) := x.interval
  let up := Nat.pow 10 (-e).toNat
  let unit := den * Nat.pow 10 e.toNat
  let below := num * up / unit
  let inside := fun (c : Nat) =>
    if x.m % 2 = 0 then low * up ≤ c * unit && c * unit ≤ high * up
    else low * up < c * unit && c * unit < high * up
  let nearer := if 2 * (num * up - below * unit) ≤ unit then below else below + 1
  if inside nearer then some ⟨nearer, e⟩
  else if inside below then some ⟨below, e⟩
  else if inside (below + 1) then some ⟨below + 1, e⟩
  else none

/-- One trailing zero moved into the exponent: the grid point above a number just below a power of
ten has one digit too many. -/
def dropZero (x : Digits) : Digits :=
  if x.coefficient % 10 = 0 then ⟨x.coefficient / 10, x.exponent + 1⟩ else x

/-- The fewest digits, at most seventeen, that read back as `x`. -/
def shortest (x : Dyadic) : Digits :=
  if x.m = 0 then ⟨0, 0⟩
  else
    let (_, num, _, den) := x.interval
    let d := magnitude num den
    dropZero (((List.range 17).findSome? fun n => x.onGrid (d - (n + 1 : Nat))).getD ⟨num / den, 0⟩)

end Dyadic

/-! ## Two binary formats -/

def Dyadic.ofBits64 (bits : UInt64) : Dyadic :=
  let fraction : Nat := bits.toNat % 0x10000000000000
  let biased : Nat := bits.toNat / 0x10000000000000 % 0x800
  if biased = 0 then ⟨fraction, -1074, false⟩
  else ⟨0x10000000000000 + fraction, (biased : Int) - 1075, fraction == 0 && biased != 1⟩

def Dyadic.ofBits32 (bits : UInt32) : Dyadic :=
  let fraction : Nat := bits.toNat % 0x800000
  let biased : Nat := bits.toNat / 0x800000 % 0x100
  if biased = 0 then ⟨fraction, -149, false⟩
  else ⟨0x800000 + fraction, (biased : Int) - 150, fraction == 0 && biased != 1⟩

/-! ## Reading -/

/-- The double nearest to a decimal number; beyond the largest double, infinity. -/
def Digits.toFloat (x : Digits) : Float :=
  let size := (Nat.toDigits 10 x.coefficient).length
  if x.coefficient = 0 then 0.0
  else if x.exponent + size > 320 then 1.0 / 0.0
  else if x.exponent + size < -340 then 0.0
  else Float.ofScientific x.coefficient (x.exponent < 0) x.exponent.natAbs

/-! ## Text -/

/-- The choices of a decimal notation: the decimal exponents that are written in positional
notation, and whether a positive exponent gets a sign. -/
structure Style where
  leastPositional : Int
  mostPositional : Int
  plus : Bool

/-- The text of a non-negative decimal number, with at least one fractional digit in positional
notation. -/
def Style.write (style : Style) (x : Digits) : String :=
  let ds := Nat.toDigits 10 x.coefficient
  let point := x.exponent + ds.length
  let shown := point - 1
  if x.coefficient = 0 then "0.0"
  else if style.leastPositional ≤ shown && shown ≤ style.mostPositional then
    if 0 ≤ x.exponent then String.ofList (ds ++ List.replicate x.exponent.toNat '0') ++ ".0"
    else if 0 < point then
      String.ofList (ds.take point.toNat ++ ['.'] ++ ds.drop point.toNat)
    else "0." ++ String.ofList (List.replicate (-point).toNat '0' ++ ds)
  else
    let tail := ds.drop 1
    let mark := if shown < 0 then "-" else if style.plus then "+" else ""
    String.ofList (ds.take 1 ++ if tail.isEmpty then [] else '.' :: tail)
      ++ "e" ++ mark ++ toString shown.natAbs

end Remedy.Decimal
