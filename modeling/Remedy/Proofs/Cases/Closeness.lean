import Mathlib
import Remedy.Cases.Basic

/-!
# The distance of two numbers

The test whether two numbers are close to each other takes the size of their difference. The
difference of two floats is, whatever its sign, the same both ways round (`sub_sameSize`), so the
test is symmetric (`isClose_comm`); and a finite float taken from itself leaves zero, so the test is
reflexive on the numbers of JSON, which are finite (`isClose_self`).
-/

namespace Remedy

/-- A number is neither infinite nor undefined as a double. -/
def Json.Number.IsFinite (n : Json.Number) : Prop := n.toFloat.isFinite = true

instance (n : Json.Number) : Decidable n.IsFinite := inferInstanceAs (Decidable (_ = true))

namespace Cases

open Float.Model

/-- Two floats differ at most in their signs. -/
def SameSize (x y : UnpackedFloat) : Prop := x.abs = y.abs

section Format

variable (format : Format)

/-! ## Rounding does not look at the sign -/

theorem round_sameSize (s t : UnpackedFloat.Sign) (mantissa : Nat) (exponent : Int) :
    SameSize (.round format s mantissa exponent) (.round format t mantissa exponent) := by
  simp only [SameSize, UnpackedFloat.round, UnpackedFloat.roundWithAccuracy]
  split <;> rfl

theorem normalize_neg_sameSize (mantissa exponent : Int) (s : UnpackedFloat.Sign) :
    SameSize (.normalize format (-mantissa) exponent s) (.normalize format mantissa exponent s) := by
  rcases Int.lt_trichotomy mantissa 0 with h | rfl | h
  · have hlt : compare mantissa 0 = .lt := Int.compare_eq_lt.mpr h
    have hgt : compare (-mantissa) 0 = .gt := Int.compare_eq_gt.mpr (by omega)
    rw [UnpackedFloat.normalize, UnpackedFloat.normalize, hlt, hgt]
    exact round_sameSize ..
  · rfl
  · have hgt : compare mantissa 0 = .gt := Int.compare_eq_gt.mpr h
    have hlt : compare (-mantissa) 0 = .lt := Int.compare_eq_lt.mpr (by omega)
    rw [UnpackedFloat.normalize, UnpackedFloat.normalize, hgt, hlt, Int.neg_neg]
    exact round_sameSize ..

theorem sub_sameSize (x y : UnpackedFloat) :
    SameSize (.sub format x y) (.sub format y x) := by
  cases x <;> cases y
  case finite.finite s m e hm t n d hn =>
    simp only [UnpackedFloat.sub, UnpackedFloat.decreaseExponent]
    rw [Int.min_comm d e, ← Int.neg_sub]
    exact normalize_neg_sameSize ..
  case zero.zero s t => cases s <;> cases t <;> rfl
  case infinity.infinity s t => cases s <;> cases t <;> rfl
  all_goals rfl

/-! ## Nor does packing -/

theorem packComponents_sameSize (s t : UnpackedFloat.Sign) (exponent : BitVec format.exponentBits)
    (mantissa : BitVec format.mantissaBitsWithoutImplicit) :
    SameSize (.unpack format (UnpackedFloat.packComponents format s exponent mantissa))
      (.unpack format (UnpackedFloat.packComponents format t exponent mantissa)) := by
  simp only [SameSize, UnpackedFloat.unpack, UnpackedFloat.unpackMantissa_packComponents,
    UnpackedFloat.unpackExponent_packComponents]
  split
  · split <;> rfl
  split
  · split <;> rfl
  · rfl

theorem SameSize.unpack_pack {x y : UnpackedFloat} (h : SameSize x y) :
    SameSize (.unpack format (x.pack format)) (.unpack format (y.pack format)) := by
  cases x <;> cases y <;> cases h
  case notANumber.notANumber => rfl
  case infinity.infinity => exact packComponents_sameSize ..
  case zero.zero => exact packComponents_sameSize ..
  case finite.finite =>
    simp only [UnpackedFloat.pack]
    split
    · exact packComponents_sameSize ..
    split <;> exact packComponents_sameSize ..

theorem sub_self_of_isFinite {x : UnpackedFloat} (h : x.isFinite = true) :
    x.sub format x = .zero .positive := by
  cases x with
  | notANumber | infinity => cases h
  | zero s => cases s <;> rfl
  | finite s m e hm =>
      simp only [UnpackedFloat.sub, Int.sub_self]
      rfl

end Format

/-! ## Closeness -/

theorem isClose_comm (a b : Json.Number) : isClose a b = isClose b a := by
  have hsize := (sub_sameSize .binary64 a.toFloat.toModel.unpack
    b.toFloat.toModel.unpack).unpack_pack .binary64
  have habs : (a.toFloat - b.toFloat).abs = (b.toFloat - a.toFloat).abs :=
    congrArg (fun x => Float.ofModel (Float.Model.pack x)) hsize
  rw [isClose, isClose, habs]

theorem isClose_self {a : Json.Number} (h : a.IsFinite) : isClose a a = true := by
  have hzero : a.toFloat - a.toFloat = 0 :=
    congrArg (fun x => Float.ofModel (Float.Model.pack x)) (sub_self_of_isFinite .binary64 h)
  rw [isClose, hzero]
  decide

end Cases

end Remedy
