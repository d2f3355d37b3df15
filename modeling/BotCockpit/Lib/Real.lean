import BotCockpit.Lib.Exact
import Mathlib.Analysis.SpecialFunctions.Complex.Arg
import Mathlib.Analysis.SpecialFunctions.Trigonometric.Basic

/-!
# `BotCockpit.Lib.Real`: exact real arithmetic

The instance of the arithmetic interface in which every operation is the mathematical one, for
results that are about the geometry of a computation and not about its rounding. Conversions to an
integer have no upper limit. A text is that of the number rounded to six digits.
-/

set_option autoImplicit false

namespace BotCockpit.Lib.Exact

open Classical in
noncomputable instance : CDouble ℝ where
  decLt := inferInstance
  decLe := inferInstance
  beq a b := decide (a = b)
  abs x := |x|
  sqrt := Real.sqrt
  cos := Real.cos
  sin := Real.sin
  atan2 y x := Complex.arg ⟨x, y⟩
  hypot x y := Real.sqrt (x ^ 2 + y ^ 2)
  floorInt x := ⌊x⌋
  ceilInt x := ⌈x⌉
  ofInt n := n
  seconds ns := ns / 10 ^ 9
  toUInt16 x := UInt16.ofNat ⌊x⌋.toNat
  roundInt := round
  isFinite _ := true
  ofText n := ofText n
  ostreamText x := sixDigits (mkRat (round (x * 10 ^ 6)) (10 ^ 6))
  toStringText x := sixDigits (mkRat (round (x * 10 ^ 6)) (10 ^ 6))
  toUInt16_ofText n _ := by
    have h : ofText (.finite false n 10 0) = (n : ℚ) := by simp [ofText]
    rw [h, Rat.cast_natCast, Int.floor_natCast]
    rfl

end BotCockpit.Lib.Exact
