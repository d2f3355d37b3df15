import BotCockpit.Lib.CArith
import Mathlib.Algebra.Order.Ring.Rat
import Mathlib.Order.WithBot
import Mathlib.Algebra.Order.Monoid.Unbundled.WithTop

/-!
# `BotCockpit.Lib.Exact`: exact numbers for evaluation

Instances of the arithmetic interfaces on which a run can be evaluated. `ℚ` is exact in the four
operations and the comparisons. Its roots are cut off after six digits and its angles are the
first terms of their series, so a heading of zero is exact. A cost is a number of
ten-thousandths, or infinity.
-/

set_option autoImplicit false

namespace BotCockpit.Lib

namespace Exact

/-- The square root, cut off after six digits. -/
def sqrt (x : ℚ) : ℚ := mkRat (Nat.sqrt (x * 10 ^ 12).floor.toNat) (10 ^ 6)

/-- The text with six digits after the point. -/
def sixDigits (x : ℚ) : Bytes :=
  let n := (abs x * 10 ^ 6 + 1 / 2).floor.toNat
  let frac := decimal (n % 10 ^ 6)
  (if x < 0 then [45] else []) ++ decimal (n / 10 ^ 6) ++
    46 :: (List.replicate (6 - frac.length) 48 ++ frac)
where
  abs (x : ℚ) : ℚ := if x < 0 then -x else x

/-- The value of a number text. There is no infinity and no NaN. -/
def ofText : NumText → ℚ
  | .finite neg mant base exp =>
      let v : ℚ := if 0 ≤ exp then mant * (base : ℚ) ^ exp.toNat
        else mant / (base : ℚ) ^ (-exp).toNat
      if neg then -v else v
  | _ => 0

instance : CDouble ℚ where
  decLt := inferInstance
  decLe := inferInstance
  abs x := if x < 0 then -x else x
  sqrt := sqrt
  cos x := 1 - x * x / 2 + x * x * x * x / 24
  sin x := x - x * x * x / 6 + x * x * x * x * x / 120
  atan2 y x := if y = 0 then 0 else if x = 0 then 3 / 2 else y / x
  hypot x y := sqrt (x * x + y * y)
  floorInt := Rat.floor
  ceilInt := Rat.ceil
  ofInt := Rat.ofInt
  seconds ns := mkRat ns (10 ^ 9)
  toUInt16 x := UInt16.ofNat x.floor.toNat
  roundInt x := (x + 1 / 2).floor
  isFinite _ := true
  ofText := ofText
  ostreamText := sixDigits
  toStringText := sixDigits
  toUInt16_ofText n _ := by
    have h : ofText (.finite false n 10 0) = (n : ℚ) := by simp [ofText]
    have hfloor : (n : ℚ).floor = n := Rat.floor_intCast n
    rw [h, hfloor]
    rfl

/-- The literal of zero. -/
theorem zero_literal : (0.0 : ℚ) = 0 := by decide +kernel

/-- Exact arithmetic keeps signs and is monotone. -/
instance : LawfulDouble ℚ where
  lt_irrefl := lt_irrefl
  literal_nonneg mant negExp exp := by
    rw [zero_literal]
    exact not_lt.mpr (Rat.ofScientific_nonneg mant negExp exp)
  neg_nonpos a ha := by
    rw [zero_literal] at ha ⊢
    exact not_lt.mpr (neg_nonpos.mpr (not_lt.mp ha))
  mul_nonneg a b ha hb := by
    rw [zero_literal] at ha hb ⊢
    exact not_lt.mpr (mul_nonneg (not_lt.mp ha) (not_lt.mp hb))
  sub_le a b c hb hc := by
    rw [zero_literal] at hb
    exact not_lt.mpr ((sub_le_self a (not_lt.mp hb)).trans (not_lt.mp hc))
  add_mono _ _ c hab := not_lt.mpr (add_le_add_left hab.le c)
  seconds_nonneg ns hns := by
    rw [zero_literal]
    exact not_lt.mpr (Rat.mkRat_nonneg hns (10 ^ 9))

/-- A cost: ten-thousandths, or infinity. -/
abbrev Cost := WithTop ℕ

instance : OfScientific Cost where
  ofScientific m neg e := ((if neg then m * 10 ^ 4 / 10 ^ e else m * 10 ^ (e + 4) : ℕ) : Cost)

instance : CFloat Cost where
  mul
    | some a, some b => ((a * b / 10 ^ 4 : ℕ) : Cost)
    | _, _ => ⊤
  infinity := ⊤
  ofNat n := ((n * 10 ^ 4 : ℕ) : Cost)
  le_add a b := by
    induction a using WithTop.recTopCoe with
    | top => simp
    | coe a =>
        induction b using WithTop.recTopCoe with
        | top => simp
        | coe b => exact_mod_cast Nat.le_add_right a b
  wf := wellFounded_lt

end Exact

end BotCockpit.Lib
