import BotCockpit.Lib.Exact
import BotCockpit.Lib.Float64

/-!
# `BotCockpit.Lib.Libm`: `double` as `Float`

The instance of the arithmetic interface on `Float`, which is `binary64`. What `Float` has no
function for, `std::hypot` and the texts of the standard library, is a parameter (`Libm`).

A conversion to an integer type is undefined in C++ when the type has no such value. Here it gives
the least `int`, as the conversion instruction of x86-64 does.
-/

set_option autoImplicit false

namespace BotCockpit.Lib.Float64

open Float.Model Float.Model.UnpackedFloat

/-- The functions of the C library that `Float` lacks. -/
class Libm where
  hypot : Float → Float → Float
  ostreamText : Float → Bytes
  toStringText : Float → Bytes

/-- The conversion to `int`. -/
def toInt (n : Int) : Int := if -2 ^ 31 ≤ n ∧ n < 2 ^ 31 then n else -2 ^ 31

/-- `static_cast<int>(std::floor(x))`. -/
def floorInt (x : Float) : Int := if x.isFinite then toInt (value x / 2 ^ 1074) else -2 ^ 31

/-- `static_cast<int>(std::ceil(x))`. -/
def ceilInt (x : Float) : Int := if x.isFinite then toInt (-(-value x / 2 ^ 1074)) else -2 ^ 31

/-- The conversion after rounding to the nearest integer, away from zero in the middle. -/
def roundInt (x : Float) : Int :=
  if x.isFinite then
    toInt ((value x).sign * ((2 * (value x).natAbs + 2 ^ 1074) / 2 ^ 1075 : Nat))
  else -2 ^ 31

/-- A number is finite. -/
theorem isFinite_of_isNumber {x : Float} (hx : IsNumber x) : x.isFinite = true := by
  show x.toModel.unpack.isFinite = true
  unfold IsNumber at hx
  generalize x.toModel.unpack = u at hx
  cases hx with
  | zero s => rfl
  | finite s hm h => rfl

/-- The floor of a number that an `int` has. -/
theorem floorInt_of_isNumber {x : Float} (hx : IsNumber x) (h0 : 0 ≤ value x)
    (hlt : value x < 2 ^ 31 * 2 ^ 1074) : floorInt x = value x / 2 ^ 1074 := by
  have hpos : (0 : Int) < 2 ^ 1074 := by positivity
  have hlow : 0 ≤ value x / 2 ^ 1074 := Int.ediv_nonneg h0 hpos.le
  have hhigh : value x / 2 ^ 1074 < 2 ^ 31 := Int.ediv_lt_of_lt_mul hpos hlt
  have hleast : -2 ^ 31 ≤ (0 : Int) := by decide
  unfold floorInt toInt
  rw [if_pos (isFinite_of_isNumber hx), if_pos ⟨hleast.trans hlow, hhigh⟩]

/-- The conversion of no number gives the least `int`. -/
theorem floorInt_of_nan {x : Float} (h : x.toModel.unpack = .notANumber) :
    floorInt x = -2 ^ 31 := by
  have hfinite : x.isFinite = false := by
    show x.toModel.unpack.isFinite = false
    rw [h]
    rfl
  unfold floorInt
  rw [hfinite]
  rfl

/-- The magnitude that a number text denotes, correctly rounded. -/
def magnitude (mant base : Nat) (exp : Int) : Float :=
  .ofModel (.pack (if base = 10 then UnpackedFloat.ofScientific Format.binary64 mant exp
    else UnpackedFloat.normalize Format.binary64 mant exp .positive))

/-- The number that `strtod` returns for a text. -/
def ofText : NumText → Float
  | .finite minus mant base exp =>
      if minus then -magnitude mant base exp else magnitude mant base exp
  | .inf minus => .ofModel (.pack (.infinity (if minus then .negative else .positive)))
  | .nan => .ofModel (.pack .notANumber)

/-- A natural number of 16 bits is exact. -/
theorem value_magnitude {n : Nat} (hn : n < 2 ^ 16) :
    value (magnitude n 10 0) = n * 2 ^ 1074 := by
  rcases Nat.eq_zero_or_pos n with rfl | hpos
  · rw [Int.natCast_zero, zero_mul]
    rfl
  · have hlog : n.log2 < 16 := (Nat.log2_lt hpos.ne').mpr hn
    have hmant : n <<< 53 * 1 = n * 2 ^ 53 := by rw [mul_one, Nat.shiftLeft_eq]
    -- A numeral without exponent is rounded from `n * 2 ^ 53` over `2 ^ 53`.
    have hscientific : UnpackedFloat.ofScientific Format.binary64 n 0 =
        roundWithAccuracy Format.binary64 .positive (n * 2 ^ 53) (-53) .exact := by
      have hpow : ¬(0 : Int) > 2 ^ 11 := by decide
      have hpow' : ¬(0 : Int) < -((2 ^ 11 : Int) + n.log2) := by omega
      rw [← hmant]
      unfold UnpackedFloat.ofScientific
      rw [dif_neg hpos.ne', if_neg hpow, if_neg hpow', if_pos (le_refl 0)]
      rfl
    have hgrid : -53 ≤ gridExp (n * 2 ^ 53) (-53) := by
      unfold gridExp
      rw [log2_mul_pow hpos]
      omega
    have hvalue : n * 2 ^ 53 * 2 ^ (-53 + 1074 : Int).toNat = n * 2 ^ 1074 := by
      have hexp : 53 + (-53 + 1074 : Int).toNat = 1074 := rfl
      rw [mul_assoc, ← pow_add, hexp]
    have hmax : (n * 2 ^ 53 * 2 ^ (-53 + 1074 : Int).toNat).log2 ≤ 2096 := by
      rw [hvalue, log2_mul_pow hpos]
      omega
    have hrounded := roundWithAccuracy_rounded .positive
      (Nat.mul_pos hpos (Nat.two_pow_pos 53)) (by decide) hgrid hmax
    rw [hvalue, ← hscientific] at hrounded
    -- A number of so few digits is on the grid.
    have hexact := nearest_mul_pow hpos (hn.trans (by decide)) 1074
    refine hrounded.unpack_pack.2.trans ?_
    rw [hexact]
    refine (Nat.cast_mul n (2 ^ 1074)).trans ?_
    rw [Nat.cast_pow, Nat.cast_ofNat]

instance [Libm] : CDouble Float where
  decLt := Float.decLt
  decLe := Float.decLe
  abs := Float.abs
  sqrt := Float.sqrt
  cos := Float.cos
  sin := Float.sin
  atan2 := Float.atan2
  hypot := Libm.hypot
  floorInt := floorInt
  ceilInt := ceilInt
  ofInt := Float.ofInt
  seconds ns := Float.ofInt ns / 1e9
  toUInt16 x := UInt16.ofNat (value x / 2 ^ 1074).toNat
  roundInt := roundInt
  isFinite := Float.isFinite
  ofText := ofText
  ostreamText := Libm.ostreamText
  toStringText := Libm.toStringText
  toUInt16_ofText n hn := by
    have hfloor : value (magnitude n 10 0) / 2 ^ 1074 = n := by
      rw [value_magnitude hn]
      exact Int.mul_ediv_cancel _ (by positivity)
    show UInt16.ofNat (value (magnitude n 10 0) / 2 ^ 1074).toNat = UInt16.ofNat n
    rw [hfloor, Int.toNat_natCast]

end BotCockpit.Lib.Float64
