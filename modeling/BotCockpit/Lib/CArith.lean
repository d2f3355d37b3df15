import BotCockpit.Lib.CText
import Mathlib.Order.Basic
import Mathlib.Order.WellFounded

/-!
# `BotCockpit.Lib.CArith`: the arithmetic of `double` and `float`, as an interface

`CDouble F` lists the operations of `double` that a program uses: the operators, the
comparisons, the functions of `<cmath>`, the conversions, and the text the standard library
reads and writes. The operators and comparisons carry no law, so a result over an arbitrary
`F` holds of IEEE arithmetic with every rounding, infinity and NaN, whatever the libm. The one
law, `toUInt16_ofText`, says that a 16-bit integer survives the way through a `double`.

`LawfulDouble F` adds what a bound needs of a rounding: it keeps signs, and it is monotone. Every
law denies a comparison, and a comparison with NaN is false, so the laws hold of infinities and
of NaN too.

`CFloat C` is the same for a cost in `float` that is never negative and never NaN. Such values
are ordered by `<`, there are finitely many of them (so `<` is well-founded), and adding one
never makes a cost smaller.
-/

set_option autoImplicit false

namespace BotCockpit.Lib

/-- The operations of `double`. Comparisons are decidable relations without laws. -/
class CDouble (F : Type) extends Add F, Sub F, Mul F, Div F, Neg F, LT F, LE F, BEq F,
    OfScientific F where
  decLt : ∀ a b : F, Decidable (a < b)
  decLe : ∀ a b : F, Decidable (a ≤ b)
  /-- `std::abs`, `std::sqrt`, `std::cos`, `std::sin`. -/
  abs : F → F
  sqrt : F → F
  cos : F → F
  sin : F → F
  /-- `std::atan2 y x` and `std::hypot x y`. -/
  atan2 : F → F → F
  hypot : F → F → F
  /-- `static_cast<int>(std::floor(x))` and `static_cast<int>(std::ceil(x))`. -/
  floorInt : F → Int
  ceilInt : F → Int
  /-- The conversion of an `int`. -/
  ofInt : Int → F
  /-- The seconds of a duration counted in nanoseconds. -/
  seconds : Int → F
  /-- `static_cast<uint16_t>(x)`. -/
  toUInt16 : F → UInt16
  /-- `static_cast<long long>` after rounding to nearest, and `static_cast<int>` of it. -/
  roundInt : F → Int
  isFinite : F → Bool
  /-- The `double` that `strtod` returns for a number as it is written. -/
  ofText : NumText → F
  /-- The text of `oss << x` and of `std::to_string(x)`. -/
  ostreamText : F → Bytes
  toStringText : F → Bytes
  /-- A 16-bit integer is exact in a `double`. -/
  toUInt16_ofText : ∀ n : Nat, n < 2 ^ 16 →
    toUInt16 (ofText (.finite false n 10 0)) = UInt16.ofNat n

attribute [reducible, instance] CDouble.decLt CDouble.decLe

/-- `std::max(a, b)`. -/
def CDouble.max {F : Type} [CDouble F] (a b : F) : F := if a < b then b else a

/-- `std::min(a, b)`. -/
def CDouble.min {F : Type} [CDouble F] (a b : F) : F := if b < a then b else a

/-- Rounding keeps signs and is monotone. -/
class LawfulDouble (F : Type) [CDouble F] : Prop where
  lt_irrefl : ∀ a : F, ¬a < a
  /-- A literal without a sign is not negative. -/
  literal_nonneg : ∀ (mant : Nat) (negExp : Bool) (exp : Nat),
    ¬(OfScientific.ofScientific mant negExp exp : F) < 0.0
  neg_nonpos : ∀ a : F, ¬a < 0.0 → ¬0.0 < -a
  mul_nonneg : ∀ a b : F, ¬a < 0.0 → ¬b < 0.0 → ¬a * b < 0.0
  /-- Taking away what is not negative makes no number larger. -/
  sub_le : ∀ a b c : F, ¬b < 0.0 → ¬c < a → ¬c < a - b
  add_mono : ∀ a b c : F, a < b → ¬b + c < a + c
  /-- A duration that is not negative has seconds that are not. -/
  seconds_nonneg : ∀ ns : Int, 0 ≤ ns → ¬(CDouble.seconds ns : F) < 0.0

/-- The operations of `float` on costs: values that are neither negative nor NaN. -/
class CFloat (C : Type) extends LinearOrder C, Add C, Mul C, OfScientific C where
  /-- `std::numeric_limits<float>::infinity()`. -/
  infinity : C
  ofNat : Nat → C
  /-- Adding a cost never makes a cost smaller. -/
  le_add : ∀ a b : C, a ≤ a + b
  /-- There is no infinite descent. -/
  wf : WellFounded (fun a b : C => a < b)

end BotCockpit.Lib
