import BotCockpit.Lib.Exact
import BotCockpit.Lib.Json

/-!
# `BotCockpit.Ui.QVariant`: the values of a message in the console

A message that came as JSON is a `QVariantMap` in the console. `map.contains` and `map.value` are
`contains` and `value` here, with a missing value as `null`. `toText`, `toBool`, `toNumber`, `toInt`
and `toLongLong` are the conversions of a `QVariant` that came from JSON. Where they turn a text
into a number or a number into a text they do it by `QString` and `QLocale`, which belong to Qt
(`QVariants`). At the end, conversions on which a run can be evaluated.
-/

set_option autoImplicit false

namespace BotCockpit.Ui

open BotCockpit.Lib

def contains (map : Json) (key : String) : Bool := (map.find? key).isSome

def value (map : Json) (key : String) : Json := (map.find? key).getD .null

/-- The conversions between texts and numbers that a `QVariant` takes from Qt. `F` is `double`. -/
class QVariants (F : Type) where
  /-- The text of a number: `QString::number` of the number that JSON writes like this. -/
  numberText : Bytes → Bytes
  /-- `QString::toDouble`, if the text is a number. -/
  readDouble : Bytes → Option NumText
  /-- `QString::toInt`, if the text is an `int`. -/
  readInt : Bytes → Option Int
  /-- `QString::toLongLong`, if the text is a `qlonglong`. -/
  readLongLong : Bytes → Option Int

/-- `QVariant::toString`. -/
def toText (F : Type) [QVariants F] : Json → Bytes
  | .str s => s
  | .num text => QVariants.numberText F text
  | .bool b => if b then ascii "true" else ascii "false"
  | _ => []

/-- `QVariant::toBool`. Of the letters outside ASCII none has one of `false` as its lower case. -/
def toBool : Json → Bool
  | .bool b => b
  | .str s => !(s = [] || s = ascii "0" || s.map toLower = ascii "false")
  | .num text =>
      match strtod text with
      | none | some (.finite _ 0 _ _) => false
      | some _ => true
  | _ => false

section Numbers

variable {F : Type} [CDouble F]

/-- `QVariant::toDouble`. -/
def toNumber [QVariants F] : Json → F
  | .num text => ((strtod text).map CDouble.ofText).getD 0.0
  | .str s => ((QVariants.readDouble F s).map CDouble.ofText).getD 0.0
  | .bool b => if b then 1.0 else 0.0
  | _ => 0.0

/-- The integer of a `QVariant`: a text is read as one, and a number is rounded. -/
def toInteger (F : Type) [CDouble F] [QVariants F] (read : Bytes → Option Int) : Json → Int
  | .str s => (read s).getD 0
  | v => CDouble.roundInt (toNumber v : F)

/-- `QVariant::toInt`. -/
def toInt (F : Type) [CDouble F] [QVariants F] (v : Json) : Int :=
  toInteger F (QVariants.readInt F) v

/-- `QVariant::toLongLong`. -/
def toLongLong (F : Type) [CDouble F] [QVariants F] (v : Json) : Int :=
  toInteger F (QVariants.readLongLong F) v

/-- `qFuzzyCompare`. -/
def qFuzzyCompare (a b : F) : Prop :=
  CDouble.abs (a - b) * 1000000000000.0 ≤ CDouble.min (CDouble.abs a) (CDouble.abs b)

instance (a b : F) : Decidable (qFuzzyCompare a b) := CDouble.decLe _ _

end Numbers

/-! ### Conversions on which a run can be evaluated -/

namespace Exact

/-- The integer with this text, if it lies between the two. -/
def readInteger (low high : Int) (s : Bytes) : Option Int :=
  match strtod s with
  | some (.finite neg digits 10 0) =>
      let n : Int := if neg then -(digits : Int) else digits
      if low ≤ n ∧ n ≤ high then some n else none
  | _ => none

instance : QVariants ℚ where
  numberText text := text
  readDouble := strtod
  readInt := readInteger (-2 ^ 31) (2 ^ 31 - 1)
  readLongLong := readInteger (-2 ^ 63) (2 ^ 63 - 1)

end Exact

end BotCockpit.Ui
