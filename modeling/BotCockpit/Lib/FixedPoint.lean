import BotCockpit.Lib.CText
import BotCockpit.Lib.JsonText
import Mathlib.Data.List.Induction
import Mathlib.Tactic.Ring

/-!
# `BotCockpit.Lib.FixedPoint`: decimal fractions with a fixed number of digits

`fixedText k neg n` is what `printf` writes for `n / 10 ^ k` with `k` digits after the point. It is
a number of JSON (`isNumber_fixedText`), and `strtod` reads the same `n` back (`strtod_fixedText`).
-/

set_option autoImplicit false

namespace BotCockpit.Lib

/-- The digits of `n`, filled up with zeros to `k` of them. -/
def padded (k n : Nat) : Bytes := List.replicate (k - (decimal n).length) 48 ++ decimal n

/-- The sign, the digits before the point, and `k` digits after it. -/
def fixedText (k : Nat) (neg : Bool) (n : Nat) : Bytes :=
  (if neg then [45] else []) ++ decimal (n / 10 ^ k) ++ 46 :: padded k (n % 10 ^ k)

/-- The value of a number written with `k` digits after the point, in units of the last digit. -/
def signed (neg : Bool) (n : Nat) : Int := if neg then -n else n

example : fixedText 6 true 1250000 = ascii "-1.250000" := by decide +kernel

/-! ### The digits -/

/-- The digits of a number are no more than those of its bound. -/
theorem length_decimal_le {k n : Nat} (h : n < 10 ^ (k + 1)) : (decimal n).length ≤ k + 1 := by
  induction k generalizing n with
  | zero =>
      rw [decimal, if_pos (by simpa using h)]
      exact Nat.le_refl 1
  | succ k ih =>
      rw [decimal]
      split
      · exact Nat.succ_le_succ (Nat.zero_le _)
      · have hquot : n / 10 < 10 ^ (k + 1) := by
          rw [Nat.pow_succ] at h
          omega
        rw [List.length_append, List.length_singleton]
        exact Nat.succ_le_succ (ih hquot)

/-- A number that fits is padded to its width. -/
theorem length_padded {k n : Nat} (hk : 0 < k) (h : n < 10 ^ k) : (padded k n).length = k := by
  obtain ⟨j, rfl⟩ := Nat.exists_eq_add_of_lt hk
  rw [Nat.zero_add] at h ⊢
  have hle := length_decimal_le h
  rw [padded, List.length_append, List.length_replicate]
  omega

/-- Padding adds digits only. -/
theorem isDigit_of_mem_padded (k n : Nat) : ∀ b ∈ padded k n, isDigit b = true := by
  intro b hb
  rcases List.mem_append.mp hb with hb | hb
  · rw [(List.mem_replicate.mp hb).2]
    rfl
  · exact isDigit_of_mem_decimal n b hb

/-- A padded number has a digit. -/
theorem padded_ne_nil (k n : Nat) : padded k n ≠ [] :=
  List.append_ne_nil_of_right_ne_nil _ (decimal_ne_nil n)

/-- The digits in front count as many times ten as there are digits behind. -/
theorem readNat_append (ds es : Bytes) :
    readNat (ds ++ es) = readNat ds * 10 ^ es.length + readNat es := by
  induction es using List.reverseRecOn with
  | nil => simp [readNat]
  | append_singleton es e ih =>
      rw [← List.append_assoc, readNat_append_singleton, ih, readNat_append_singleton,
        List.length_append, List.length_singleton, Nat.pow_succ]
      ring

/-- The zeros in front do not change the number. -/
theorem readNat_padded (k n : Nat) : readNat (padded k n) = n := by
  have hzeros : ∀ j, readNat (List.replicate j 48) = 0 := by
    intro j
    induction j with
    | zero => rfl
    | succ j ih =>
        rw [List.replicate_succ', readNat_append_singleton, ih]
        rfl
  rw [padded, readNat_append, hzeros, readNat_decimal, Nat.zero_mul, Nat.zero_add]

/-! ### The text -/

/-- The text in fixed point is a number of JSON. -/
theorem isNumber_fixedText (k : Nat) (neg : Bool) (n : Nat) : Json.IsNumber (fixedText k neg n) :=
  Json.isNumber_fraction neg _ (isDigit_of_mem_padded k _) (padded_ne_nil k _)

/-- **`strtod` reads the digits back.** -/
theorem strtod_fixedText {k : Nat} (hk : 0 < k) (neg : Bool) (n : Nat) :
    strtod (fixedText k neg n) = some (.finite neg n 10 (-k)) := by
  have hlt : n % 10 ^ k < 10 ^ k := Nat.mod_lt _ (Nat.pow_pos (by decide))
  have hscan := strtod_eq_readDecimal neg (n / 10 ^ k) (46 :: padded k (n % 10 ^ k))
    (fun b hb => by rw [← Option.some.inj hb]; decide)
  have hpoint : ∀ b ∈ (46 :: padded k (n % 10 ^ k)).head?, isDigit b = false :=
    fun b hb => by rw [← Option.some.inj hb]; rfl
  -- The digits after the point go to the end of the text.
  have hmant : readMantissa isDigit (decimal (n / 10 ^ k) ++ 46 :: padded k (n % 10 ^ k)) =
      (decimal (n / 10 ^ k), padded k (n % 10 ^ k), []) := by
    simp only [readMantissa, takeWhile_isDigit_decimal _ hpoint, dropWhile_isDigit_decimal _ hpoint,
      List.takeWhile_eq_self_iff.mpr (isDigit_of_mem_padded k _),
      List.dropWhile_eq_nil_iff.mpr (isDigit_of_mem_padded k _), if_true]
  have hread : readNat (decimal (n / 10 ^ k) ++ padded k (n % 10 ^ k)) = n := by
    rw [readNat_append, readNat_decimal, readNat_padded, length_padded hk hlt, Nat.mul_comm]
    exact Nat.div_add_mod n (10 ^ k)
  rw [fixedText, List.append_assoc, hscan]
  simp [readDecimal, hmant, hread, decimal_ne_nil, length_padded hk hlt, readExponent]

end BotCockpit.Lib
