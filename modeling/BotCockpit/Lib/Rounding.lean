import Mathlib

/-!
# `BotCockpit.Lib.Rounding`: rounding of `binary64`

What the logical model of `Float` does to the bits, in terms of values. A finite number is a
natural multiple of the least positive one, `2 ^ -1074`, with a sign, and rounding takes such a
multiple to the nearest one that 53 bits can write (`nearest`), to the even one in the middle. The
result of an operation is `Rounded` when it is the exact one after one rounding; then it survives
the way through its bits (`Rounded.unpack_pack`). `nearest_lt` says which values are rounded to less
than a given one.
-/

set_option autoImplicit false

namespace BotCockpit.Lib.Float64

open Float.Model Float.Model.UnpackedFloat

/-! ### Canonical numbers -/

/-- A number as `binary64` has it: 53 bits, all of them used unless the exponent is the least. -/
structure Canonical (mant : Nat) (exp : Int) : Prop where
  bits : mant < 2 ^ 53
  low : -1074 ≤ exp
  high : exp ≤ 971
  normal : 2 ^ 52 ≤ mant ∨ exp = -1074

/-- A canonical mantissa has 53 bits, or the least exponent. -/
theorem Canonical.log2 {m : Nat} {e : Int} (h : Canonical m e) (hm : 0 < m) :
    m.log2 = 52 ∨ m.log2 < 52 ∧ e = -1074 := by
  have hlt : m.log2 < 53 := (Nat.log2_lt hm.ne').mpr h.bits
  rcases h.normal with hnormal | hmin
  · have hge : 52 ≤ m.log2 := (Nat.le_log2 hm.ne').mpr hnormal
    omega
  · omega

/-- What is unpacked is canonical. -/
theorem canonical_of_unpack {b : BitVec Format.binary64.numBits} {s : Sign} {m : Nat} {e : Int}
    {hm : 0 < m} (h : UnpackedFloat.unpack Format.binary64 b = .finite s m e hm) :
    Canonical m e := by
  have hmant := (unpackMantissa b).isLt
  have hexp := (unpackExponent b).isLt
  simp only [Format.binary64] at hmant hexp
  unfold UnpackedFloat.unpack at h
  dsimp only at h
  split at h
  · split at h <;> cases h
  · rename_i hfinite
    have hmax : (unpackExponent b).toNat ≠ 2047 := fun heq => hfinite (BitVec.eq_of_toNat_eq heq)
    split at h
    · -- A subnormal number: no leading bit, the least exponent.
      rename_i hzero
      split at h
      · cases h
      · cases h
        rw [hzero]
        exact ⟨by omega, by decide, by decide, Or.inr (by decide)⟩
    · -- A normal number: the leading bit is put in front.
      rename_i hnonzero
      have hmin : (unpackExponent b).toNat ≠ 0 := fun heq => hnonzero (BitVec.eq_of_toNat_eq heq)
      cases h
      have hnat : (1#1 ++ unpackMantissa b).toNat = 2 ^ 52 + (unpackMantissa b).toNat := by
        rw [BitVec.toNat_append, ← Nat.shiftLeft_add_eq_or_of_lt hmant]
        rfl
      rw [hnat]
      have hbias : ((Format.binary64.exponentBias +
          Format.binary64.mantissaBitsWithoutImplicit : Nat) : Int)
          = 1075 := by decide
      refine ⟨by omega, ?_, ?_, Or.inl (by omega)⟩
      all_goals
        push_cast at hbias
        omega

/-- A canonical number survives the way through its bits. -/
theorem unpack_pack {s : Sign} {m : Nat} {e : Int} (hm : 0 < m) (h : Canonical m e) :
    (Float.Model.pack (.finite s m e hm)).unpack = .finite s m e hm := by
  show UnpackedFloat.unpack Format.binary64
    (UnpackedFloat.pack Format.binary64 (.finite s m e hm)) = .finite s m e hm
  obtain ⟨hbits, hlow, hhigh, hnormal⟩ := h
  have hsmall : ¬ 2 ^ 11 ≤ (e + (1023 : Nat) + (52 : Nat)).toNat + 1 := by omega
  rcases Canonical.log2 ⟨hbits, hlow, hhigh, hnormal⟩ hm with hlog | ⟨hlog, rfl⟩
  · -- A normal number: the leading bit is not stored.
    have hge : 2 ^ 52 ≤ m := hlog ▸ Nat.log2_self_le hm.ne'
    have hpack : UnpackedFloat.pack Format.binary64 (.finite s m e hm) =
        packComponents Format.binary64 s
          (BitVec.ofNat 11 (e + (1023 : Nat) + (52 : Nat)).toNat) (BitVec.ofNat 52 m) := by
      show (if 2 ^ 11 ≤ (e + (1023 : Nat) + (52 : Nat)).toNat + 1 then _
        else if m.log2 + 1 = 53 then _ else _) = _
      rw [if_neg hsmall, if_pos (by omega)]
      rfl
    have hexp : (BitVec.ofNat 11 (e + (1023 : Nat) + (52 : Nat)).toNat).toNat =
        (e + (1023 : Nat) + (52 : Nat)).toNat := by
      rw [BitVec.toNat_ofNat]
      omega
    have hmax : BitVec.ofNat 11 (e + (1023 : Nat) + (52 : Nat)).toNat ≠ -1#11 := by
      intro heq
      have hval := congrArg BitVec.toNat heq
      rw [hexp] at hval
      have h2047 : (-1#11).toNat = 2047 := by decide
      omega
    have hmin : BitVec.ofNat 11 (e + (1023 : Nat) + (52 : Nat)).toNat ≠ 0#11 := by
      intro heq
      have hval := congrArg BitVec.toNat heq
      rw [hexp] at hval
      have h0 : (0#11).toNat = 0 := rfl
      omega
    have hmant : (1#1 ++ BitVec.ofNat 52 m).toNat = m := by
      have hlt : (BitVec.ofNat 52 m).toNat < 2 ^ 52 := BitVec.isLt _
      rw [BitVec.toNat_append, ← Nat.shiftLeft_add_eq_or_of_lt hlt, BitVec.toNat_ofNat]
      show 1 * 2 ^ 52 + m % 2 ^ 52 = m
      omega
    have hbias : ((BitVec.ofNat 11 (e + (1023 : Nat) + (52 : Nat)).toNat).toNat : Int) -
        ((1023 : Nat) + (52 : Nat)) = e := by
      rw [hexp]
      omega
    rw [hpack]
    unfold UnpackedFloat.unpack
    simp only [unpackExponent_packComponents, unpackMantissa_packComponents,
      unpackSign_packComponents, Sign.ofBitVec_toBitVec]
    rw [if_neg hmax, if_neg hmin]
    congr 1
  · have hlt : m < 2 ^ 52 := (Nat.log2_lt hm.ne').mp hlog
    have hpack : UnpackedFloat.pack Format.binary64 (.finite s m (-1074) hm) =
        packComponents Format.binary64 s 0#11 (BitVec.ofNat 52 m) := by
      show (if 2 ^ 11 ≤ (-1074 + (1023 : Nat) + (52 : Nat) : Int).toNat + 1 then
          packedInfinity Format.binary64 s
        else if m.log2 + 1 = 53 then _ else packComponents Format.binary64 s 0#11 _) = _
      rw [if_neg hsmall, if_neg (by omega)]
    have hmant : (BitVec.ofNat 52 m).toNat = m := by
      rw [BitVec.toNat_ofNat]
      exact Nat.mod_eq_of_lt hlt
    have hne : BitVec.ofNat 52 m ≠ 0#52 := by
      intro heq
      have hval := congrArg BitVec.toNat heq
      rw [hmant] at hval
      have h0 : (0#52).toNat = 0 := rfl
      omega
    have hmax : (0#11 : BitVec 11) ≠ -1#11 := by decide
    rw [hpack]
    unfold UnpackedFloat.unpack
    simp only [unpackExponent_packComponents, unpackMantissa_packComponents,
      unpackSign_packComponents, Sign.ofBitVec_toBitVec]
    rw [if_neg hmax, if_pos trivial, dif_neg hne]
    congr 1

/-! ### Rounding -/

/-- `n / 2 ^ k`, rounded to the nearest integer, to the even one in the middle. -/
def roundShift (n k : Nat) : Nat :=
  if 2 * (n % 2 ^ k) < 2 ^ k then n / 2 ^ k
  else if 2 ^ k < 2 * (n % 2 ^ k) then n / 2 ^ k + 1
  else n / 2 ^ k + n / 2 ^ k % 2

/-- A shift without a remainder is a division. -/
theorem roundShift_of_dvd {n k : Nat} (h : 2 ^ k ∣ n) : roundShift n k = n / 2 ^ k := by
  unfold roundShift
  rw [Nat.mod_eq_zero_of_dvd h, if_pos (Nat.two_pow_pos k)]

/-- Rounding goes up by one at most. -/
theorem roundShift_le (n k : Nat) : roundShift n k ≤ n / 2 ^ k + 1 := by
  unfold roundShift
  split
  · omega
  · split <;> omega

/-- It never goes below the division. -/
theorem le_roundShift (n k : Nat) : n / 2 ^ k ≤ roundShift n k := by
  unfold roundShift
  split
  · omega
  · split <;> omega

/-- What the residual bits say after `k` shifts: the first one whether the remainder is at least
one half, the second one whether it is neither nothing nor exactly one half. -/
theorem shifted_bits (n k : Nat) :
    ((⟨n, false, false⟩ : ExtendedMantissa) >>> k).mantissa = n / 2 ^ k ∧
      ((⟨n, false, false⟩ : ExtendedMantissa) >>> k).roundBit = decide (2 ^ k ≤ 2 * (n % 2 ^ k)) ∧
      ((⟨n, false, false⟩ : ExtendedMantissa) >>> k).stickyBit =
        decide (n % 2 ^ k ≠ 0 ∧ 2 * (n % 2 ^ k) ≠ 2 ^ k) := by
  -- One bit after the other: the round bit is the last one out, the sticky bit those before it.
  induction k with
  | zero =>
      show n = n / 1 ∧ false = decide (1 ≤ 2 * (n % 1)) ∧
        false = decide (n % 1 ≠ 0 ∧ 2 * (n % 1) ≠ 1)
      rw [Nat.mod_one, Nat.div_one]
      exact ⟨rfl, rfl, rfl⟩
  | succ k ih =>
      obtain ⟨hmant, hround, hsticky⟩ := ih
      have hstep : ((⟨n, false, false⟩ : ExtendedMantissa) >>> (k + 1)) =
          ((⟨n, false, false⟩ : ExtendedMantissa) >>> k).shiftRightOne := rfl
      have hpos : 0 < 2 ^ k := Nat.two_pow_pos k
      have hlt : n % 2 ^ k < 2 ^ k := Nat.mod_lt _ hpos
      have hmod : n % 2 ^ (k + 1) = n % 2 ^ k + 2 ^ k * (n / 2 ^ k % 2) := by
        rw [pow_succ, Nat.mod_mul]
      have hbit : n / 2 ^ k % 2 = 0 ∨ n / 2 ^ k % 2 = 1 := Nat.mod_two_eq_zero_or_one _
      rw [hstep]
      unfold ExtendedMantissa.shiftRightOne
      dsimp only
      rw [hmant, hround, hsticky, hmod]
      refine ⟨by rw [pow_succ, Nat.div_div_eq_div_mul], ?_, ?_⟩
      · rw [pow_succ, Bool.eq_iff_iff, bne_iff_ne, decide_eq_true_eq]
        rcases hbit with hbit | hbit
        · rw [hbit, mul_zero]
          omega
        · rw [hbit, mul_one]
          omega
      · rw [pow_succ, Bool.eq_iff_iff, Bool.or_eq_true, decide_eq_true_eq, decide_eq_true_eq,
          decide_eq_true_eq]
        rcases hbit with hbit | hbit
        · rw [hbit, mul_zero]
          omega
        · rw [hbit, mul_one]
          omega

/-- The shift of the model rounds like that. -/
theorem roundedMantissa_shift (n k : Nat) :
    ((⟨n, false, false⟩ : ExtendedMantissa) >>> k).roundedMantissa = roundShift n k := by
  obtain ⟨hmant, hround, hsticky⟩ := shifted_bits n k
  generalize ((⟨n, false, false⟩ : ExtendedMantissa) >>> k) = em at hmant hround hsticky
  obtain ⟨m, r, s⟩ := em
  dsimp only at hmant hround hsticky
  subst hmant hround hsticky
  have hpos : 0 < 2 ^ k := Nat.two_pow_pos k
  unfold ExtendedMantissa.roundedMantissa roundShift
  by_cases hlow : 2 * (n % 2 ^ k) < 2 ^ k
  · rw [if_pos hlow, decide_eq_false (by omega)]
    by_cases hzero : n % 2 ^ k = 0
    · rw [decide_eq_false (by omega)]
      rfl
    · rw [decide_eq_true (by omega)]
      rfl
  · rw [if_neg hlow, decide_eq_true (by omega)]
    by_cases hhigh : 2 ^ k < 2 * (n % 2 ^ k)
    · rw [if_pos hhigh, decide_eq_true (by omega)]
      rfl
    · rw [if_neg hhigh, decide_eq_false (by omega)]
      rfl

/-- The exponent that a number is rounded to. -/
def gridExp (m : Nat) (e : Int) : Int := max (m.log2 + e - 52) (-1074)

/-- The exponent the model aims at is that of the grid. -/
theorem targetExponent_eq (m : Nat) (e : Int) :
    Format.binary64.targetExponent (totalExponent m e) = gridExp m e := by
  show max ((m.log2 : Int) + 1 + e - 53) (-1074) = max (m.log2 + e - 52) (-1074)
  omega

/-- The model shifts to it. -/
theorem shiftToTarget_eq {m : Nat} {e : Int} (hle : e ≤ gridExp m e) :
    shiftToTargetExponent Format.binary64 m e .exact =
      ((⟨m, false, false⟩ : ExtendedMantissa) >>> (gridExp m e - e).toNat, gridExp m e) := by
  unfold shiftToTargetExponent shiftToExponent
  rw [targetExponent_eq]
  dsimp only
  have hexp : e + ((gridExp m e - e).toNat : Int) = gridExp m e := by omega
  rw [hexp]
  rfl

/-- Rounding a mantissa of at most 53 bits does nothing. -/
theorem shiftToTarget_small {m : Nat} {e : Int} (hm : m < 2 ^ 53) (hlow : -1074 ≤ e) :
    shiftToTargetExponent Format.binary64 m e .exact = (⟨m, false, false⟩, e) := by
  have hgrid : gridExp m e ≤ e := by
    have hlog : m.log2 ≤ 52 := by
      rcases Nat.eq_zero_or_pos m with rfl | hpos
      · decide
      · exact Nat.le_of_lt_succ ((Nat.log2_lt hpos.ne').mpr hm)
    unfold gridExp
    omega
  have hshift : (gridExp m e - e).toNat = 0 := by omega
  unfold shiftToTargetExponent shiftToExponent
  rw [targetExponent_eq]
  dsimp only
  rw [hshift, Int.natCast_zero, add_zero]
  rfl

/-- The two outcomes of rounding: the rounded mantissa as it is, or shifted once more after a
carry into the 54th bit. -/
theorem roundWithAccuracy_exact (s : Sign) {m : Nat} {e : Int} (hle : e ≤ gridExp m e)
    (hpos : 0 < roundShift m (gridExp m e - e).toNat)
    (hmax : roundShift m (gridExp m e - e).toNat ≤ 2 ^ 53) :
    roundWithAccuracy Format.binary64 s m e .exact =
      if roundShift m (gridExp m e - e).toNat < 2 ^ 53 then
        .finite s (roundShift m (gridExp m e - e).toNat) (gridExp m e) hpos
      else .finite s (2 ^ 52) (gridExp m e + 1) (by decide) := by
  have hgrid : -1074 ≤ gridExp m e := le_max_right _ _
  unfold roundWithAccuracy
  rw [shiftToTarget_eq hle]
  dsimp only
  rw [roundedMantissa_shift]
  by_cases hsmall : roundShift m (gridExp m e - e).toNat < 2 ^ 53
  · rw [if_pos hsmall]
    simp only [shiftToTarget_small hsmall hgrid, hpos.ne', dite_false]
  · rw [if_neg hsmall]
    have hcarry : roundShift m (gridExp m e - e).toNat = 2 ^ 53 := by omega
    have hlog : (2 ^ 53 : Nat).log2 = 53 := by decide
    have hnext : gridExp (2 ^ 53) (gridExp m e) = gridExp m e + 1 := by
      have hmax : max (((2 ^ 53 : Nat).log2 : Int) + gridExp m e - 52) (-1074) =
          gridExp m e + 1 := by
        rw [hlog]
        omega
      exact hmax
    have hone : (gridExp m e + 1 - gridExp m e).toNat = 1 := by omega
    simp only [hcarry, shiftToTarget_eq (m := 2 ^ 53)
      (by omega : _ ≤ gridExp (2 ^ 53) (gridExp m e)),
      hnext, hone]
    rfl

/-! ### Numbers as multiples of the least one -/

/-- The double nearest to a natural number of the least positive doubles. -/
def nearest (n : Nat) : Nat := roundShift n (n.log2 - 52) * 2 ^ (n.log2 - 52)

/-- The value of a finite number, as a multiple of the least positive one. -/
def units : UnpackedFloat → Int
  | .finite s m e _ => s.apply (m * 2 ^ (e + 1074).toNat : Nat)
  | _ => 0

/-- Zeros behind a number are added to its digits. -/
theorem log2_mul_pow {m : Nat} (hm : 0 < m) (k : Nat) : (m * 2 ^ k).log2 = m.log2 + k := by
  induction k with
  | zero => rw [pow_zero, mul_one, add_zero]
  | succ k ih =>
      have hne : m * 2 ^ k ≠ 0 := (Nat.mul_pos hm (Nat.two_pow_pos k)).ne'
      rw [pow_succ, ← mul_assoc, mul_comm, Nat.log2_two_mul hne, ih]
      rfl

/-- Zeros that are shifted out again do not matter. -/
theorem roundShift_scale (m k j : Nat) : roundShift (m * 2 ^ j) (k + j) = roundShift m k := by
  have hpos : 0 < 2 ^ j := Nat.two_pow_pos j
  have hmod : m * 2 ^ j % 2 ^ (k + j) = m % 2 ^ k * 2 ^ j := by
    rw [pow_add, Nat.mul_mod_mul_right]
  have hdiv : m * 2 ^ j / 2 ^ (k + j) = m / 2 ^ k := by
    rw [pow_add, Nat.mul_div_mul_right _ _ hpos]
  have hlt : ∀ a b : Nat, a * 2 ^ j < b * 2 ^ j ↔ a < b := fun a b =>
    Nat.mul_lt_mul_right hpos
  unfold roundShift
  rw [hmod, hdiv, ← mul_assoc, pow_add]
  simp only [hlt]

/-- The number is finite and its value is `n` of the least ones, rounded. -/
def Rounded (u : UnpackedFloat) (s : Sign) (n : Nat) : Prop :=
  ∃ m e hm, u = .finite s m e hm ∧ Canonical m e ∧ m * 2 ^ (e + 1074).toNat = nearest n

/-- Rounding in the model gives the nearest number. -/
theorem roundWithAccuracy_rounded (s : Sign) {m : Nat} {e : Int} (hm : 0 < m) (hlow : -1074 ≤ e)
    (hle : e ≤ gridExp m e) (hmax : (m * 2 ^ (e + 1074).toNat).log2 ≤ 2096) :
    Rounded (roundWithAccuracy Format.binary64 s m e .exact) s (m * 2 ^ (e + 1074).toNat) := by
  have hn : 0 < m * 2 ^ (e + 1074).toNat := Nat.mul_pos hm (Nat.two_pow_pos _)
  -- All is counted in units of the least number, so let `n` be the units of the exact one.
  generalize hN : m * 2 ^ (e + 1074).toNat = n at hn hmax ⊢
  have hlog : n.log2 = m.log2 + (e + 1074).toNat := hN ▸ log2_mul_pow hm _
  have hgrid : gridExp m e = (n.log2 - 52 : Nat) - 1074 := by
    unfold gridExp
    omega
  have hshift : roundShift m (gridExp m e - e).toNat = roundShift n (n.log2 - 52) := by
    rw [← roundShift_scale m (gridExp m e - e).toNat (e + 1074).toNat, hN]
    congr 1
    omega
  -- The quotient has 53 digits, or all of them when the number is subnormal.
  have hquot : n / 2 ^ (n.log2 - 52) < 2 ^ 53 := by
    rw [Nat.div_lt_iff_lt_mul (Nat.two_pow_pos _), ← pow_add]
    exact Nat.lt_of_lt_of_le Nat.lt_log2_self (Nat.pow_le_pow_right (by decide) (by omega))
  have hnormal : 2 ^ 52 ≤ n / 2 ^ (n.log2 - 52) ∨ n.log2 - 52 = 0 := by
    by_cases hsmall : n.log2 ≤ 52
    · exact Or.inr (by omega)
    · left
      rw [Nat.le_div_iff_mul_le (Nat.two_pow_pos _), ← pow_add, Nat.add_sub_cancel' (by omega)]
      exact Nat.log2_self_le hn.ne'
  have hup := roundShift_le n (n.log2 - 52)
  have hdown := le_roundShift n (n.log2 - 52)
  have hpos : 0 < roundShift n (n.log2 - 52) := by
    rcases hnormal with h | h
    · omega
    · rw [h, pow_zero, Nat.div_one] at hdown
      rw [h]
      omega
  rw [roundWithAccuracy_exact s hle (by rw [hshift]; exact hpos) (by rw [hshift]; omega)]
  simp only [hshift]
  split
  · -- No carry: the rounded mantissa fits.
    rename_i hsmall
    refine ⟨_, _, _, rfl, ⟨hsmall, by omega, by omega, ?_⟩, ?_⟩
    · rcases hnormal with h | h
      · exact Or.inl (h.trans hdown)
      · exact Or.inr (by omega)
    · have hexp : (gridExp m e + 1074).toNat = n.log2 - 52 := by omega
      rw [hexp]
      rfl
  · rename_i hbig
    -- The carry makes the mantissa a power of two, one exponent higher.
    have hcarry : roundShift n (n.log2 - 52) = 2 ^ 53 := by omega
    refine ⟨_, _, _, rfl, ⟨by decide, by omega, by omega, Or.inl (le_refl _)⟩, ?_⟩
    have hexp : (gridExp m e + 1 + 1074).toNat = n.log2 - 52 + 1 := by omega
    unfold nearest
    rw [hexp, hcarry, pow_succ]
    ring

/-- So does rounding after any operation. -/
theorem round_rounded (s : Sign) {m : Nat} {e : Int} (hm : 0 < m) (hlow : -1074 ≤ e)
    (hmax : (m * 2 ^ (e + 1074).toNat).log2 ≤ 2096) :
    Rounded (UnpackedFloat.round Format.binary64 s m e) s (m * 2 ^ (e + 1074).toNat) := by
  unfold UnpackedFloat.round decreaseExponent
  rw [targetExponent_eq]
  dsimp only
  rw [Nat.shiftLeft_eq]
  generalize hk : (e - gridExp m e).toNat = k
  have hgrid : -1074 ≤ gridExp m e := le_max_right _ _
  have hm' : 0 < m * 2 ^ k := Nat.mul_pos hm (Nat.two_pow_pos k)
  have hsame : gridExp (m * 2 ^ k) (e - k) = gridExp m e := by
    unfold gridExp
    rw [log2_mul_pow hm]
    push_cast
    congr 1
    ring
  have hvalue : m * 2 ^ k * 2 ^ (e - k + 1074).toNat = m * 2 ^ (e + 1074).toNat := by
    rw [mul_assoc, ← pow_add]
    congr 2
    omega
  rw [← hvalue] at hmax ⊢
  exact roundWithAccuracy_rounded s hm' (by omega) (by omega) hmax

/-- A number: neither an infinity nor NaN. -/
inductive Number : UnpackedFloat → Prop
  | zero (s : Sign) : Number (.zero s)
  | finite (s : Sign) {m : Nat} {e : Int} (hm : 0 < m) (h : Canonical m e) :
      Number (.finite s m e hm)

/-! ### Exact results -/

/-- A number on its own grid is not moved. -/
theorem nearest_of_dvd {n : Nat} (h : 2 ^ (n.log2 - 52) ∣ n) : nearest n = n := by
  unfold nearest
  rw [roundShift_of_dvd h, Nat.div_mul_cancel h]

/-- Zero is not moved. -/
theorem nearest_zero : nearest 0 = 0 := by decide

/-- A number of 53 bits is its own nearest. -/
theorem nearest_mul_pow {m : Nat} (hm : 0 < m) (hbits : m < 2 ^ 53) (k : Nat) :
    nearest (m * 2 ^ k) = m * 2 ^ k := by
  refine nearest_of_dvd ((Nat.pow_dvd_pow 2 ?_).trans (Nat.dvd_mul_left _ m))
  have hlog : m.log2 < 53 := (Nat.log2_lt hm.ne').mpr hbits
  rw [log2_mul_pow hm]
  omega

/-- A canonical number is rounded to itself. -/
theorem Canonical.rounded (s : Sign) {m : Nat} {e : Int} (hm : 0 < m) (h : Canonical m e) :
    Rounded (.finite s m e hm) s (m * 2 ^ (e + 1074).toNat) :=
  ⟨m, e, hm, rfl, h, (nearest_mul_pow hm h.bits _).symm⟩

/-- A rounded number survives the way through its bits. -/
theorem Rounded.unpack_pack {u : UnpackedFloat} {s : Sign} {n : Nat} (h : Rounded u s n) :
    Number (Float.Model.pack u).unpack ∧
    units (Float.Model.pack u).unpack = s.apply (nearest n) := by
  obtain ⟨m, e, hm, rfl, hcanon, hvalue⟩ := h
  rw [Float64.unpack_pack hm hcanon, ← hvalue]
  exact ⟨.finite s hm hcanon, rfl⟩

/-- Zero keeps its sign in memory. -/
theorem unpack_pack_zero (s : Sign) : (Float.Model.pack (.zero s)).unpack = .zero s := by
  cases s <;> rfl

/-- What is no number is stored as such. -/
theorem unpack_pack_notANumber : (Float.Model.pack .notANumber).unpack = .notANumber := rfl

/-! ### Where rounding crosses a bound -/

/-- Rounding stays below an even number exactly below the middle to its predecessor. -/
theorem roundShift_lt_even {n k c : Nat} (hc : c % 2 = 0) :
    roundShift n k < c ↔ 2 * n + 2 ^ k < 2 * (c * 2 ^ k) := by
  have hdecomp := Nat.div_add_mod n (2 ^ k)
  have hlt : n % 2 ^ k < 2 ^ k := Nat.mod_lt _ (Nat.two_pow_pos k)
  unfold roundShift
  generalize n % 2 ^ k = r at *
  generalize n / 2 ^ k = q at *
  generalize 2 ^ k = p at *
  rw [mul_comm] at hdecomp
  rcases Nat.lt_or_ge q c with hq | hq
  · rcases Nat.lt_or_ge (q + 1) c with hq' | hq'
    · have hmul : (q + 2) * p ≤ c * p := Nat.mul_le_mul_right p hq'
      rw [Nat.add_mul] at hmul
      split
      · omega
      · split <;> omega
    · -- The odd number below the bound: half-way is rounded up to the bound.
      obtain rfl : c = q + 1 := by omega
      rw [Nat.add_mul]
      split
      · omega
      · split <;> omega
  · have hmul : c * p ≤ q * p := Nat.mul_le_mul_right p hq
    split
    · omega
    · split <;> omega

/-- Rounding does not go beyond the next power of two. -/
theorem nearest_le_pow (n : Nat) : nearest n ≤ 2 ^ (n.log2 + 1) := by
  unfold nearest
  by_cases hsmall : n.log2 ≤ 52
  · have hzero : n.log2 - 52 = 0 := by omega
    rw [hzero, roundShift_of_dvd (one_dvd n), pow_zero, mul_one, Nat.div_one]
    exact Nat.lt_log2_self.le
  · have hquot : n / 2 ^ (n.log2 - 52) < 2 ^ 53 := by
      rw [Nat.div_lt_iff_lt_mul (Nat.two_pow_pos _), ← pow_add]
      exact Nat.lt_of_lt_of_le Nat.lt_log2_self (Nat.pow_le_pow_right (by decide) (by omega))
    calc roundShift n (n.log2 - 52) * 2 ^ (n.log2 - 52)
        ≤ 2 ^ 53 * 2 ^ (n.log2 - 52) :=
          Nat.mul_le_mul_right _ ((roundShift_le n _).trans hquot)
      _ = 2 ^ (n.log2 + 1) := by
          rw [← pow_add]
          congr 1
          omega

/-- Nor beyond twice the number. -/
theorem nearest_le_double (n : Nat) : nearest n ≤ 2 * n := by
  rcases Nat.eq_zero_or_pos n with rfl | hpos
  · exact nearest_zero.le
  · calc nearest n
        ≤ 2 ^ (n.log2 + 1) := nearest_le_pow n
      _ = 2 * 2 ^ n.log2 := pow_succ' 2 _
      _ ≤ 2 * n := Nat.mul_le_mul_left 2 (Nat.log2_self_le hpos.ne')

/-- Which numbers are rounded to less than `c * 2 ^ k`, for an even `c` of 53 bits. -/
theorem nearest_lt {n k c : Nat} (hc : c % 2 = 0) (hlow : 2 ^ 52 < c) (hhigh : c < 2 ^ 53)
    (hn : n ≤ c * 2 ^ k) : nearest n < c * 2 ^ k ↔ 2 * n + 2 ^ k < 2 * (c * 2 ^ k) := by
  have hpow : 0 < 2 ^ k := Nat.two_pow_pos k
  rcases Nat.lt_or_ge n (2 ^ (52 + k)) with hsmall | hbig
  · have hc' : (2 ^ 52 + 1) * 2 ^ k ≤ c * 2 ^ k := Nat.mul_le_mul_right _ hlow
    have hsplit : 2 ^ (52 + k) = 2 ^ 52 * 2 ^ k := pow_add 2 52 k
    rw [Nat.add_mul] at hc'
    refine iff_of_true ?_ (by omega)
    have hle : nearest n ≤ 2 ^ (52 + k) := by
      rcases Nat.eq_zero_or_pos n with rfl | hpos
      · exact Nat.zero_le _
      · have hlog : n.log2 < 52 + k := (Nat.log2_lt hpos.ne').mpr hsmall
        exact (nearest_le_pow n).trans (Nat.pow_le_pow_right (by decide) hlog)
    omega
  · have hlog : n.log2 = 52 + k := by
      have hne : n ≠ 0 := (lt_of_lt_of_le (Nat.two_pow_pos _) hbig).ne'
      rw [Nat.log2_eq_iff hne]
      refine ⟨hbig, hn.trans_lt ?_⟩
      rw [show 52 + k + 1 = 53 + k by omega, pow_add]
      exact Nat.mul_lt_mul_of_pos_right hhigh hpow
    unfold nearest
    rw [hlog, Nat.add_sub_cancel_left, Nat.mul_lt_mul_right hpow]
    exact roundShift_lt_even hc

end BotCockpit.Lib.Float64
