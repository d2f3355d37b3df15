import BotCockpit.Lib.Rounding

/-!
# `BotCockpit.Lib.Float64`: values of `Float`

The comparison, the difference and the division by one half of `Float`, in terms of values: numbers
are compared by value (`lt_iff_value`), a difference is the exact one after one rounding
(`value_sub`), and division by one half doubles the value (`value_div_half`).
-/

set_option autoImplicit false

namespace BotCockpit.Lib.Float64

open Float.Model Float.Model.UnpackedFloat

/-! ### Comparison -/

/-- An unpacked `double` is no number, infinite, or a number. -/
theorem unpack_cases (x : Float.Model) :
    x.unpack = .notANumber ∨ (∃ s, x.unpack = .infinity s) ∨ Number x.unpack := by
  cases h : x.unpack with
  | notANumber => exact Or.inl rfl
  | infinity s => exact Or.inr (Or.inl ⟨s, rfl⟩)
  | zero s => exact Or.inr (Or.inr (.zero s))
  | finite s m e hm => exact Or.inr (Or.inr (.finite s hm (canonical_of_unpack h)))

/-- A canonical number with a smaller exponent is smaller. -/
theorem Canonical.lt_of_exp {m m' : Nat} {e e' : Int} (h : Canonical m e) (h' : Canonical m' e')
    (hlt : e < e') : m * 2 ^ (e + 1074).toNat < m' * 2 ^ (e' + 1074).toNat := by
  have hlow := h.low
  have hm' : 2 ^ 52 ≤ m' := h'.normal.resolve_right (by omega)
  calc m * 2 ^ (e + 1074).toNat
      < 2 ^ 53 * 2 ^ (e + 1074).toNat := Nat.mul_lt_mul_of_pos_right h.bits (Nat.two_pow_pos _)
    _ = 2 ^ 52 * 2 ^ ((e + 1074).toNat + 1) := by rw [pow_succ]; ring
    _ ≤ 2 ^ 52 * 2 ^ (e' + 1074).toNat :=
        Nat.mul_le_mul_left _ (Nat.pow_le_pow_right (by decide) (by omega))
    _ ≤ m' * 2 ^ (e' + 1074).toNat := Nat.mul_le_mul_right _ hm'

/-- The order of canonical numbers is that of their exponents and then that of their mantissas. -/
theorem Canonical.lt_iff {m m' : Nat} {e e' : Int} (h : Canonical m e) (h' : Canonical m' e') :
    m * 2 ^ (e + 1074).toNat < m' * 2 ^ (e' + 1074).toNat ↔ e < e' ∨ e = e' ∧ m < m' := by
  rcases lt_trichotomy e e' with hlt | rfl | hgt
  · exact iff_of_true (h.lt_of_exp h' hlt) (Or.inl hlt)
  · rw [Nat.mul_lt_mul_right (Nat.two_pow_pos _)]
    exact ⟨fun hlt => Or.inr ⟨rfl, hlt⟩, fun hor => (hor.resolve_left (lt_irrefl e)).2⟩
  · refine iff_of_false (h'.lt_of_exp h hgt).not_gt ?_
    omega

/-- Comparing the exponents and then the mantissas: less. -/
theorem lex_lt {m m' : Nat} {e e' : Int} :
    (compare e e').then (compare m m') = .lt ↔ e < e' ∨ e = e' ∧ m < m' := by
  rw [Ordering.then_eq_lt, compare_lt_iff_lt, compare_lt_iff_lt, compare_eq_iff_eq]

/-- The same: greater. -/
theorem lex_gt {m m' : Nat} {e e' : Int} :
    (compare e e').then (compare m m') = .gt ↔ e' < e ∨ e' = e ∧ m' < m := by
  rw [Ordering.then_eq_gt, compare_gt_iff_gt, compare_gt_iff_gt, compare_eq_iff_eq]
  exact or_congr_right (and_congr_left' eq_comm)

/-- The comparison of numbers is that of their values. -/
theorem lt_iff_units {u v : UnpackedFloat} (hu : Number u) (hv : Number v) :
    u.lt v = true ↔ units u < units v := by
  have hpos : ∀ {m : Nat} (e : Int), 0 < m → (0 : Int) < (m * 2 ^ (e + 1074).toNat : Nat) :=
    fun e hm => by exact_mod_cast Nat.mul_pos hm (Nat.two_pow_pos _)
  unfold UnpackedFloat.lt
  rw [beq_iff_eq]
  cases hu with
  | zero s =>
      -- Both zeros are equal, whatever their signs.
      cases hv with
      | zero s' => exact iff_of_false (by simp [UnpackedFloat.compare]) (lt_irrefl _)
      | finite s' hm' h' =>
          cases s' with
          | positive => exact iff_of_true rfl (hpos _ hm')
          | negative =>
              exact iff_of_false (by simp [UnpackedFloat.compare])
                (not_lt.mpr (Int.neg_nonpos_of_nonneg (hpos _ hm').le))
  | finite s hm h =>
      cases hv with
      | zero s' =>
          cases s with
          | positive =>
              exact iff_of_false (by simp [UnpackedFloat.compare]) (not_lt.mpr (hpos _ hm).le)
          -- Two negative numbers: the larger amount is the smaller number.
          | negative => exact iff_of_true rfl (Int.neg_neg_of_pos (hpos _ hm))
      | finite s' hm' h' =>
          cases s with
          | positive =>
              cases s' with
              | positive =>
                  simp only [UnpackedFloat.compare, Option.some.injEq, lex_lt, units, Sign.apply,
                    Int.ofNat_lt, h.lt_iff h']
              | negative =>
                  refine iff_of_false (by simp [UnpackedFloat.compare]) (not_lt.mpr ?_)
                  exact (Int.neg_nonpos_of_nonneg (hpos _ hm').le).trans (hpos _ hm).le
          | negative =>
              cases s' with
              | positive =>
                  exact iff_of_true rfl ((Int.neg_neg_of_pos (hpos _ hm)).trans (hpos _ hm'))
              | negative =>
                  simp only [UnpackedFloat.compare, Option.some.injEq, Ordering.swap_eq_lt, lex_gt,
                    units, Sign.apply, neg_lt_neg_iff, Int.ofNat_lt, h'.lt_iff h]

/-- What is no number is below nothing. -/
theorem nan_not_lt (u : UnpackedFloat) : UnpackedFloat.notANumber.lt u = false := rfl

/-! ### Differences -/

/-- A smaller exponent with a larger mantissa is the same number of units. -/
theorem decreaseExponent_units {s : Sign} {m : Nat} {e t : Int} (hle : t ≤ e) (hlow : -1074 ≤ t) :
    s.apply (decreaseExponent m e t).1 * 2 ^ (t + 1074).toNat =
      s.apply (m * 2 ^ (e + 1074).toNat : Nat) := by
  have hmant : (decreaseExponent m e t).1 * 2 ^ (t + 1074).toNat = m * 2 ^ (e + 1074).toNat := by
    show m <<< (e - t).toNat * 2 ^ (t + 1074).toNat = _
    rw [Nat.shiftLeft_eq, mul_assoc, ← pow_add]
    congr 2
    omega
  rw [← hmant]
  cases s with
  | positive =>
      show ((decreaseExponent m e t).1 : Int) * 2 ^ (t + 1074).toNat = _
      push_cast
      rfl
  | negative =>
      show -((decreaseExponent m e t).1 : Int) * 2 ^ (t + 1074).toNat = -_
      push_cast
      ring

/-- A positive difference of numbers is the difference of their values, rounded once. -/
theorem sub_rounded {u v : UnpackedFloat} (hu : Number u) (hv : Number v)
    (hpos : 0 < units u - units v) (hmax : (units u - units v).toNat.log2 ≤ 2096) :
    Rounded (UnpackedFloat.sub Format.binary64 u v) .positive (units u - units v).toNat := by
  cases hu with
  | zero s =>
      -- A difference from zero is the other number with its sign turned.
      cases hv with
      | zero s' => exact absurd hpos (lt_irrefl _)
      | @finite s' m' e' hm' h' =>
          cases s' with
          | positive =>
              have hneg : 0 < 0 - ((m' * 2 ^ (e' + 1074).toNat : Nat) : Int) := hpos
              omega
          | negative =>
              have hdiff : units (.zero s) - units (.finite .negative m' e' hm') =
                  ((m' * 2 ^ (e' + 1074).toNat : Nat) : Int) := by
                show 0 - -((m' * 2 ^ (e' + 1074).toNat : Nat) : Int) = _
                omega
              rw [hdiff]
              exact h'.rounded .positive hm'
  | @finite s m e hm h =>
      cases hv with
      | zero s' =>
          have hdiff : units (.finite s m e hm) - units (.zero s') =
              s.apply (m * 2 ^ (e + 1074).toNat : Nat) := sub_zero _
          rw [hdiff] at hpos ⊢
          cases s with
          | positive => exact h.rounded .positive hm
          | negative =>
              have hneg : 0 < -((m * 2 ^ (e + 1074).toNat : Nat) : Int) := hpos
              omega
      | @finite s' m' e' hm' h' =>
          -- Both mantissas are brought to the smaller exponent and subtracted, then rounded.
          have hlow : -1074 ≤ min e e' := le_min h.low h'.low
          have hfirst := decreaseExponent_units (s := s) (m := m) (min_le_left e e') hlow
          have hsecond := decreaseExponent_units (s := s') (m := m') (min_le_right e e') hlow
          generalize hM : s.apply (decreaseExponent m e (min e e')).1 -
            s'.apply (decreaseExponent m' e' (min e e')).1 = M
          have hdiff : units (.finite s m e hm) - units (.finite s' m' e' hm') =
              M * 2 ^ (min e e' + 1074).toNat := by
            show s.apply _ - s'.apply _ = _
            rw [← hfirst, ← hsecond, ← hM, sub_mul]
          have hpow : (0 : Int) < 2 ^ (min e e' + 1074).toNat := by positivity
          rw [hdiff] at hpos hmax ⊢
          have hMpos : 0 < M := (mul_pos_iff_of_pos_right hpow).mp hpos
          have hnat : (M * 2 ^ (min e e' + 1074).toNat).toNat =
              M.toNat * 2 ^ (min e e' + 1074).toNat := by
            rw [Int.toNat_mul hMpos.le hpow.le]
            congr 1
          rw [hnat] at hmax ⊢
          have hsub : UnpackedFloat.sub Format.binary64 (.finite s m e hm) (.finite s' m' e' hm') =
              UnpackedFloat.round Format.binary64 .positive M.toNat (min e e') := by
            show UnpackedFloat.normalize Format.binary64
              (s.apply (decreaseExponent m e (min e e')).1 -
              s'.apply (decreaseExponent m' e' (min e e')).1) (min e e') .positive = _
            rw [hM, UnpackedFloat.normalize, compare_gt_iff_gt.mpr hMpos]
          rw [hsub]
          exact round_rounded .positive (by omega) hlow hmax

/-- Numbers of one value have the difference zero. -/
theorem sub_self_units {u v : UnpackedFloat} (hu : Number u) (hv : Number v)
    (heq : units u = units v) : ∃ s, UnpackedFloat.sub Format.binary64 u v = .zero s := by
  have hne : ∀ (s : Sign) {m : Nat} (e : Int), 0 < m →
      s.apply (m * 2 ^ (e + 1074).toNat : Nat) ≠ 0 := by
    intro s m e hm
    have hpos : 0 < m * 2 ^ (e + 1074).toNat := Nat.mul_pos hm (Nat.two_pow_pos _)
    cases s with
    | positive => exact Int.natCast_ne_zero.mpr hpos.ne'
    | negative => exact neg_ne_zero.mpr (Int.natCast_ne_zero.mpr hpos.ne')
  cases hu with
  | zero s =>
      cases hv with
      | zero s' => cases s <;> cases s' <;> exact ⟨_, rfl⟩
      | finite s' hm' h' => exact absurd heq.symm (hne s' _ hm')
  | @finite s m e hm h =>
      cases hv with
      | zero s' => exact absurd heq (hne s _ hm)
      | @finite s' m' e' hm' h' =>
          have hlow : -1074 ≤ min e e' := le_min h.low h'.low
          have hfirst := decreaseExponent_units (s := s) (m := m) (min_le_left e e') hlow
          have hsecond := decreaseExponent_units (s := s') (m := m') (min_le_right e e') hlow
          have hpow : (0 : Int) < 2 ^ (min e e' + 1074).toNat := by positivity
          have hsame : s.apply (decreaseExponent m e (min e e')).1 =
              s'.apply (decreaseExponent m' e' (min e e')).1 :=
            mul_right_cancel₀ hpow.ne' (hfirst.trans (heq.trans hsecond.symm))
          refine ⟨.positive, ?_⟩
          show UnpackedFloat.normalize Format.binary64
            (s.apply (decreaseExponent m e (min e e')).1 -
            s'.apply (decreaseExponent m' e' (min e e')).1) (min e e') .positive = _
          rw [hsame, sub_self]
          rfl

/-! ### Division by one half -/

/-- `0.5`. -/
abbrev half : UnpackedFloat := .finite .positive (2 ^ 52) (-53) (by decide)

/-- The division by one half doubles the value, without rounding. -/
theorem div_half {s : Sign} {m : Nat} {e : Int} (hm : 0 < m) (h : Canonical m e)
    (hhigh : e < 970) :
    Rounded (UnpackedFloat.div Format.binary64 (.finite s m e hm) half) s
      (2 * (m * 2 ^ (e + 1074).toNat)) := by
  have hgrid : gridExp m e = e := by
    unfold gridExp
    have hlow := h.low
    rcases h.log2 hm with hlog | ⟨hlog, rfl⟩ <;> omega
  -- A half is `2 ^ 52 * 2 ^ (-53)`, so the quotient of the mantissas is exact.
  have hcore : divCore Format.binary64 m e (2 ^ 52) (-53) = (2 * m, e, .exact) := by
    have htotal : totalExponent m e - totalExponent (2 ^ 52) (-53) = totalExponent m e := by
      have hhalf : totalExponent (2 ^ 52) (-53) = 0 := by decide
      rw [hhalf, sub_zero]
    unfold divCore
    rw [htotal, targetExponent_eq, hgrid]
    have hmin : min (e - -53) e = e := by omega
    have hshift : (e - -53 - e).toNat = 53 := by omega
    have hprod : m <<< 53 = 2 * m * 2 ^ 52 := by
      rw [Nat.shiftLeft_eq]
      ring
    dsimp only
    rw [hmin, hshift, hprod, Nat.mul_div_cancel _ (Nat.two_pow_pos 52), Nat.mul_mod_left]
    rfl
  have hdiv : UnpackedFloat.div Format.binary64 (.finite s m e hm) half =
      roundWithAccuracy Format.binary64 s (2 * m) e .exact := by
    show (match divCore Format.binary64 m e (2 ^ 52) (-53) with
      | (m, e, acc) => roundWithAccuracy Format.binary64 (s / Sign.positive) m e acc) = _
    rw [hcore]
    cases s <;> rfl
  -- Doubling moves the grid up by one at most.
  have hgrid' : e ≤ gridExp (2 * m) e := by
    have hlog : (2 * m).log2 = m.log2 + 1 := Nat.log2_two_mul hm.ne'
    have hself : e = max ((m.log2 : Int) + e - 52) (-1074) := hgrid.symm
    show e ≤ max (((2 * m).log2 : Int) + e - 52) (-1074)
    rw [hlog]
    omega
  have hlog : (2 * m * 2 ^ (e + 1074).toNat).log2 ≤ 2096 := by
    have hlow := h.low
    have hlog := h.log2 hm
    rw [log2_mul_pow (by omega), Nat.log2_two_mul hm.ne']
    omega
  rw [hdiv, ← mul_assoc]
  have hrounded := roundWithAccuracy_rounded s (Nat.mul_pos two_pos hm) h.low hgrid' hlog
  exact hrounded

/-- Zero over a half is zero. -/
theorem div_half_zero (s : Sign) :
    ∃ s', UnpackedFloat.div Format.binary64 (.zero s) half = .zero s' := by
  cases s <;> exact ⟨_, rfl⟩

/-! ### On `Float` -/

/-- The value of a `Float`, as a multiple of the least positive one; nothing of infinities and
NaN. -/
def value (x : Float) : Int := units x.toModel.unpack

/-- Neither an infinity nor NaN. -/
def IsNumber (x : Float) : Prop := Number x.toModel.unpack

/-- The value is read off the unpacked form. -/
theorem value_of_unpack {x : Float} {s : Sign} {m : Nat} {e : Int} {hm : 0 < m} {k : Nat}
    (h : x.toModel.unpack = .finite s m e hm) (hk : (e + 1074).toNat = k) :
    value x = s.apply m * 2 ^ k := by
  unfold value
  rw [h, units, hk]
  cases s with
  | positive => exact (Nat.cast_mul m (2 ^ k)).trans (by rw [Nat.cast_pow, Nat.cast_ofNat]; rfl)
  | negative =>
      show -((m * 2 ^ k : Nat) : Int) = -(m : Int) * 2 ^ k
      rw [Nat.cast_mul, Nat.cast_pow, Nat.cast_ofNat, neg_mul]

/-- A finite form is a number. -/
theorem isNumber_of_unpack {x : Float} {s : Sign} {m : Nat} {e : Int} {hm : 0 < m}
    (h : x.toModel.unpack = .finite s m e hm) : IsNumber x := by
  unfold IsNumber
  rw [h]
  exact .finite s hm (canonical_of_unpack h)

/-- Numbers are compared by their values. -/
theorem lt_iff_value {x y : Float} (hx : IsNumber x) (hy : IsNumber y) :
    x < y ↔ value x < value y := by
  show decide (x.toModel < y.toModel) = true ↔ _
  rw [decide_eq_true_iff]
  exact lt_iff_units hx hy

/-- Rounding does not move the units of a number. -/
theorem Number.nearest {u : UnpackedFloat} (hu : Number u) (hpos : 0 ≤ units u) :
    (Float64.nearest (units u).toNat : Int) = units u := by
  cases hu with
  | zero s => exact congrArg Int.ofNat nearest_zero
  | @finite s m e hm h =>
      have hnat : (units (.finite s m e hm)).toNat = m * 2 ^ (e + 1074).toNat := by
        have hn : 0 < m * 2 ^ (e + 1074).toNat := Nat.mul_pos hm (Nat.two_pow_pos _)
        cases s with
        | positive => rfl
        | negative =>
            have hneg : 0 ≤ -((m * 2 ^ (e + 1074).toNat : Nat) : Int) := hpos
            omega
      rw [hnat, nearest_mul_pow hm h.bits, ← hnat, Int.toNat_of_nonneg hpos]

/-- Nor the value of one. -/
theorem nearest_value {x : Float} (hx : IsNumber x) (hpos : 0 ≤ value x) :
    (nearest (value x).toNat : Int) = value x := hx.nearest hpos

/-- A difference that is not negative: the exact one, rounded. -/
theorem value_sub {x y : Float} (hx : IsNumber x) (hy : IsNumber y) (hle : value y ≤ value x)
    (hmax : (value x - value y).toNat.log2 ≤ 2096) :
    IsNumber (x - y) ∧ value (x - y) = nearest (value x - value y).toNat := by
  have hsub : (x - y).toModel =
      Float.Model.pack (UnpackedFloat.sub Format.binary64 x.toModel.unpack y.toModel.unpack) := rfl
  unfold IsNumber value
  rw [hsub]
  rcases hle.eq_or_lt with heq | hlt
  · obtain ⟨s, hzero⟩ := sub_self_units hx hy heq.symm
    rw [hzero, unpack_pack_zero]
    unfold value at heq
    rw [heq, sub_self]
    exact ⟨.zero s, rfl⟩
  · exact (sub_rounded hx hy (sub_pos.mpr hlt) hmax).unpack_pack

/-- The sign does not change the amount. -/
theorem natAbs_apply (s : Sign) (n : Nat) : (s.apply n).natAbs = n := by
  cases s with
  | positive => rfl
  | negative => exact Int.natAbs_neg n

/-- A difference with no number is none. -/
theorem unpack_sub_of_nan {x : Float} (h : x.toModel.unpack = .notANumber) (y : Float) :
    (x - y).toModel.unpack = .notANumber := by
  show (Float.Model.pack
    (UnpackedFloat.sub Format.binary64 x.toModel.unpack y.toModel.unpack)).unpack = .notANumber
  rw [h]
  simp only [UnpackedFloat.sub, unpack_pack_notANumber]

/-- Nor is a quotient with none. -/
theorem unpack_div_of_nan {x : Float} (h : x.toModel.unpack = .notANumber) (y : Float) :
    (x / y).toModel.unpack = .notANumber := by
  show (Float.Model.pack
    (UnpackedFloat.div Format.binary64 x.toModel.unpack y.toModel.unpack)).unpack = .notANumber
  rw [h]
  simp only [UnpackedFloat.div, unpack_pack_notANumber]

/-- What is no number is below nothing, as `Float` compares. -/
theorem not_lt_of_nan {x : Float} (h : x.toModel.unpack = .notANumber) (y : Float) : ¬x < y := by
  show ¬decide (x.toModel < y.toModel) = true
  rw [decide_eq_true_iff]
  show ¬x.toModel.unpack.lt y.toModel.unpack = true
  rw [h, nan_not_lt]
  exact Bool.false_ne_true

/-- Over a half a number doubles, as long as it stays in range. -/
theorem value_div_half {x : Float} (hx : IsNumber x) {k : Nat} (hk : k ≤ 2043)
    (hmax : (value x).natAbs < 2 ^ k) :
    IsNumber (x / 0.5) ∧ value (x / 0.5) = 2 * value x := by
  have hdiv : (x / 0.5).toModel =
      Float.Model.pack (UnpackedFloat.div Format.binary64 x.toModel.unpack half) := rfl
  unfold IsNumber value at *
  rw [hdiv]
  generalize x.toModel.unpack = u at hx hmax
  cases hx with
  | zero s =>
      obtain ⟨s', hzero⟩ := div_half_zero s
      rw [hzero, unpack_pack_zero]
      exact ⟨.zero s', rfl⟩
  | @finite s m e hm h =>
      rw [units, natAbs_apply] at hmax
      -- The bound keeps the doubled number below the largest one.
      have hexp : (e + 1074).toNat < k :=
        (Nat.pow_lt_pow_iff_right Nat.one_lt_two).mp
          ((Nat.le_mul_of_pos_left _ hm).trans_lt hmax)
      obtain ⟨hnumber, hvalue⟩ := (div_half hm h (by omega)).unpack_pack
      refine ⟨hnumber, hvalue.trans ?_⟩
      -- Twice a number of 53 digits has 53 digits.
      have hexact : nearest (2 * (m * 2 ^ (e + 1074).toNat)) = 2 * (m * 2 ^ (e + 1074).toNat) := by
        have hshift : 2 * (m * 2 ^ (e + 1074).toNat) = m * 2 ^ ((e + 1074).toNat + 1) := by
          rw [pow_succ]
          ring
        rw [hshift]
        exact nearest_mul_pow hm h.bits _
      rw [hexact]
      cases s with
      | positive =>
          show ((2 * (m * 2 ^ (e + 1074).toNat) : Nat) : Int) = 2 * _
          push_cast
          rfl
      | negative =>
          show -((2 * (m * 2 ^ (e + 1074).toNat) : Nat) : Int) = 2 * -_
          push_cast
          ring

end BotCockpit.Lib.Float64
