import Mathlib.Data.Nat.Digits.Defs
import Mathlib.Data.List.Basic

/-!
# `BotCockpit.Lib.Bytes`: byte strings, substring search and decimal text

A byte string is a list of bytes. A position in a string is represented by the suffix that
starts there, so a search returns the suffix after the match (`afterFirst`), and "continue
from position `k`" is "continue on the suffix".

* `afterFirst_skip` and `afterFirst_cons_ne` walk a search over a part of the text in which
  the first byte of the needle does not occur. `afterFirst_hit` ends it.
* `decimal n` is the decimal text of `n`, and `readNat` reads the value of a digit string.
  `readNat_decimal` and `takeWhile_isDigit_decimal` give the round trip in front of any text
  that does not start with a digit.
-/

set_option autoImplicit false

namespace BotCockpit.Lib

/-- A byte string. -/
abbrev Bytes := List UInt8

/-- The bytes of an ASCII literal. -/
def ascii (s : String) : Bytes := s.toList.map fun c => c.toNat.toUInt8

/-- A key of a JSON object in its quotes, as the scanners search for it. -/
def quoted (key : String) : Bytes := 34 :: (ascii key ++ [34])

/-- A quoted key is not empty. -/
theorem quoted_ne_nil (key : String) : quoted key ≠ [] := by simp [quoted]

/-! ### Search -/

/-- The suffix after the first occurrence of `needle`. `none` when it does not occur. -/
def afterFirst (needle : Bytes) : Bytes → Option Bytes
  | [] => if needle = [] then some [] else none
  | b :: bs =>
      if needle <+: b :: bs then some ((b :: bs).drop needle.length)
      else afterFirst needle bs

/-- In the empty text nothing is found. -/
theorem afterFirst_nil {needle : Bytes} (h : needle ≠ []) : afterFirst needle [] = none := by
  simp [afterFirst, h]

/-- A byte other than the first byte of the needle is skipped. -/
theorem afterFirst_cons_ne {q b : UInt8} {needle bs : Bytes} (h : q ≠ b) :
    afterFirst (q :: needle) (b :: bs) = afterFirst (q :: needle) bs := by
  simp [afterFirst, List.cons_prefix_cons, h]

/-- A text without the first byte of the needle is skipped. -/
theorem afterFirst_skip {q : UInt8} {needle pre : Bytes} (h : q ∉ pre) (bs : Bytes) :
    afterFirst (q :: needle) (pre ++ bs) = afterFirst (q :: needle) bs := by
  induction pre with
  | nil => rfl
  | cons b pre ih =>
      simp only [List.mem_cons, not_or] at h
      rw [List.cons_append, afterFirst_cons_ne h.1, ih h.2]

/-- Nor is anything where its first byte does not occur. -/
theorem afterFirst_none {q : UInt8} {needle bs : Bytes} (h : q ∉ bs) :
    afterFirst (q :: needle) bs = none := by
  rw [← List.append_nil bs, afterFirst_skip h]
  exact afterFirst_nil (by simp)

/-- The search stops at a text that starts with the needle. -/
theorem afterFirst_hit {needle : Bytes} (bs : Bytes) :
    afterFirst needle (needle ++ bs) = some bs := by
  cases needle with
  | nil => cases bs <;> simp [afterFirst]
  | cons q needle =>
      rw [List.cons_append, afterFirst, if_pos]
      · simp
      · rw [← List.cons_append]
        exact List.prefix_append _ _

/-- The suffix a search returns is shorter than the text, for a non-empty needle. -/
theorem length_afterFirst_lt {needle : Bytes} (hne : needle ≠ []) :
    ∀ {bs rest : Bytes}, afterFirst needle bs = some rest → rest.length < bs.length := by
  intro bs
  induction bs with
  | nil => intro rest h; simp [afterFirst_nil hne] at h
  | cons b bs ih =>
      intro rest h
      have hpos : 0 < needle.length := List.length_pos_iff.mpr hne
      rw [afterFirst] at h
      split at h
      · simp only [Option.some.injEq] at h
        subst h
        simp only [List.length_drop, List.length_cons]
        omega
      · have := ih h
        simp only [List.length_cons]
        omega

/-- A search ends after an occurrence of the needle. -/
theorem afterFirst_eq_some {needle : Bytes} :
    ∀ {bs rest : Bytes}, afterFirst needle bs = some rest →
      ∃ pre, bs = pre ++ (needle ++ rest) := by
  intro bs
  induction bs with
  | nil =>
      intro rest h
      rw [afterFirst] at h
      split at h
      · rename_i hneedle
        cases h
        exact ⟨[], by simpa using hneedle⟩
      · cases h
  | cons b bs ih =>
      intro rest h
      rw [afterFirst] at h
      split at h
      · rename_i hprefix
        obtain ⟨tail, htail⟩ := hprefix
        rw [← htail, List.drop_left, Option.some.injEq] at h
        exact ⟨[], by rw [← htail, h]; rfl⟩
      · obtain ⟨pre, hpre⟩ := ih h
        exact ⟨b :: pre, by rw [hpre]; rfl⟩

/-! ### Decimal text -/

/-- An ASCII decimal digit. -/
def isDigit (b : UInt8) : Bool := 48 ≤ b && b ≤ 57

/-- The decimal digits of `n`, most significant first. -/
def decimal (n : Nat) : Bytes :=
  if n < 10 then [UInt8.ofNat (48 + n)]
  else decimal (n / 10) ++ [UInt8.ofNat (48 + n % 10)]

/-- The value of a digit string. -/
def readNat (ds : Bytes) : Nat :=
  ds.foldl (fun acc d => 10 * acc + (d.toNat - 48)) 0

/-- One digit more, at the end. -/
theorem readNat_append_singleton (ds : Bytes) (d : UInt8) :
    readNat (ds ++ [d]) = 10 * readNat ds + (d.toNat - 48) := by
  simp [readNat, List.foldl_append]

/-- The byte of a digit. -/
theorem toNat_ofNat_digit {d : Nat} (h : d < 10) : (UInt8.ofNat (48 + d)).toNat = 48 + d := by
  rw [UInt8.toNat_ofNat']
  omega

/-- It is a digit. -/
theorem isDigit_ofNat_digit {d : Nat} (h : d < 10) : isDigit (UInt8.ofNat (48 + d)) = true := by
  simp only [isDigit, Bool.and_eq_true, decide_eq_true_eq, UInt8.le_iff_toNat_le,
    toNat_ofNat_digit h]
  exact ⟨by simp, by simp; omega⟩

/-- A number has a digit. -/
theorem decimal_ne_nil (n : Nat) : decimal n ≠ [] := by
  rw [decimal]
  split <;> simp

/-- Every byte of a decimal text is a digit. -/
theorem isDigit_of_mem_decimal (n : Nat) : ∀ b ∈ decimal n, isDigit b = true := by
  induction n using decimal.induct with
  | case1 n h =>
      intro b hb
      rw [decimal, if_pos h, List.mem_singleton] at hb
      rw [hb]
      exact isDigit_ofNat_digit h
  | case2 n h ih =>
      intro b hb
      rw [decimal, if_neg h, List.mem_append, List.mem_singleton] at hb
      rcases hb with hb | hb
      · exact ih b hb
      · rw [hb]
        exact isDigit_ofNat_digit (Nat.mod_lt _ (by omega))

/-- The decimal text of `n` reads back as `n`. -/
theorem readNat_decimal (n : Nat) : readNat (decimal n) = n := by
  induction n using decimal.induct with
  | case1 n h =>
      rw [decimal, if_pos h]
      simp only [readNat, List.foldl_cons, List.foldl_nil, toNat_ofNat_digit h]
      omega
  | case2 n h ih =>
      rw [decimal, if_neg h, readNat_append_singleton, ih,
        toNat_ofNat_digit (Nat.mod_lt _ (by omega))]
      omega

/-- A byte that is not a digit does not occur in a decimal text. -/
theorem not_mem_decimal {b : UInt8} (h : isDigit b = false) (n : Nat) : b ∉ decimal n :=
  fun hb => by simp [isDigit_of_mem_decimal n b hb] at h

/-- The digits at the front of `ds ++ rest` are `ds`, when `rest` does not start with a digit. -/
theorem takeWhile_isDigit {ds rest : Bytes} (hds : ∀ b ∈ ds, isDigit b = true)
    (h : ∀ b ∈ rest.head?, isDigit b = false) : (ds ++ rest).takeWhile isDigit = ds := by
  rw [List.takeWhile_append_of_pos hds]
  cases rest with
  | nil => simp
  | cons b rest => simp [h b (by simp)]

/-- Digits are skipped up to what is none. -/
theorem dropWhile_isDigit {ds rest : Bytes} (hds : ∀ b ∈ ds, isDigit b = true)
    (h : ∀ b ∈ rest.head?, isDigit b = false) : (ds ++ rest).dropWhile isDigit = rest := by
  rw [List.dropWhile_append_of_pos hds]
  cases rest with
  | nil => simp
  | cons b rest => simp [h b (by simp)]

/-- The digits at the front of `decimal n ++ rest` are those of `n`, when `rest` does not
start with a digit. -/
theorem takeWhile_isDigit_decimal (n : Nat) {rest : Bytes}
    (h : ∀ b ∈ rest.head?, isDigit b = false) :
    (decimal n ++ rest).takeWhile isDigit = decimal n :=
  takeWhile_isDigit (isDigit_of_mem_decimal n) h

/-- So is a printed number. -/
theorem dropWhile_isDigit_decimal (n : Nat) {rest : Bytes}
    (h : ∀ b ∈ rest.head?, isDigit b = false) :
    (decimal n ++ rest).dropWhile isDigit = rest :=
  dropWhile_isDigit (isDigit_of_mem_decimal n) h

/-- A decimal text is its first digit and some more digits. -/
theorem decimal_eq_cons (n : Nat) :
    ∃ d ds, decimal n = d :: ds ∧ isDigit d = true := by
  obtain ⟨d, ds, hd⟩ := List.exists_cons_of_ne_nil (decimal_ne_nil n)
  exact ⟨d, ds, hd, isDigit_of_mem_decimal n d (by simp [hd])⟩

end BotCockpit.Lib
