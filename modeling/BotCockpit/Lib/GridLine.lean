import Mathlib.Algebra.Order.Floor.Ring
import Mathlib.Algebra.Order.Ring.Abs
import Mathlib.Order.Interval.Set.UnorderedInterval
import Mathlib.Tactic.FieldSimp
import Mathlib.Tactic.Linarith
import Mathlib.Tactic.Ring

/-!
# `BotCockpit.Lib.GridLine`: a straight line over a square grid

Over any ordered field with a floor. The columns that a line visits on the way from one point to
another lie between the columns of the two points (`column_between`), and so do the rows. Between
two points in the same cell or in cells with a common edge it therefore visits no third cell
(`cell_between`), and between two points less than a cell apart only the corner cells
(`corner_between`). Each corner cell between diagonal neighbours is cut by some line, however short
(`exists_corner_cut`).
-/

set_option autoImplicit false

namespace BotCockpit.Lib.GridLine

variable {K : Type*} [Field K] [LinearOrder K] [IsStrictOrderedRing K] [FloorRing K]

/-- The point of the line from `a` to `b` at a parameter. -/
def along (a b : K × K) (t : K) : K × K := (a.1 + (b.1 - a.1) * t, a.2 + (b.2 - a.2) * t)

/-- The strip of width `r` that a coordinate lies in. -/
def strip (origin r v : K) : ℤ := ⌊(v - origin) / r⌋

/-- The cell of a point. -/
def cell (origin : K × K) (r : K) (p : K × K) : ℤ × ℤ :=
  (strip origin.1 r p.1, strip origin.2 r p.2)

/-- The two cells are the same or have an edge in common. -/
def SideBySide (c c' : ℤ × ℤ) : Prop := (c'.1 - c.1).natAbs + (c'.2 - c.2).natAbs ≤ 1

instance (c c' : ℤ × ℤ) : Decidable (SideBySide c c') := Nat.decLe _ _

/-- The strip of a value by its bounds. -/
theorem strip_eq_iff (origin v : K) {r : K} (hr : 0 < r) {k : ℤ} :
    strip origin r v = k ↔ origin + k * r ≤ v ∧ v < origin + (k + 1) * r := by
  unfold strip
  rw [Int.floor_eq_iff, le_div_iff₀ hr, div_lt_iff₀ hr, le_sub_iff_add_le', sub_lt_iff_lt_add']

/-- A larger value lies in no smaller strip. -/
theorem strip_mono {origin r v w : K} (hr : 0 < r) (h : v ≤ w) :
    strip origin r v ≤ strip origin r w :=
  Int.floor_mono (div_le_div_of_nonneg_right (sub_le_sub_right h origin) hr.le)

/-- The strips that a coordinate visits on its way lie between the strips of the ends. -/
theorem strip_between (origin v d : K) {r : K} (hr : 0 < r) {s t u : K} (hst : s ≤ t)
    (htu : t ≤ u) :
    strip origin r (v + d * t) ∈
      Set.uIcc (strip origin r (v + d * s)) (strip origin r (v + d * u)) := by
  rw [Set.mem_uIcc]
  rcases le_total 0 d with hd | hd
  · left
    have hlow : v + d * s ≤ v + d * t := by gcongr
    have hhigh : v + d * t ≤ v + d * u := by gcongr
    exact ⟨strip_mono hr hlow, strip_mono hr hhigh⟩
  · right
    have hlow : v + d * u ≤ v + d * t := add_le_add_right (mul_le_mul_of_nonpos_left htu hd) v
    have hhigh : v + d * t ≤ v + d * s := add_le_add_right (mul_le_mul_of_nonpos_left hst hd) v
    exact ⟨strip_mono hr hlow, strip_mono hr hhigh⟩

section Between

variable (origin a b : K × K) {r s t u : K} (hr : 0 < r) (hst : s ≤ t) (htu : t ≤ u)

include hr hst htu

/-- Between two points of a line the columns lie between theirs. -/
theorem column_between : (cell origin r (along a b t)).1 ∈
    Set.uIcc (cell origin r (along a b s)).1 (cell origin r (along a b u)).1 :=
  strip_between _ _ _ hr hst htu

/-- And so do the rows. -/
theorem row_between : (cell origin r (along a b t)).2 ∈
    Set.uIcc (cell origin r (along a b s)).2 (cell origin r (along a b u)).2 :=
  strip_between _ _ _ hr hst htu

/-- Between two points whose cells have an edge in common there is no third cell. -/
theorem cell_between
    (hside : SideBySide (cell origin r (along a b s)) (cell origin r (along a b u))) :
    cell origin r (along a b t) = cell origin r (along a b s) ∨
      cell origin r (along a b t) = cell origin r (along a b u) := by
  have hcol := column_between origin a b hr hst htu
  have hrow := row_between origin a b hr hst htu
  rw [Set.mem_uIcc] at hcol hrow
  unfold SideBySide at hside
  rw [Prod.ext_iff, Prod.ext_iff]
  omega

/-- Between two points at most one strip apart each way, a third cell is a corner cell: its column
is that of the one point and its row that of the other. -/
theorem corner_between
    (hcol : ((cell origin r (along a b u)).1 - (cell origin r (along a b s)).1).natAbs ≤ 1)
    (hrow : ((cell origin r (along a b u)).2 - (cell origin r (along a b s)).2).natAbs ≤ 1) :
    cell origin r (along a b t) = cell origin r (along a b s) ∨
      cell origin r (along a b t) = cell origin r (along a b u) ∨
      cell origin r (along a b t) =
        ((cell origin r (along a b s)).1, (cell origin r (along a b u)).2) ∨
      cell origin r (along a b t) =
        ((cell origin r (along a b u)).1, (cell origin r (along a b s)).2) := by
  have hcol' := column_between origin a b hr hst htu
  have hrow' := row_between origin a b hr hst htu
  rw [Set.mem_uIcc] at hcol' hrow'
  simp only [Prod.ext_iff]
  omega

end Between

/-- Coordinates at most `r` apart lie in the same strip or in neighbouring ones. -/
theorem strip_near {origin r v w : K} (hr : 0 < r) (h : |w - v| ≤ r) :
    (strip origin r w - strip origin r v).natAbs ≤ 1 := by
  obtain ⟨hlow, hhigh⟩ := abs_le.mp h
  obtain ⟨hv, hv'⟩ := (strip_eq_iff origin v hr).mp rfl
  obtain ⟨hw, hw'⟩ := (strip_eq_iff origin w hr).mp rfl
  have hup : strip origin r w < strip origin r v + 2 := by
    have hlt : (strip origin r w : K) * r < (strip origin r v + 2) * r := by linarith
    exact_mod_cast lt_of_mul_lt_mul_right hlt hr.le
  have hdown : strip origin r v < strip origin r w + 2 := by
    have hlt : (strip origin r v : K) * r < (strip origin r w + 2) * r := by linarith
    exact_mod_cast lt_of_mul_lt_mul_right hlt hr.le
  omega

/-- Two neighbouring strips meet in an edge: a coordinate a little on the one side of it lies in the
one strip, and a coordinate a little on the other side in the other. -/
theorem exists_edge (origin : K) {r : K} (hr : 0 < r) {k k' : ℤ} (h : (k' - k).natAbs = 1) :
    ∃ e s : K, |s| = 1 ∧ ∀ d, 0 < d → d < r →
      strip origin r (e - s * d) = k ∧ strip origin r (e + s * d) = k' := by
  have hcases : k' = k + 1 ∨ k = k' + 1 := by omega
  rcases hcases with rfl | rfl
  · refine ⟨origin + (k + 1) * r, 1, abs_one, fun d h0 hd => ?_⟩
    rw [strip_eq_iff _ _ hr, strip_eq_iff _ _ hr]
    push_cast
    refine ⟨⟨?_, ?_⟩, ?_, ?_⟩ <;> linarith
  · refine ⟨origin + (k' + 1) * r, -1, by rw [abs_neg, abs_one], fun d h0 hd => ?_⟩
    rw [strip_eq_iff _ _ hr, strip_eq_iff _ _ hr]
    push_cast
    refine ⟨⟨?_, ?_⟩, ?_, ?_⟩ <;> linarith

/-- Between two cells that touch only in a corner there is a line, as short as one likes, whose
midpoint lies in a cell beside them. -/
theorem exists_corner_cut (origin : K × K) {r ε : K} (hr : 0 < r) (hε : 0 < ε) {c c' : ℤ × ℤ}
    (hcol : (c'.1 - c.1).natAbs = 1) (hrow : (c'.2 - c.2).natAbs = 1) :
    ∃ a b : K × K, |b.1 - a.1| ≤ ε ∧ |b.2 - a.2| ≤ ε ∧ cell origin r a = c ∧
      cell origin r b = c' ∧ cell origin r (along a b (1 / 2)) = (c.1, c'.2) := by
  obtain ⟨e, s, hs, hx⟩ := exists_edge origin.1 hr hcol
  obtain ⟨f, t, ht, hy⟩ := exists_edge origin.2 hr hrow
  -- The line leaves `c` through its side with `(c.1, c'.2)` and enters `c'` from there.
  obtain ⟨d, hd0, hdr, hdε⟩ : ∃ d, 0 < d ∧ 2 * d < r ∧ 3 * d ≤ ε := by
    have hmin : 0 < min r ε := lt_min hr hε
    have hle := min_le_left r ε
    have hle' := min_le_right r ε
    exact ⟨min r ε / 4, by linarith, by linarith, by linarith⟩
  have hlength : ∀ u : K, |u| = 1 → |u * (3 * d)| ≤ ε := by
    intro u hu
    rwa [abs_mul, hu, one_mul, abs_of_pos (by linarith)]
  refine ⟨(e - s * (2 * d), f - t * d), (e + s * d, f + t * (2 * d)), ?_, ?_, ?_, ?_, ?_⟩
  · calc |e + s * d - (e - s * (2 * d))| = |s * (3 * d)| := by ring_nf
      _ ≤ ε := hlength s hs
  · calc |f + t * (2 * d) - (f - t * d)| = |t * (3 * d)| := by ring_nf
      _ ≤ ε := hlength t ht
  · exact Prod.ext (hx (2 * d) (by linarith) hdr).1 (hy d hd0 (by linarith)).1
  · exact Prod.ext (hx d hd0 (by linarith)).2 (hy (2 * d) (by linarith) hdr).2
  · have hcross : along (e - s * (2 * d), f - t * d) (e + s * d, f + t * (2 * d)) (1 / 2) =
        (e - s * (d / 2), f + t * (d / 2)) := by
      ext
      · show e - s * (2 * d) + (e + s * d - (e - s * (2 * d))) * (1 / 2) = e - s * (d / 2)
        ring
      · show f - t * d + (f + t * (2 * d) - (f - t * d)) * (1 / 2) = f + t * (d / 2)
        ring
    rw [hcross]
    exact Prod.ext (hx (d / 2) (by linarith) (by linarith)).1
      (hy (d / 2) (by linarith) (by linarith)).2

/-- Every parameter lies on one of the `n` equal pieces of the unit interval. -/
theorem exists_piece {n : ℤ} (hn : 0 < n) {t : K} (h0 : 0 ≤ t) (h1 : t ≤ 1) :
    ∃ i : ℤ, 0 ≤ i ∧ i < n ∧ (i : K) / n ≤ t ∧ t ≤ ((i + 1 : ℤ) : K) / n := by
  have hn' : (0 : K) < n := by exact_mod_cast hn
  have hnonneg : 0 ≤ ⌊t * n⌋ := Int.floor_nonneg.mpr (mul_nonneg h0 hn'.le)
  by_cases hlast : ⌊t * n⌋ < n
  · refine ⟨⌊t * n⌋, hnonneg, hlast, ?_, ?_⟩
    · rw [div_le_iff₀ hn']
      exact Int.floor_le _
    · rw [le_div_iff₀ hn']
      push_cast
      exact (Int.lt_floor_add_one _).le
  · -- The right end is on the last piece.
    refine ⟨n - 1, by omega, by omega, ?_, ?_⟩
    · have hle : (n : K) ≤ t * n := le_trans (by exact_mod_cast not_lt.mp hlast) (Int.floor_le _)
      rw [div_le_iff₀ hn']
      push_cast
      linarith
    · rw [sub_add_cancel, div_self hn'.ne']
      exact h1

end BotCockpit.Lib.GridLine
