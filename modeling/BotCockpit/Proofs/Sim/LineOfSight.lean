import BotCockpit.Proofs.Sim.Corridor
import BotCockpit.Spec.LineOfSight

/-!
# `BotCockpit.Proofs.Sim.LineOfSight`: the line-of-sight test between its samples

`segment_free` tests points at most 0.08 apart, and a segment can cut a cell between two of them.
For one segment it is conservative exactly where no occupied cell is cut so
(`conservative_iff_crossesFree`). On a map whose cells are at least 0.08 wide the cells that can be
cut so are the corner cells. Such a map is safe for every segment exactly when it has no bare
corner (`clearSight_of_noBareCorner`). The inflated corridor map has bare corners
(`corridor_corner_cut`).
-/

set_option autoImplicit false

namespace BotCockpit.Sim.Nav

open BotCockpit.Lib
open BotCockpit.Lib.GridLine (along SideBySide)

/-! ### Points and cells -/

section Exact

variable {map : GridMap ℝ} {a b : ℝ × ℝ}

/-- The cell that covers a point is the one of the grid. -/
theorem covers_iff (hres : 0 < map.resolution) {c : Int × Int} {p : ℝ × ℝ} :
    Covers map c p ↔ GridLine.cell (map.originX, map.originY) map.resolution p = c := by
  rw [Prod.ext_iff]
  constructor
  · intro h
    exact ⟨(GridLine.strip_eq_iff _ _ hres).mpr h.column,
      (GridLine.strip_eq_iff _ _ hres).mpr h.row⟩
  · rintro ⟨hcol, hrow⟩
    exact ⟨(GridLine.strip_eq_iff _ _ hres).mp hcol, (GridLine.strip_eq_iff _ _ hres).mp hrow⟩

/-- A point lies in a free cell when the cell of the grid is free. -/
theorem inFreeCell_iff (hres : 0 < map.resolution) (p : ℝ × ℝ) :
    InFreeCell map p ↔
      Free map (GridLine.cell (map.originX, map.originY) map.resolution p) := by
  constructor
  · rintro ⟨c, hfree, hcovers⟩
    rwa [(covers_iff hres).mp hcovers]
  · intro hfree
    exact ⟨_, hfree, (covers_iff hres).mpr rfl⟩

/-- The code's test is that one. -/
theorem isFree_iff (p : ℝ × ℝ) :
    isFree map p.1 p.2 = true ↔
      Free map (GridLine.cell (map.originX, map.originY) map.resolution p) := by
  have hcell : map.worldToCell p.1 p.2 =
      let c := GridLine.cell (map.originX, map.originY) map.resolution p
      if map.Inside c.1 c.2 then some c else none := rfl
  unfold isFree
  rw [hcell]
  dsimp only
  split
  · rename_i hnone
    constructor
    · intro h
      exact absurd h Bool.false_ne_true
    · intro hfree
      rw [if_pos hfree.inside] at hnone
      exact absurd hnone (Option.some_ne_none _)
  · rename_i cx cy hsome
    obtain ⟨-, hc⟩ := Option.ite_none_right_eq_some.mp hsome
    rw [Option.some.inj hc, Bool.not_eq_true']
    rfl

/-! ### The samples -/

/-- There is at least one piece. -/
theorem pieces_pos (a b : ℝ × ℝ) : 0 < pieces a b := lt_of_lt_of_le one_pos (le_max_left _ _)

/-- The code samples the ends of all pieces. -/
theorem segmentFree_iff :
    segmentFree map a.1 a.2 b.1 b.2 = true ↔
      ∀ i, 0 ≤ i → i ≤ pieces a b → Free map (sample map a b i) := by
  unfold segmentFree
  rw [List.all_eq_true]
  constructor
  · intro h i h0 hn
    exact (isFree_iff (along a b _)).mp (h i (GridMap.mem_span.mpr ⟨h0, hn⟩))
  · intro h i hi
    obtain ⟨h0, hn⟩ := GridMap.mem_span.mp hi
    exact (isFree_iff (along a b _)).mpr (h i h0 hn)

/-- The points of a segment by their parameter. -/
theorem mem_segment_iff {p : ℝ × ℝ} :
    p ∈ segment ℝ a b ↔ ∃ t : ℝ, 0 ≤ t ∧ t ≤ 1 ∧ along a b t = p := by
  have halong : ∀ t : ℝ, a + t • (b - a) = along a b t := by
    intro t
    ext
    · exact congrArg (a.1 + ·) (mul_comm t (b.1 - a.1))
    · exact congrArg (a.2 + ·) (mul_comm t (b.2 - a.2))
  rw [segment_eq_image', Set.mem_image]
  simp only [halong, Set.mem_Icc, and_assoc]

/-- The whole segment, in terms of the cells along it. -/
theorem conservative_iff (hres : 0 < map.resolution) :
    Conservative map a b ↔
      ((∀ i, 0 ≤ i → i ≤ pieces a b → Free map (sample map a b i)) →
        ∀ t : ℝ, 0 ≤ t → t ≤ 1 → Free map (cellAlong map a b t)) := by
  unfold Conservative
  rw [segmentFree_iff]
  refine imp_congr_right fun _ => ?_
  constructor
  · intro h t h0 h1
    exact (inFreeCell_iff hres _).mp (h _ (mem_segment_iff.mpr ⟨t, h0, h1, rfl⟩))
  · intro h p hp
    obtain ⟨t, h0, h1, rfl⟩ := mem_segment_iff.mp hp
    exact (inFreeCell_iff hres _).mpr (h t h0 h1)

/-- A point of a piece lies in the cell of one of its ends, or the ends have no common edge. -/
theorem piece_cases (hres : 0 < map.resolution) {i : Int} {t : ℝ}
    (hlow : (i : ℝ) / (pieces a b : ℝ) ≤ t) (hhigh : t ≤ ((i + 1 : Int) : ℝ) / (pieces a b : ℝ)) :
    cellAlong map a b t = sample map a b i ∨ cellAlong map a b t = sample map a b (i + 1) ∨
      ¬SideBySide (sample map a b i) (sample map a b (i + 1)) ∧
        (i : ℝ) / (pieces a b : ℝ) < t ∧ t < ((i + 1 : Int) : ℝ) / (pieces a b : ℝ) := by
  by_cases hside : SideBySide (sample map a b i) (sample map a b (i + 1))
  · rcases GridLine.cell_between _ a b hres hlow hhigh hside with h | h
    · exact Or.inl h
    · exact Or.inr (Or.inl h)
  · rcases hlow.eq_or_lt with rfl | hlow
    · exact Or.inl rfl
    · rcases hhigh.eq_or_lt with rfl | hhigh
      · exact Or.inr (Or.inl rfl)
      · exact Or.inr (Or.inr ⟨hside, hlow, hhigh⟩)

/-- Two consecutive samples are at most 0.08 apart. -/
theorem abs_piece_le {d e : ℝ} (hn : Real.sqrt (d ^ 2 + e ^ 2) / 0.08 ≤ (pieces a b : ℝ))
    (i : Int) :
    |d * (((i + 1 : Int) : ℝ) / (pieces a b : ℝ)) - d * ((i : ℝ) / (pieces a b : ℝ))| ≤ 0.08 := by
  have hpieces : (0 : ℝ) < (pieces a b : ℝ) := by exact_mod_cast pieces_pos a b
  have hdiff : d * (((i + 1 : Int) : ℝ) / (pieces a b : ℝ)) - d * ((i : ℝ) / (pieces a b : ℝ)) =
      d / (pieces a b : ℝ) := by
    push_cast
    field_simp
    ring
  have hd : |d| ≤ Real.sqrt (d ^ 2 + e ^ 2) := by
    rw [← Real.sqrt_sq_eq_abs]
    exact Real.sqrt_le_sqrt (le_add_of_nonneg_right (sq_nonneg e))
  rw [hdiff, abs_div, abs_of_pos hpieces, div_le_iff₀ hpieces]
  rw [div_le_iff₀ (by norm_num)] at hn
  linarith

/-- The pieces are no longer than 0.08. -/
theorem hypot_le_pieces (a b : ℝ × ℝ) :
    Real.sqrt ((b.1 - a.1) ^ 2 + (b.2 - a.2) ^ 2) / 0.08 ≤ (pieces a b : ℝ) :=
  (Int.le_ceil _).trans (by exact_mod_cast le_max_right _ _)

/-- With cells at least 0.08 wide, the cells of two consecutive samples are neighbours. -/
theorem sample_near (hres : 0.08 ≤ map.resolution) (i : Int) :
    ((sample map a b (i + 1)).1 - (sample map a b i).1).natAbs ≤ 1 ∧
      ((sample map a b (i + 1)).2 - (sample map a b i).2).natAbs ≤ 1 := by
  have hpos : 0 < map.resolution := lt_of_lt_of_le (by norm_num) hres
  have hlen := hypot_le_pieces a b
  constructor
  · refine GridLine.strip_near hpos (le_trans ?_ hres)
    show |a.1 + _ - (a.1 + _)| ≤ 0.08
    rw [add_sub_add_left_eq_sub]
    exact abs_piece_le hlen i
  · refine GridLine.strip_near hpos (le_trans ?_ hres)
    show |a.2 + _ - (a.2 + _)| ≤ 0.08
    rw [add_sub_add_left_eq_sub]
    rw [add_comm] at hlen
    exact abs_piece_le hlen i

/-- The test is conservative exactly when one of its samples is not free, or no occupied cell is
crossed between two samples whose cells have no edge in common. -/
theorem conservative_iff_crossesFree (map : GridMap ℝ) (hres : 0 < map.resolution)
    (a b : ℝ × ℝ) :
    Conservative map a b ↔
      (∃ i, 0 ≤ i ∧ i ≤ pieces a b ∧ ¬Free map (sample map a b i)) ∨ CrossesFree map a b := by
  have hpieces : (0 : ℝ) < (pieces a b : ℝ) := by exact_mod_cast pieces_pos a b
  rw [conservative_iff hres]
  constructor
  · intro h
    by_cases hsamples : ∀ i, 0 ≤ i → i ≤ pieces a b → Free map (sample map a b i)
    · right
      intro i h0 hn _ t hlow hhigh
      have hi : (0 : ℝ) ≤ (i : ℝ) / (pieces a b : ℝ) :=
        div_nonneg (by exact_mod_cast h0) hpieces.le
      have hi' : ((i + 1 : Int) : ℝ) / (pieces a b : ℝ) ≤ 1 := by
        rw [div_le_one hpieces]
        exact_mod_cast hn
      exact h hsamples t (hi.trans hlow.le) (hhigh.le.trans hi')
    · left
      push Not at hsamples
      exact hsamples
  · rintro (⟨i, h0, hn, hnot⟩ | hcross) hsamples
    · exact absurd (hsamples i h0 hn) hnot
    · intro t h0 h1
      -- The point lies on a piece: in the cell of one of its ends, or the piece crosses over.
      obtain ⟨i, hi, hin, hlow, hhigh⟩ := GridLine.exists_piece (pieces_pos a b) h0 h1
      rcases piece_cases hres hlow hhigh with h | h | ⟨hside, hlow, hhigh⟩
      · rw [h]
        exact hsamples i hi hin.le
      · rw [h]
        exact hsamples (i + 1) (by omega) (by omega)
      · exact hcross i hi hin hside t hlow hhigh

/-- On a map without a bare corner, whose cells are at least as wide as the samples are apart, the
test is conservative for every segment. -/
theorem conservative_of_noBareCorner (hres : 0.08 ≤ map.resolution) (hcorner : NoBareCorner map)
    (a b : ℝ × ℝ) : Conservative map a b := by
  have hpos : 0 < map.resolution := lt_of_lt_of_le (by norm_num) hres
  rw [conservative_iff_crossesFree map hpos]
  by_cases hsamples : ∃ i, 0 ≤ i ∧ i ≤ pieces a b ∧ ¬Free map (sample map a b i)
  · exact Or.inl hsamples
  · right
    push Not at hsamples
    intro i h0 hn hside t hlow hhigh
    have hfree := hsamples i h0 hn.le
    have hfree' := hsamples (i + 1) (by omega) (by omega)
    obtain ⟨hcol, hrow⟩ := sample_near (a := a) (b := b) hres i
    -- A piece that crosses over leads from one cell to a diagonal neighbour.
    have hdiag : ((sample map a b (i + 1)).1 - (sample map a b i).1).natAbs = 1 ∧
        ((sample map a b (i + 1)).2 - (sample map a b i).2).natAbs = 1 := by
      unfold SideBySide at hside
      omega
    obtain ⟨hbeside, hbeside'⟩ := hcorner _ _ hdiag.1 hdiag.2 hfree hfree'
    -- On the way it is in one of the two, or in one of the two beside them.
    rcases GridLine.corner_between (map.originX, map.originY) a b hpos hlow.le hhigh.le hcol hrow
      with h | h | h | h
    · rw [cellAlong, h]
      exact hfree
    · rw [cellAlong, h]
      exact hfree'
    · rw [cellAlong, h]
      exact hbeside
    · rw [cellAlong, h]
      exact hbeside'

/-- Between two free points at most 0.08 apart nothing is tested, so the midpoint is free where the
test is conservative. -/
theorem Conservative.free_midpoint (h : Conservative map a b) (hres : 0 < map.resolution)
    (hnear : Real.sqrt ((b.1 - a.1) ^ 2 + (b.2 - a.2) ^ 2) ≤ 0.08)
    (ha : Free map (GridLine.cell (map.originX, map.originY) map.resolution a))
    (hb : Free map (GridLine.cell (map.originX, map.originY) map.resolution b)) :
    Free map (cellAlong map a b (1 / 2)) := by
  have hpieces : pieces a b = 1 := by
    refine max_eq_left (Int.ceil_le.mpr ?_)
    rw [Int.cast_one, div_le_one (by norm_num)]
    exact hnear
  have hstart : along a b 0 = a := by simp [along]
  have hend : along a b 1 = b := by simp [along]
  refine (conservative_iff hres).mp h (fun i h0 h1 => ?_) (1 / 2) (by norm_num) (by norm_num)
  unfold sample
  rw [hpieces] at h1 ⊢
  obtain rfl | rfl : i = 0 ∨ i = 1 := by omega
  · rwa [Int.cast_zero, zero_div, cellAlong, hstart]
  · rwa [Int.cast_one, div_one, cellAlong, hend]

/-- A bare corner is cut by a segment that passes the test. -/
theorem noBareCorner_of_conservative (hres : 0 < map.resolution)
    (h : ∀ a b, Conservative map a b) : NoBareCorner map := by
  -- One corner cell; the other is the same corner seen from the other side.
  have hcorner : ∀ c c' : Int × Int, (c'.1 - c.1).natAbs = 1 → (c'.2 - c.2).natAbs = 1 →
      Free map c → Free map c' → Free map (c.1, c'.2) := by
    intro c c' hcol hrow hfree hfree'
    obtain ⟨a, b, hx, hy, rfl, rfl, hmid⟩ := GridLine.exists_corner_cut
      (map.originX, map.originY) hres (by norm_num : (0 : ℝ) < 0.05) hcol hrow
    rw [← hmid]
    refine (h a b).free_midpoint hres ?_ hfree hfree'
    rw [Real.sqrt_le_left (by norm_num)]
    have hx2 : (b.1 - a.1) ^ 2 ≤ 0.05 ^ 2 := by
      rw [← sq_abs]
      exact pow_le_pow_left₀ (abs_nonneg _) hx 2
    have hy2 : (b.2 - a.2) ^ 2 ≤ 0.05 ^ 2 := by
      rw [← sq_abs]
      exact pow_le_pow_left₀ (abs_nonneg _) hy 2
    linarith
  intro c c' hcol hrow hfree hfree'
  refine ⟨hcorner c c' hcol hrow hfree hfree', hcorner c' c ?_ ?_ hfree' hfree⟩
  · omega
  · omega

end Exact

/-! ### Aiming by sight -/

section Aim

variable {F : Type} [CDouble F] {map : GridMap F} {x y lookahead : F}

/-- Once a waypoint in sight is held, the loop returns a waypoint in sight. -/
theorem aimLoop_visible {wps : List (F × F)} {budget : F} {prev : Option (F × F)} {best : F × F}
    (hbest : segmentFree map x y best.1 best.2 = true) :
    ∃ p, aimLoop map x y lookahead budget prev (some best) wps = some p ∧
      segmentFree map x y p.1 p.2 = true := by
  induction wps generalizing budget prev best with
  | nil => exact ⟨best, rfl, hbest⟩
  | cons q wps ih =>
      -- What the budget is does not matter here, only that it decides.
      have hpass : ∃ left : F,
          aimLoop map x y lookahead budget prev (some best) (q :: wps) =
            (if prev.isSome ∧ left < 0.0 then some best
            else if segmentFree map x y q.1 q.2 then
              if lookahead ≤ CDouble.hypot (q.1 - x) (q.2 - y) then some q
              else aimLoop map x y lookahead left (some q) (some q) wps
            else some best) := ⟨_, rfl⟩
      obtain ⟨left, hpass⟩ := hpass
      rw [hpass]
      split
      · exact ⟨best, rfl, hbest⟩
      · split
        · rename_i hfree
          split
          · exact ⟨q, rfl, hfree⟩
          · exact ih hfree
        · exact ⟨best, rfl, hbest⟩

/-- Where `aim_point` relies on the line of sight, its aim is in sight. -/
theorem aimPoint_visible {path : List (F × F)} {idx : Nat} (h : ¬AimsBlind map path idx x y) :
    segmentFree map x y (aimPoint map path idx x y lookahead).1
      (aimPoint map path idx x y lookahead).2 = true := by
  unfold AimsBlind at h
  push Not at h
  obtain ⟨hidx, hfar, hnext⟩ := h
  have hwp : path[idx]? = some path[idx] := List.getElem?_eq_getElem hidx
  have hvisible : segmentFree map x y path[idx].1 path[idx].2 = true := by
    simpa using hnext _ hwp
  obtain ⟨last, hlast⟩ : ∃ last, path.getLast? = some last :=
    ⟨_, List.getLast?_eq_some_getLast (List.ne_nil_of_length_pos (by omega))⟩
  unfold aimPoint
  rw [hlast, List.drop_eq_getElem_cons hidx]
  dsimp only
  rw [if_neg (hfar last hlast)]
  -- The first waypoint is in sight, so the loop comes to a waypoint in sight.
  have hfirst : aimLoop map x y lookahead lookahead none none (path[idx] :: path.drop (idx + 1)) =
      if lookahead ≤ CDouble.hypot (path[idx].1 - x) (path[idx].2 - y) then some path[idx]
      else aimLoop map x y lookahead lookahead (some path[idx]) (some path[idx])
        (path.drop (idx + 1)) := by
    simp [aimLoop, hvisible]
  rw [hfirst]
  split
  · exact hvisible
  · obtain ⟨p, hloop, hp⟩ : ∃ p, aimLoop map x y lookahead lookahead (some path[idx])
        (some path[idx]) (path.drop (idx + 1)) = some p ∧ segmentFree map x y p.1 p.2 = true :=
      aimLoop_visible hvisible
    rw [hloop]
    exact hp

end Aim

/-! ### Maps with a clear sight -/

/-- **A map is safe to look along when it has no bare corner.** On a map whose cells are at least
0.08 wide and which has no bare corner, every segment that passes the test lies in free cells, and
`aim_point` aims through free cells wherever it relies on the test. Without a bare corner is also
what every map must be on which the test is conservative. -/
theorem clearSight_of_noBareCorner (map : GridMap ℝ) (hres : 0 < map.resolution) :
    (0.08 ≤ map.resolution → NoBareCorner map → ClearSight map) ∧
      (ClearSight map → NoBareCorner map) := by
  refine ⟨fun hwide hcorner => ?_, fun h => noBareCorner_of_conservative hres h.conservative⟩
  have hconservative := conservative_of_noBareCorner hwide hcorner
  refine ⟨hconservative, fun path idx x y lookahead hblind => ?_⟩
  exact hconservative (x, y) _ (aimPoint_visible hblind)

/-- Three columns by two rows, the first column a wall. -/
noncomputable def walled : GridMap ℝ :=
  { width := 3, height := 2, occ := [true, false, false, true, false, false] }

/-- The small map has cells of half a metre. -/
theorem walled_resolution : (walled : GridMap ℝ).resolution = 1 / 2 := by
  show (0.5 : ℝ) = 1 / 2
  norm_num

/-- Its free cells are two by two. -/
theorem free_walled (c : Int × Int) :
    Free walled c ↔ (1 ≤ c.1 ∧ c.1 ≤ 2) ∧ 0 ≤ c.2 ∧ c.2 ≤ 1 := by
  obtain ⟨x, y⟩ := c
  have hcells : ∀ x' ∈ Finset.Icc (0 : Int) 2, ∀ y' ∈ Finset.Icc (0 : Int) 1,
      (Free walled (x', y') ↔ 1 ≤ x') := by decide
  by_cases hin : (0 ≤ x ∧ x ≤ 2) ∧ 0 ≤ y ∧ y ≤ 1
  · rw [hcells x (Finset.mem_Icc.mpr hin.1) y (Finset.mem_Icc.mpr hin.2)]
    show 1 ≤ x ↔ (1 ≤ x ∧ x ≤ 2) ∧ 0 ≤ y ∧ y ≤ 1
    omega
  · refine iff_of_false (fun hfree => hin ?_) fun h => hin ⟨⟨by omega, h.1.2⟩, h.2⟩
    obtain ⟨hx, hy, hx', hy'⟩ : 0 ≤ x ∧ 0 ≤ y ∧ x < 3 ∧ y < 2 := hfree.inside
    omega

/-- None of its corners is bare. -/
theorem noBareCorner_walled : NoBareCorner walled := by
  intro c c' _ _ hfree hfree'
  simp only [free_walled] at hfree hfree' ⊢
  exact ⟨⟨hfree.1, hfree'.2⟩, hfree'.1, hfree.2⟩

/-- So what the samples say of it holds of the segments. -/
theorem clearSight_walled : ClearSight walled :=
  (clearSight_of_noBareCorner walled (by rw [walled_resolution]; norm_num)).1
    (by rw [walled_resolution]; norm_num) noBareCorner_walled

/-! ### The corridor map -/

/-- The corridor has cells of half a metre. -/
theorem corridor_resolution : (plan ℝ).resolution = 1 / 2 :=
  plan_grid.resolution.trans (by norm_num)

/-- Its cells are not empty. -/
theorem corridor_resolution_pos : 0 < (plan ℝ).resolution := by
  rw [corridor_resolution]
  norm_num

/-- The cell of a point of the corridor, by its bounds. -/
theorem cell_corridor (p : ℝ × ℝ) {c : Int × Int}
    (hcol : (c.1 : ℝ) / 2 ≤ p.1 ∧ p.1 < (c.1 + 1) / 2)
    (hrow : (c.2 : ℝ) / 2 - 5 ≤ p.2 ∧ p.2 < (c.2 + 1) / 2 - 5) :
    GridLine.cell ((plan ℝ).originX, (plan ℝ).originY) (plan ℝ).resolution p = c := by
  have hx : (plan ℝ).originX = 0 := plan_grid.originX.trans (by norm_num)
  have hy : (plan ℝ).originY = -5 := plan_grid.originY.trans (by norm_num)
  rw [← covers_iff corridor_resolution_pos]
  constructor
  · rw [corridor_resolution, hx]
    constructor <;> linarith
  · rw [corridor_resolution, hy]
    constructor <;> linarith

/-- On the robot's map: from a point in the cell (4, 3) to one in the cell (5, 2), both free and
0.05 apart, the segment cuts the corner of the occupied cell (5, 3). -/
theorem corridor_corner_cut : ¬Conservative (plan ℝ) (2.49, -3.47) (2.52, -3.51) := by
  intro h
  have hnear : Real.sqrt (((2.52 : ℝ) - 2.49) ^ 2 + (-3.51 - -3.47) ^ 2) ≤ 0.08 := by
    rw [Real.sqrt_le_left (by norm_num)]
    norm_num
  have hmid := h.free_midpoint corridor_resolution_pos hnear ?start ?stop
  · rw [cellAlong, cell_corridor (along _ _ _) (c := (5, 3)) (by norm_num [along])
      (by norm_num [along]), free_plan] at hmid
    exact absurd hmid (by decide)
  case start =>
    rw [cell_corridor _ (c := (4, 3)) (by norm_num) (by norm_num), free_plan]
    decide
  case stop =>
    rw [cell_corridor _ (c := (5, 2)) (by norm_num) (by norm_num), free_plan]
    decide

end BotCockpit.Sim.Nav
