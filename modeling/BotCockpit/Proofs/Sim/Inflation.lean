import BotCockpit.Proofs.Sim.Corridor
import BotCockpit.Ui.NavMapView

/-!
# `BotCockpit.Proofs.Sim.Inflation`: inflation is exact dilation

`inflate` scans a copy of the cells and writes into the map, so a cell it has just occupied does not
occupy others, and `set` drops what falls off the border. What comes out is the set of cells within
the radius of an occupied one (`inflate_dilates`). The console has a second copy of the loop with
the five offsets of radius one written out, and gets the same list of cells (`buildInflated_eq`).
-/

set_option autoImplicit false

namespace BotCockpit.Sim.Nav

open BotCockpit.Lib
open BotCockpit.Ui (setv buildOcc buildInflated)

variable {F : Type} [CDouble F]

namespace GridMap

/-- The cell lies in the map and is occupied. -/
def Occupied (m : GridMap F) (x y : Int) : Prop := m.Inside x y ∧ m.cellAt x y = true

instance (m : GridMap F) (x y : Int) : Decidable (m.Occupied x y) := by
  unfold Occupied
  infer_instance

/-- The list of cells has the size of the grid. -/
def Sized (m : GridMap F) : Prop := (m.occ.length : Int) = m.width * m.height

/-- A cell of a map has its index in the list. -/
theorem Sized.inRange {m : GridMap F} (h : m.Sized) : m.InRange := by
  have hcell : ∀ x y, m.Inside x y →
      0 ≤ y * m.width + x ∧ (y * m.width + x).toNat < m.occ.length := by
    intro x y ⟨hx, hy, hxw, hyh⟩
    have hrow : (y + 1) * m.width ≤ m.height * m.width :=
      Int.mul_le_mul_of_nonneg_right (by omega) (by omega)
    have hpos : 0 ≤ y * m.width := Int.mul_nonneg hy (by omega)
    have hsize : (m.occ.length : Int) = m.height * m.width := h.trans (Int.mul_comm _ _)
    rw [Int.add_mul, Int.one_mul] at hrow
    omega
  refine ⟨h, hcell, fun x y i hi => ?_⟩
  unfold index? at hi
  split at hi
  · rename_i hin
    rw [← Option.some.inj hi]
    exact ⟨rfl, (hcell x y hin).2⟩
  · cases hi

/-! ### The dilation -/

/-- An offset within the radius is within it on both axes. -/
theorem bounds_of_dist {dx dy r : Int} (hr : 0 ≤ r) (h : dx * dx + dy * dy ≤ r * r) :
    -r ≤ dx ∧ dx ≤ r ∧ -r ≤ dy ∧ dy ≤ r := by
  refine ⟨?_, ?_, ?_, ?_⟩ <;> by_contra hlt <;> nlinarith [mul_self_nonneg dx, mul_self_nonneg dy]

/-- Up to this radius the sum of the squares is an `int`. Beyond it the source leaves `int`. -/
theorem dist_le_int {dx dy r : Int} (hr : r ≤ 32767) (hx : -r ≤ dx ∧ dx ≤ r)
    (hy : -r ≤ dy ∧ dy ≤ r) : dx * dx + dy * dy ≤ 2 ^ 31 - 1 := by
  nlinarith

/-- **Inflation is dilation by a disc.** -/
theorem inflate_dilates {m : GridMap F} (hsize : m.Sized) {r : Int} (hr : 0 ≤ r) (x y : Int) :
    (m.inflate r).Occupied x y ↔
      m.Inside x y ∧ ∃ dx dy, m.Occupied (x - dx) (y - dy) ∧ dx * dx + dy * dy ≤ r * r := by
  rcases hr.eq_or_lt with rfl | hpos
  · -- Radius zero returns at once, and only the offset zero has length zero.
    have hsame : m.inflate 0 = m := if_pos (Int.le_refl 0)
    rw [hsame]
    constructor
    · intro h
      exact ⟨h.1, 0, 0, by simpa using h, by decide⟩
    · rintro ⟨-, dx, dy, hocc, hdist⟩
      obtain ⟨h₁, h₂, h₃, h₄⟩ := bounds_of_dist (Int.le_refl 0) hdist
      obtain rfl : dx = 0 := by omega
      obtain rfl : dy = 0 := by omega
      simpa using hocc
  · have hocc := inflate_occupies hsize.inRange hpos
    rw [Occupied, hocc.grid.inside, hocc.occupied]
    constructor
    · rintro ⟨hin, h | ⟨dx, dy, -, -, -, -, hdist, hin', hcell⟩⟩
      · exact ⟨hin, 0, 0, by simpa using ⟨hin, h⟩, by nlinarith⟩
      · exact ⟨hin, dx, dy, ⟨hin', hcell⟩, hdist⟩
    · rintro ⟨hin, dx, dy, ⟨hin', hcell⟩, hdist⟩
      obtain ⟨h₁, h₂, h₃, h₄⟩ := bounds_of_dist hr hdist
      exact ⟨hin, Or.inr ⟨dx, dy, h₁, h₂, h₃, h₄, hdist, hin', hcell⟩⟩

/-! ### The copy of the console -/

/-- The map with another list of cells. -/
def withOcc (m : GridMap F) (occ : List Bool) : GridMap F := { m with occ := occ }

/-- Replacing the cells of a map. -/
theorem withOcc_occ (m : GridMap F) (o : List Bool) : (m.withOcc o).occ = o := rfl

/-- Setting a cell is setting it in the list. -/
theorem withOcc_setv (m : GridMap F) (o : List Bool) (x y : Int) :
    (m.withOcc o).set x y true = m.withOcc (setv m.width m.height o x y) := by
  have hinside : (m.withOcc o).Inside x y ↔ 0 ≤ x ∧ 0 ≤ y ∧ x < m.width ∧ y < m.height := Iff.rfl
  unfold set setv
  by_cases hin : 0 ≤ x ∧ 0 ≤ y ∧ x < m.width ∧ y < m.height
  · rw [if_pos hin, if_pos (hinside.mpr hin)]
    rfl
  · rw [if_neg hin, if_neg (hinside.not.mpr hin)]

/-- A loop over the lists is the loop over the maps. -/
theorem withOcc_foldl {α : Type} {m : GridMap F} {f : GridMap F → α → GridMap F}
    {g : List Bool → α → List Bool} (hstep : ∀ o a, f (m.withOcc o) a = m.withOcc (g o a))
    (o : List Bool) (l : List α) : l.foldl f (m.withOcc o) = m.withOcc (l.foldl g o) :=
  List.foldl_hom (m.withOcc ·) hstep

/-- The five cells that `buildInflated` sets for an occupied one. -/
def Halo (x y x' y' : Int) : Prop :=
  (((x' = x ∧ y' = y ∨ x' = x + 1 ∧ y' = y) ∨ x' = x - 1 ∧ y' = y) ∨ x' = x ∧ y' = y + 1) ∨
    x' = x ∧ y' = y - 1

/-- They are the cells at distance one, and the cell itself. -/
theorem halo_iff {x y x' y' : Int} :
    Halo x y x' y' ↔ ∃ dx dy : Int, dx * dx + dy * dy ≤ 1 * 1 ∧ x' - dx = x ∧ y' - dy = y := by
  constructor
  · rintro ((((⟨rfl, rfl⟩ | ⟨rfl, rfl⟩) | ⟨rfl, rfl⟩) | ⟨rfl, rfl⟩) | ⟨rfl, rfl⟩)
    · exact ⟨0, 0, by decide, by omega, by omega⟩
    · exact ⟨1, 0, by decide, by omega, by omega⟩
    · exact ⟨-1, 0, by decide, by omega, by omega⟩
    · exact ⟨0, 1, by decide, by omega, by omega⟩
    · exact ⟨0, -1, by decide, by omega, by omega⟩
  · rintro ⟨dx, dy, hdist, rfl, rfl⟩
    obtain ⟨h₁, h₂, h₃, h₄⟩ := bounds_of_dist (by decide) hdist
    unfold Halo
    obtain rfl | rfl | rfl : dx = -1 ∨ dx = 0 ∨ dx = 1 := by omega
    all_goals obtain rfl | rfl | rfl : dy = -1 ∨ dy = 0 ∨ dy = 1 := by omega
    all_goals omega

/-- What the copy of the console occupies. -/
theorem buildInflated_occupies (m : GridMap F) :
    Occupies m (fun x' y' => ∃ y ∈ span 0 (m.height - 1), ∃ x ∈ span 0 (m.width - 1),
      m.occ.getD (y * m.width + x).toNat false = true ∧ Halo x y x' y')
      (m.withOcc (buildInflated m.width m.height m.occ)) := by
  let pass (n : GridMap F) (x y : Int) : GridMap F :=
    (((n.set x y true).set (x + 1) y true).set (x - 1) y true).set x (y + 1) true |>.set x (y - 1)
      true
  have hloops : (span 0 (m.height - 1)).foldl (fun n y => (span 0 (m.width - 1)).foldl (fun n x =>
      if m.occ.getD (y * m.width + x).toNat false then pass n x y else n) n) m =
      m.withOcc (buildInflated m.width m.height m.occ) := by
    unfold buildInflated
    refine withOcc_foldl (m := m) (fun o y => ?_) m.occ _
    refine withOcc_foldl (m := m) (fun o x => ?_) o _
    simp only [pass, withOcc_setv]
    split <;> rfl
  rw [← hloops]
  refine Occupies.foldl fun n₁ _ y _ => Occupies.foldl fun n₂ _ x _ => Occupies.ite ?_
  exact ((((occupies_set n₂ x y).trans (occupies_set _ (x + 1) y)).trans
    (occupies_set _ (x - 1) y)).trans (occupies_set _ x (y + 1))).trans (occupies_set _ x (y - 1))

/-- Setting cells keeps the length of the list. -/
theorem length_set (m : GridMap F) (x y : Int) (v : Bool) :
    (m.set x y v).occ.length = m.occ.length := by
  unfold set
  split
  · exact List.length_set
  · rfl

/-- A loop whose rounds keep the number of cells keeps it. -/
theorem length_foldl {α : Type} {f : GridMap F → α → GridMap F}
    (hstep : ∀ n a, (f n a).occ.length = n.occ.length) (l : List α) (m : GridMap F) :
    (l.foldl f m).occ.length = m.occ.length := by
  induction l generalizing m with
  | nil => rfl
  | cons a l ih => exact (ih (f m a)).trans (hstep m a)

/-- Inflation keeps the number of cells. -/
theorem length_inflate (m : GridMap F) (r : Int) : (m.inflate r).occ.length = m.occ.length := by
  unfold inflate
  split
  · rfl
  · refine length_foldl (fun n y => length_foldl (fun n x => ?_) _ n) _ m
    split
    · refine length_foldl (fun n dy => length_foldl (fun n dx => ?_) _ n) _ n
      split
      · exact length_set n _ _ _
      · rfl
    · rfl

/-- So does the planner's own inflation. -/
theorem length_buildInflated (w h : Int) (occ : List Bool) :
    (buildInflated w h occ).length = occ.length := by
  have hset : ∀ o : List Bool, ∀ x y, (setv w h o x y).length = o.length := by
    intro o x y
    unfold setv
    split
    · exact List.length_set
    · rfl
  have hfold : ∀ {α : Type} {g : List Bool → α → List Bool}, (∀ o a, (g o a).length = o.length) →
      ∀ (l : List α) (o : List Bool), (l.foldl g o).length = o.length := by
    intro α g hstep l
    induction l with
    | nil => exact fun o => rfl
    | cons a l ih => exact fun o => (ih (g o a)).trans (hstep o a)
  refine hfold (fun o y => hfold (fun o x => ?_) _ o) _ occ
  split
  · simp only [hset]
  · rfl

/-- Two lists of the size of the grid that agree in every cell are equal. -/
theorem occ_ext {m n k : GridMap F} (hsize : m.Sized) (hpos : 0 < m.width) (hn : SameGrid m n)
    (hk : SameGrid m k) (hnl : n.occ.length = m.occ.length) (hkl : k.occ.length = m.occ.length)
    (h : ∀ x y, n.cellAt x y = true ↔ k.cellAt x y = true) : n.occ = k.occ := by
  refine List.ext_getElem (hnl.trans hkl.symm) fun i hi hi' => ?_
  -- The cell with the index `i`.
  have hlt : (i : Int) < m.width * m.height := by
    have hsize' : (m.occ.length : Int) = m.width * m.height := hsize
    omega
  have hx := Int.emod_nonneg (i : Int) (by omega : m.width ≠ 0)
  have hxw := Int.emod_lt_of_pos (i : Int) hpos
  have hy : 0 ≤ (i : Int) / m.width := Int.ediv_nonneg (by omega) (by omega)
  have hyh : (i : Int) / m.width < m.height :=
    Int.ediv_lt_of_lt_mul hpos (by rwa [Int.mul_comm] at hlt)
  have hidx : ((i : Int) / m.width * m.width + (i : Int) % m.width).toNat = i := by
    rw [Int.ediv_mul_add_emod]
    rfl
  have hin : m.Inside ((i : Int) % m.width) ((i : Int) / m.width) := ⟨hx, hy, hxw, hyh⟩
  have hcell := h ((i : Int) % m.width) ((i : Int) / m.width)
  rw [cellAt, cellAt, if_pos ((hn.inside _ _).mpr hin), if_pos ((hk.inside _ _).mpr hin), hn.width,
    hk.width, hidx, List.getD_eq_getElem?_getD, List.getD_eq_getElem?_getD,
    List.getElem?_eq_getElem hi, List.getElem?_eq_getElem hi'] at hcell
  exact Bool.eq_iff_iff.mpr hcell

/-- A grid without cells has an empty scan. -/
theorem span_eq_nil {lo hi : Int} (h : hi < lo) : span lo hi = [] := by
  unfold span
  rw [Int.toNat_of_nonpos (by omega)]
  rfl

/-- **The console inflates as the robot does.** -/
theorem buildInflated_eq {m : GridMap F} (hsize : m.Sized) :
    buildInflated m.width m.height m.occ = (m.inflate 1).occ := by
  by_cases hpos : 0 < m.width
  · have hcopy := buildInflated_occupies m
    have hloops := inflate_occupies hsize.inRange (show (0 : Int) < 1 by decide)
    -- The cells that the two loops set: the halo of an occupied cell, written from either side.
    have hcells : ∀ x' y', (∃ y ∈ span 0 (m.height - 1), ∃ x ∈ span 0 (m.width - 1),
        m.occ.getD (y * m.width + x).toNat false = true ∧ Halo x y x' y') ↔
        ∃ dx dy, -1 ≤ dx ∧ dx ≤ 1 ∧ -1 ≤ dy ∧ dy ≤ 1 ∧ dx * dx + dy * dy ≤ 1 * 1 ∧
          m.Inside (x' - dx) (y' - dy) ∧ m.cellAt (x' - dx) (y' - dy) = true := by
      intro x' y'
      simp only [mem_span, halo_iff]
      constructor
      · rintro ⟨y, hy, x, hx, hsrc, dx, dy, hdist, rfl, rfl⟩
        obtain ⟨h₁, h₂, h₃, h₄⟩ := bounds_of_dist (by decide) hdist
        have hin : m.Inside (x' - dx) (y' - dy) := ⟨hx.1, hy.1, by omega, by omega⟩
        exact ⟨dx, dy, h₁, h₂, h₃, h₄, hdist, hin, (source_iff hsize.inRange hin).mp hsrc⟩
      · rintro ⟨dx, dy, -, -, -, -, hdist, hin, hcell⟩
        have hsrc := (source_iff hsize.inRange hin).mpr hcell
        obtain ⟨h₁, h₂, h₃, h₄⟩ := hin
        exact ⟨y' - dy, by omega, x' - dx, by omega, hsrc, dx, dy, hdist, rfl, rfl⟩
    -- Maps of one grid with the same occupied cells have the same list.
    refine occ_ext hsize hpos hcopy.grid hloops.grid (length_buildInflated _ _ _)
      (length_inflate m 1) fun x y => ?_
    rw [(hcopy.congr hcells).occupied, hloops.occupied]
  by_cases hrows : 0 < m.height
  · -- There are no cells at all.
    have hnil : m.occ.length = 0 := by
      have hle : m.width * m.height ≤ 0 :=
        Int.mul_nonpos_of_nonpos_of_nonneg (by omega) (by omega)
      have hsize' : (m.occ.length : Int) = m.width * m.height := hsize
      omega
    rw [List.eq_nil_of_length_eq_zero ((length_buildInflated _ _ _).trans hnil),
      List.eq_nil_of_length_eq_zero ((length_inflate m 1).trans hnil)]
  · -- The scan has no rows.
    have hnil : span 0 (m.height - 1) = [] := span_eq_nil (by omega)
    unfold buildInflated inflate
    rw [if_neg (by decide)]
    dsimp only
    rw [hnil]
    rfl

/-- The two walls that the console and the robot build, loop by loop. -/
theorem withOcc_buildOcc : (blank : GridMap F).withOcc (buildOcc 40 20) = makeCorridorDemo := by
  have hrows : (span 0 (40 - 1)).foldl
      (fun m x => (m.set x 0 true).set x (m.height - 1) true) blank =
      (blank : GridMap F).withOcc ((span 0 39).foldl
        (fun o x => setv 40 20 (setv 40 20 o x 0) x 19) (List.replicate (40 * 20) false)) :=
    withOcc_foldl (m := blank) (fun o x => by rw [withOcc_setv, withOcc_setv]; rfl) _ _
  have hcolumns : ∀ o, (span 0 (((blank : GridMap F).withOcc o).height - 1)).foldl
      (fun m y => (m.set 0 y true).set (m.width - 1) y true) ((blank : GridMap F).withOcc o) =
      (blank : GridMap F).withOcc ((span 0 19).foldl
        (fun o y => setv 40 20 (setv 40 20 o 0 y) 39 y) o) :=
    fun o => withOcc_foldl (m := blank) (fun o y => by rw [withOcc_setv, withOcc_setv]; rfl) o _
  have hwall : ∀ o, (span 2 (((blank : GridMap F).withOcc o).height - 3)).foldl
      (fun m y => if 7 ≤ y ∧ y ≤ 11 then m else m.set 20 y true) ((blank : GridMap F).withOcc o) =
      (blank : GridMap F).withOcc ((span 2 17).foldl
        (fun o y => if 7 ≤ y ∧ y ≤ 11 then o else setv 40 20 o 20 y) o) := by
    refine fun o => withOcc_foldl (m := blank) (fun o y => ?_) o _
    rw [withOcc_setv]
    split <;> rfl
  unfold makeCorridorDemo
  dsimp only
  rw [show ({ occ := List.replicate (40 * 20) false } : GridMap F) = blank from rfl, hrows,
    hcolumns,
    hwall, withOcc_setv, withOcc_setv]
  rfl

/-- **The console draws the map that the robot plans on.** -/
theorem buildInflated_buildOcc :
    buildInflated 40 20 (buildOcc 40 20) = (makeCorridorDemo.inflate 1 : GridMap F).occ := by
  have hmap : (makeCorridorDemo : GridMap F).width = 40 ∧
    (makeCorridorDemo : GridMap F).height = 20 ∧
      (makeCorridorDemo : GridMap F).occ = buildOcc 40 20 := by
    rw [← withOcc_buildOcc]
    exact ⟨rfl, rfl, withOcc_occ _ _⟩
  have hsized : (makeCorridorDemo : GridMap F).Sized := makeCorridorDemo_drawn.inRange.size
  rw [← buildInflated_eq hsized, hmap.1, hmap.2.1, hmap.2.2]

end GridMap

end BotCockpit.Sim.Nav
