import BotCockpit.Lib.CArith
import Mathlib.Data.DFinsupp.WellFounded

/-!
# `BotCockpit.Sim.Nav`: occupancy grid, A* and pure pursuit

The model of `nav.hpp`, over an arbitrary `double` type `F` and, for the costs of the search,
an arbitrary `float` type `C`.

`astar` keeps the source's tables: `came`, `gscore` and the open queue, with re-opened cells
and no closed set. The tables are functions on the cell indices `Fin map.cells`, so an index
out of range cannot be built. The loop is total: each pass either lowers `gscore` at some cell
or pops an entry without a push (`expand_cases`), and costs do not descend for ever.

A `while` loop on an angle is the one loop here that floating-point arithmetic does not
bound. It takes `fuel`, the number of passes it may make, and `none` says that it wants more.
-/

set_option autoImplicit false

namespace BotCockpit.Sim.Nav

open BotCockpit.Lib

variable {F : Type} [CDouble F] {C : Type} [CFloat C]

/-- `M_PI`. -/
def pi : F := 3.14159265358979323846

/-- `struct GridMap`. `occ` holds `true` for an occupied cell, row by row. -/
structure GridMap (F : Type) [CDouble F] where
  width : Int := 40
  height : Int := 20
  resolution : F := 0.5
  originX : F := 0.0
  originY : F := -5.0
  occ : List Bool := []

/-- The integers from `lo` to `hi`, both included. -/
def span (lo hi : Int) : List Int :=
  (List.range (hi + 1 - lo).toNat).map fun (k : Nat) => lo + (k : Int)

namespace GridMap

/-- Whether a cell lies in the map. -/
def Inside (m : GridMap F) (x y : Int) : Prop := 0 ≤ x ∧ 0 ≤ y ∧ x < m.width ∧ y < m.height

instance (m : GridMap F) (x y : Int) : Decidable (m.Inside x y) := by
  unfold Inside
  infer_instance

/-- `GridMap::set`. A cell outside the map is ignored. -/
def set (m : GridMap F) (x y : Int) (v : Bool) : GridMap F :=
  if m.Inside x y then { m with occ := m.occ.set (y * m.width + x).toNat v } else m

/-- `GridMap::at`. A cell outside the map is occupied. -/
def cellAt (m : GridMap F) (x y : Int) : Bool :=
  if m.Inside x y then m.occ.getD (y * m.width + x).toNat true else true

/-- `GridMap::world_to_cell`: the cell of a world point, when it lies in the map. -/
def worldToCell (m : GridMap F) (wx wy : F) : Option (Int × Int) :=
  let cx := CDouble.floorInt ((wx - m.originX) / m.resolution)
  let cy := CDouble.floorInt ((wy - m.originY) / m.resolution)
  if m.Inside cx cy then some (cx, cy) else none

/-- `GridMap::cell_to_world`: the centre of a cell. -/
def cellToWorld (m : GridMap F) (cx cy : Int) : F × F :=
  (m.originX + (CDouble.ofInt cx + 0.5) * m.resolution,
    m.originY + (CDouble.ofInt cy + 0.5) * m.resolution)

/-- `GridMap::inflate`. The scan reads the cells as they were before the call. -/
def inflate (m : GridMap F) (radiusCells : Int) : GridMap F :=
  if radiusCells ≤ 0 then m
  else
    let src := m.occ
    (span 0 (m.height - 1)).foldl (fun m y =>
      (span 0 (m.width - 1)).foldl (fun m x =>
        if src.getD (y * m.width + x).toNat false then
          (span (-radiusCells) radiusCells).foldl (fun m dy =>
            (span (-radiusCells) radiusCells).foldl (fun m dx =>
              if dx * dx + dy * dy ≤ radiusCells * radiusCells then m.set (x + dx) (y + dy) true
              else m) m) m
        else m) m) m

/-- `GridMap::make_corridor_demo`: borders, a wall at column 20 with a gap at rows 7 to 11,
and a block near the start. -/
def makeCorridorDemo : GridMap F :=
  let m : GridMap F := { occ := List.replicate (40 * 20) false }
  let m := (span 0 (m.width - 1)).foldl
    (fun m x => (m.set x 0 true).set x (m.height - 1) true) m
  let m := (span 0 (m.height - 1)).foldl
    (fun m y => (m.set 0 y true).set (m.width - 1) y true) m
  let m := (span 2 (m.height - 3)).foldl
    (fun m y => if 7 ≤ y ∧ y ≤ 11 then m else m.set 20 y true) m
  (m.set 5 4 true).set 6 4 true

/-- The number of cells. -/
def cells (m : GridMap F) : Nat := (m.width * m.height).toNat

/-- The index of a cell in the tables of the search, when it lies in the map. -/
def index? (m : GridMap F) (x y : Int) : Option (Fin m.cells) :=
  if h : m.Inside x y then
    some ⟨(y * m.width + x).toNat, by
      obtain ⟨hx, hy, hxw, hyh⟩ := h
      have hle : (y + 1) * m.width ≤ m.height * m.width :=
        Int.mul_le_mul_of_nonneg_right (by omega) (by omega)
      have hpos : 0 ≤ y * m.width := Int.mul_nonneg hy (by omega)
      have hexp : (y + 1) * m.width = y * m.width + m.width := by
        rw [Int.add_mul, Int.one_mul]
      unfold cells
      rw [Int.mul_comm m.width m.height]
      omega⟩
  else none

/-- The column and the row of a table index. -/
def cellOf (m : GridMap F) (i : Fin m.cells) : Int × Int :=
  ((i : Int) % m.width, (i : Int) / m.width)

end GridMap

/-! ### Snapping to a free cell -/

/-- The best free cell so far and its squared distance. -/
abbrev Snap := Int × Option (Int × Int)

/-- One candidate of a ring. -/
def snapCandidate (map : GridMap F) (x y : Int) (acc : Snap) (d : Int × Int) : Snap :=
  let nx := x + d.1
  let ny := y + d.2
  if map.Inside nx ny then
    if map.cellAt nx ny then acc
    else
      let dist := d.1 * d.1 + d.2 * d.2
      if dist < acc.1 then (dist, some (nx, ny)) else acc
  else acc

/-- The offsets of the square of radius `r`, row by row. -/
def square (r : Int) : List (Int × Int) :=
  (span (-r) r).flatMap fun dy => (span (-r) r).map fun dx => (dx, dy)

/-- Square after square, until one has a hit. -/
def snapSquares (map : GridMap F) (x y : Int) : List Int → Option (Int × Int)
  | [] => none
  | r :: rs =>
      match ((square r).foldl (snapCandidate map x y) (10 ^ 9, none)).2 with
      | some cell => some cell
      | none => snapSquares map x y rs

/-- `snap_free`: the cell itself, or a free cell at most six cells away. -/
def snapFree (map : GridMap F) (x y : Int) : Option (Int × Int) :=
  if map.cellAt x y then snapSquares map x y (span 1 6) else some (x, y)

/-! ### The search -/

/-- The tables of the search: the cell a cell was reached from, the cost of the best path
found to it, and the open queue. -/
structure Search (C : Type) (n : Nat) where
  came : Fin n → Option (Fin n)
  gscore : Fin n → C
  openSet : List (C × Fin n)

/-- `std::greater` on the queue entries makes the smallest pair the top. -/
def entryLt {n : Nat} (a b : C × Fin n) : Bool :=
  a.1 < b.1 || (!(b.1 < a.1) && a.2 < b.2)

/-- The top of the queue and the other entries. -/
def popTop {n : Nat} : List (C × Fin n) → Option ((C × Fin n) × List (C × Fin n))
  | [] => none
  | a :: as =>
      match popTop as with
      | none => some (a, [])
      | some (b, bs) => if entryLt b a then some (b, a :: bs) else some (a, as)

/-- A queue that is popped is one shorter. -/
theorem length_of_popTop {n : Nat} :
    ∀ {q : List (C × Fin n)} {a : C × Fin n} {rest : List (C × Fin n)},
      popTop q = some (a, rest) → q.length = rest.length + 1 := by
  intro q
  induction q with
  | nil => intro a rest h; simp [popTop] at h
  | cons b bs ih =>
      intro a rest h
      rw [popTop] at h
      split at h
      · rename_i hnone
        simp only [Option.some.injEq, Prod.mk.injEq] at h
        obtain ⟨rfl, rfl⟩ := h
        cases bs with
        | nil => rfl
        | cons c cs =>
            rw [popTop] at hnone
            split at hnone
            · cases hnone
            · split at hnone <;> cases hnone
      · rename_i c cs hsome
        have hlen := ih hsome
        split at h
        · simp only [Option.some.injEq, Prod.mk.injEq] at h
          obtain ⟨rfl, rfl⟩ := h
          simp [hlen]
        · simp only [Option.some.injEq, Prod.mk.injEq] at h
          obtain ⟨rfl, rfl⟩ := h
          rfl

/-- The eight directions, straight ones first. -/
def dirs : List (Int × Int) :=
  [(1, 0), (-1, 0), (0, 1), (0, -1), (1, 1), (1, -1), (-1, 1), (-1, -1)]

/-- The octile distance of a cell to the goal cell. -/
def heuristic (goal : Int × Int) (x y : Int) : C :=
  let dx := (x - goal.1).natAbs
  let dy := (y - goal.2).natAbs
  CFloat.ofNat (Nat.max dx dy) + (0.4142 : C) * CFloat.ofNat (Nat.min dx dy)

/-- A diagonal direction. -/
def diagonal (d : Int × Int) : Bool := d.1 != 0 && d.2 != 0

/-- The cost of one step. -/
def stepCost (d : Int × Int) : C := if diagonal d then 1.4142 else 1.0

/-- One neighbour of the popped cell. -/
def relax (map : GridMap F) (goal : Int × Int) (cur : Fin map.cells)
    (s : Search C map.cells) (d : Int × Int) : Search C map.cells :=
  let c := map.cellOf cur
  let nx := c.1 + d.1
  let ny := c.2 + d.2
  match map.index? nx ny with
  | none => s
  | some ni =>
      if map.cellAt nx ny then s
      -- No diagonal step past the corner of an occupied cell.
      else if diagonal d && (map.cellAt (c.1 + d.1) c.2 || map.cellAt c.1 (c.2 + d.2)) then s
      else
        let tentative := s.gscore cur + stepCost d
        if tentative < s.gscore ni then
          { came := Function.update s.came ni (some cur)
            gscore := Function.update s.gscore ni tentative
            openSet := (tentative + heuristic goal nx ny, ni) :: s.openSet }
        else s

/-- All neighbours of the popped cell. -/
def expand (map : GridMap F) (goal : Int × Int) (cur : Fin map.cells)
    (s : Search C map.cells) : Search C map.cells :=
  dirs.foldl (relax map goal cur) s

/-- A neighbour is left alone, or the cost of some cell becomes smaller. -/
theorem relax_cases (map : GridMap F) (goal : Int × Int) (cur : Fin map.cells)
    (s : Search C map.cells) (d : Int × Int) :
    relax map goal cur s d = s ∨ (relax map goal cur s d).gscore < s.gscore := by
  unfold relax
  dsimp only
  split
  · exact Or.inl rfl
  · split
    · exact Or.inl rfl
    · split
      · exact Or.inl rfl
      · split
        · exact Or.inr (update_lt_self_iff.mpr ‹_›)
        · exact Or.inl rfl

/-- A pass leaves the tables alone, or the cost of some cell becomes smaller. -/
theorem expand_cases (map : GridMap F) (goal : Int × Int) (cur : Fin map.cells)
    (s : Search C map.cells) :
    expand map goal cur s = s ∨ (expand map goal cur s).gscore < s.gscore := by
  unfold expand
  generalize dirs = ds
  induction ds generalizing s with
  | nil => exact Or.inl rfl
  | cons d ds ih =>
      rw [List.foldl_cons]
      rcases relax_cases map goal cur s d with h | h
      · rw [h]
        exact ih s
      · rcases ih (relax map goal cur s d) with h' | h'
        · rw [h']
          exact Or.inr h
        · exact Or.inr (h'.trans h)

/-- The order in which the search descends: a smaller cost table, or the same one and a
shorter queue. -/
instance searchDescent {n : Nat} : WellFoundedRelation (Search C n) :=
  have : WellFoundedLT C := ⟨CFloat.wf⟩
  invImage (fun s => (s.gscore, s.openSet.length))
    ⟨Prod.Lex (· < ·) (· < ·), WellFounded.prod_lex wellFounded_lt Nat.lt_wfRel.wf⟩

/-- The search loop: the `came` table when the goal is popped, `none` when the queue runs
empty. -/
def searchLoop (map : GridMap F) (goal : Int × Int) (goalIdx : Fin map.cells)
    (s : Search C map.cells) : Option (Fin map.cells → Option (Fin map.cells)) :=
  match _hpop : popTop s.openSet with
  | none => none
  | some ((_, cur), rest) =>
      if cur = goalIdx then some s.came
      else searchLoop map goal goalIdx (expand map goal cur { s with openSet := rest })
termination_by s
decreasing_by
  have hlen := length_of_popTop _hpop
  rcases expand_cases map goal cur { s with openSet := rest } with h | h
  · rw [h]
    exact Prod.Lex.right _ (by simp only [hlen]; omega)
  · exact Prod.Lex.left _ _ h

/-- The walk back over the `came` table, goal cell first. Each cell occurs at most once, so
`fuel` is the number of cells. -/
def walkBack {n : Nat} (came : Fin n → Option (Fin n)) : Nat → Fin n → List (Fin n)
  | 0, _ => []
  | fuel + 1, c =>
      match came c with
      | none => [c]
      | some p => c :: walkBack came fuel p

/-- `astar`: world waypoints, the exact commanded goal last. Empty when there is no path. -/
def astar (C : Type) [CFloat C] (map : GridMap F) (sx sy gx gy : F) : List (F × F) :=
  match map.worldToCell sx sy, map.worldToCell gx gy with
  | some (scx, scy), some (gcx, gcy) =>
      match snapFree map scx scy, snapFree map gcx gcy with
      | some s, some g =>
          match map.index? s.1 s.2, map.index? g.1 g.2 with
          | some sIdx, some gIdx =>
              let start : Search C map.cells :=
                { came := fun _ => none
                  gscore := Function.update (fun _ => CFloat.infinity) sIdx 0.0
                  openSet := [(heuristic g s.1 s.2, sIdx)] }
              match searchLoop map g gIdx start with
              | none => []
              | some came =>
                  let cells := (walkBack came map.cells gIdx).reverse
                  let path := cells.map fun c =>
                    map.cellToWorld (map.cellOf c).1 (map.cellOf c).2
                  if path = [] then [] else path.dropLast ++ [(gx, gy)]
          | _, _ => []
      | _, _ => []
  | _, _ => []

/-! ### Geometry -/

/-- `is_free`: the point lies in a free cell of the map. -/
def isFree (map : GridMap F) (wx wy : F) : Bool :=
  match map.worldToCell wx wy with
  | none => false
  | some (cx, cy) => !map.cellAt cx cy

/-- `segment_free`: every sample of the straight segment lies in a free cell. -/
def segmentFree (map : GridMap F) (x0 y0 x1 y1 : F) : Bool :=
  let d := CDouble.hypot (x1 - x0) (y1 - y0)
  let n : Int := max 1 (CDouble.ceilInt (d / 0.08))
  (span 0 n).all fun i =>
    let t : F := CDouble.ofInt i / CDouble.ofInt n
    isFree map (x0 + (x1 - x0) * t) (y0 + (y1 - y0) * t)

/-- `while (a > M_PI) a -= 2 * M_PI`. -/
def wrapDown : Nat → F → Option F
  | 0, a => if pi < a then none else some a
  | fuel + 1, a => if pi < a then wrapDown fuel (a - 2.0 * pi) else some a

/-- `while (a < -M_PI) a += 2 * M_PI`. -/
def wrapUp : Nat → F → Option F
  | 0, a => if a < -pi then none else some a
  | fuel + 1, a => if a < -pi then wrapUp fuel (a + 2.0 * pi) else some a

/-- Both loops, one after the other. -/
def wrapAngle (fuel : Nat) (a : F) : Option F := (wrapDown fuel a).bind (wrapUp fuel)

/-- `heading_err`: the heading error to a world point. -/
def headingErr (fuel : Nat) (yaw x y tx ty : F) : Option F :=
  wrapAngle fuel (CDouble.atan2 (ty - y) (tx - x) - yaw)

/-- `advance_idx`: move on when past the current waypoint or when the next one is closer. -/
def advanceIdx (path : List (F × F)) (idx : Nat) (x y : F) : Nat :=
  if h : idx + 1 < path.length then
    let p := path[idx]
    let q := path[idx + 1]
    let d0 := CDouble.hypot (p.1 - x) (p.2 - y)
    let d1 := CDouble.hypot (q.1 - x) (q.2 - y)
    if d0 < 0.35 ∨ d1 + 0.05 < d0 then advanceIdx path (idx + 1) x y else idx
  -- At the last waypoint the index holds; completion is decided by the caller.
  else idx
termination_by path.length - idx

/-- The loop of `aim_point` over the waypoints from the index on. `prev` is the waypoint
before, and `best` the last one that was visible within the budget. -/
def aimLoop (map : GridMap F) (x y lookahead : F) :
    F → Option (F × F) → Option (F × F) → List (F × F) → Option (F × F)
  | _, _, best, [] => best
  | budget, prev, best, p :: ps =>
      let budget := match prev with
        | none => budget
        | some q => budget - CDouble.hypot (p.1 - q.1) (p.2 - q.2)
      if prev.isSome ∧ budget < 0.0 then best
      else if segmentFree map x y p.1 p.2 then
        if lookahead ≤ CDouble.hypot (p.1 - x) (p.2 - y) then some p
        else aimLoop map x y lookahead budget (some p) (some p) ps
      else best

/-- `aim_point`: the farthest visible waypoint within the path length `lookahead`. -/
def aimPoint (map : GridMap F) (path : List (F × F)) (idx : Nat) (x y lookahead : F) :
    F × F :=
  match path.getLast? with
  | none => (x, y)
  | some last =>
      match path.drop idx with
      | [] => last
      | wp :: wps =>
          -- Final approach: the commanded goal is always aimable.
          if CDouble.hypot (last.1 - x) (last.2 - y) < 0.60 then last
          else (aimLoop map x y lookahead lookahead none none (wp :: wps)).getD wp

/-- `pure_pursuit`: the velocities and the new path index. -/
def purePursuit (map : GridMap F) (x y yaw : F) (path : List (F × F)) (idx : Nat)
    (lookahead : F) : F × F × Nat :=
  if path.length ≤ idx then (0.0, 0.0, idx)
  else
    let idx := advanceIdx path idx x y
    let ld := match path[idx]?, path[idx + 1]? with
      | some p, some q =>
          let seg := CDouble.hypot (q.1 - p.1) (q.2 - p.2)
          if 1e-3 < seg ∧ seg < 0.55 then
            CDouble.min lookahead (CDouble.max 0.28 (seg * 1.2))
          else lookahead
      | _, _ => lookahead
    let aim := aimPoint map path idx x y ld
    let dx := aim.1 - x
    let dy := aim.2 - y
    let localX := CDouble.cos yaw * dx + CDouble.sin yaw * dy
    let localY := -CDouble.sin yaw * dx + CDouble.cos yaw * dy
    let dist := CDouble.max 0.05 (CDouble.hypot dx dy)
    let alpha := CDouble.atan2 localY localX
    -- Large heading error: rotate in place first.
    if 0.9 < CDouble.abs alpha then
      (0.0, (if 0.0 < alpha then 1.0 else -1.0) * 0.9, idx)
    -- Target roughly behind: arc turn with limited speed.
    else if localX < 0.0 then
      (0.10, (if 0.0 ≤ alpha then 1.0 else -1.0) * 0.6, idx)
    else if CDouble.abs alpha < 0.5 then
      let v : F := if 0.4 < CDouble.abs alpha then 0.12 else 0.28
      let w := 2.0 * v * CDouble.sin alpha / dist
      let w := if 1.0 < w then 1.0 else w
      let w := if w < -1.0 then -1.0 else w
      (v, w, idx)
    else (0.10, (if 0.0 ≤ alpha then 1.0 else -1.0) * 0.7, idx)

end BotCockpit.Sim.Nav
