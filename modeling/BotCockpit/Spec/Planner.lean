import BotCockpit.Lib.BestFirst
import BotCockpit.Lib.Exact
import BotCockpit.Sim.Nav

/-!
# `BotCockpit.Spec.Planner`: cell paths

What the planner is for, in terms of the map alone: a path of free cells, each one step from the
one before, that never cuts the corner of an occupied cell. Lengths are rational numbers, one for a
straight step and 1.4142 for a diagonal one.
-/

set_option autoImplicit false

namespace BotCockpit.Sim.Nav

open BotCockpit.Lib

variable {F : Type} [CDouble F]

/-- The cell lies in the map and is not occupied. -/
def Free (map : GridMap F) (c : Int × Int) : Prop := map.cellAt c.1 c.2 = false

instance (map : GridMap F) (c : Int × Int) : Decidable (Free map c) := by
  unfold Free
  infer_instance

/-- One step to a free neighbour. A diagonal step passes between two free cells. -/
structure Steps (map : GridMap F) (c c' : Int × Int) : Prop where
  near : (c'.1 - c.1).natAbs ≤ 1 ∧ (c'.2 - c.2).natAbs ≤ 1 ∧ c' ≠ c
  free : Free map c'
  corner : c'.1 ≠ c.1 → c'.2 ≠ c.2 → Free map (c'.1, c.2) ∧ Free map (c.1, c'.2)

/-- The cells are a path of free cells between two cells. -/
structure Joins (map : GridMap F) (start goal : Int × Int) (cells : List (Int × Int)) : Prop where
  head : cells.head? = some start
  last : cells.getLast? = some goal
  free : ∀ c ∈ cells, Free map c
  steps : cells.IsChain (Steps map)

/-- The length of one step. -/
def stepLength (c c' : Int × Int) : ℚ := if c'.1 ≠ c.1 ∧ c'.2 ≠ c.2 then 1.4142 else 1

/-- The length of a cell path. -/
def pathLength (cells : List (Int × Int)) : ℚ := BestFirst.pathCost stepLength cells

/-- Some cell at most six cells away, in each direction, is free. -/
def FreeNearby (map : GridMap F) (c : Int × Int) : Prop :=
  ∃ c' : Int × Int, (c'.1 - c.1).natAbs ≤ 6 ∧ (c'.2 - c.2).natAbs ≤ 6 ∧ Free map c'

/-- The way from one cell to another. -/
def apart (c s : Int × Int) : Int × Int := (s.1 - c.1, s.2 - c.2)

/-- The radius of the square that the end of a way lies on. -/
def radius (d : Int × Int) : Nat := max d.1.natAbs d.2.natAbs

/-- `dx * dx + dy * dy`. -/
def sqLength (d : Int × Int) : Int := d.1 * d.1 + d.2 * d.2

/-- `snap_free` finds the nearest free cell of those at most six cells away, which is the cell
itself when that is free, and it fails when there is none. -/
def SnapsNearest (map : GridMap F) (c : Int × Int) : Prop :=
  match snapFree map c.1 c.2 with
  | none => ∀ s, Free map s → 6 < radius (apart c s)
  | some s => Free map s ∧ (Free map c → s = c) ∧ radius (apart c s) ≤ 6 ∧
      ∀ s', Free map s' → radius (apart c s') ≤ 6 → sqLength (apart c s) ≤ sqLength (apart c s')

/-- No free cell is nearer than all the free cells on the smallest square that has one. -/
def NearestOnFirstSquare (map : GridMap F) (c : Int × Int) : Prop :=
  ∀ s, Free map s → radius (apart c s) ≤ 6 →
    ∃ s', Free map s' ∧ (∀ t, Free map t → radius (apart c s') ≤ radius (apart c t)) ∧
      sqLength (apart c s') ≤ sqLength (apart c s)

/-- The cell that a world point is snapped to. -/
def snapped (map : GridMap F) (x y : F) : Option (Int × Int) :=
  (map.worldToCell x y).bind fun c => snapFree map c.1 c.2

/-- The centres of the cells, the goal point in place of the last one. -/
def waypoints (map : GridMap F) (cells : List (Int × Int)) (gx gy : F) : List (F × F) :=
  (cells.map fun c => map.cellToWorld c.1 c.2).dropLast ++ [(gx, gy)]

/-- A finite cost stays finite along a step, however the sum is rounded. -/
structure FiniteSteps (C : Type) [CFloat C] : Prop where
  zero : (0.0 : C) < CFloat.infinity
  step : ∀ (d : Int × Int) (a : C), a < CFloat.infinity → a + stepCost d < CFloat.infinity

/-- The search loop ends after so many passes. -/
inductive LoopEnds {C : Type} [CFloat C] (map : GridMap F) (goal : Int × Int)
    (goalIdx : Fin map.cells) : Nat → Search C map.cells → Prop
  | empty {s : Search C map.cells} : popTop s.openSet = none → LoopEnds map goal goalIdx 0 s
  | found {s : Search C map.cells} {f : C} {rest : List (C × Fin map.cells)} :
      popTop s.openSet = some ((f, goalIdx), rest) → LoopEnds map goal goalIdx 0 s
  | pass {n : Nat} {s : Search C map.cells} {f : C} {cur : Fin map.cells}
      {rest : List (C × Fin map.cells)} : popTop s.openSet = some ((f, cur), rest) →
      cur ≠ goalIdx → LoopEnds map goal goalIdx n (expand map goal cur { s with openSet := rest }) →
      LoopEnds map goal goalIdx (n + 1) s

end BotCockpit.Sim.Nav
