import BotCockpit.Lib.GridLine
import BotCockpit.Lib.Real
import BotCockpit.Spec.Planner
import Mathlib.Analysis.Convex.Segment

/-!
# `BotCockpit.Spec.LineOfSight`: lines over the map

What `segment_free` is for, in exact real arithmetic: a line of sight is a straight segment all of
whose points lie in free cells. A cell is a half-open square of the plane.
-/

set_option autoImplicit false

namespace BotCockpit.Sim.Nav

open BotCockpit.Lib
open BotCockpit.Lib.GridLine (along SideBySide)

/-- The point lies in the square of the cell. -/
structure Covers (map : GridMap ℝ) (c : Int × Int) (p : ℝ × ℝ) : Prop where
  column : map.originX + c.1 * map.resolution ≤ p.1 ∧
    p.1 < map.originX + (c.1 + 1) * map.resolution
  row : map.originY + c.2 * map.resolution ≤ p.2 ∧
    p.2 < map.originY + (c.2 + 1) * map.resolution

/-- The point lies in a free cell of the map. -/
def InFreeCell (map : GridMap ℝ) (p : ℝ × ℝ) : Prop := ∃ c, Free map c ∧ Covers map c p

/-- Where `segment_free` holds, the whole closed segment lies in free cells. -/
def Conservative (map : GridMap ℝ) (a b : ℝ × ℝ) : Prop :=
  segmentFree map a.1 a.2 b.1 b.2 = true → ∀ p ∈ segment ℝ a b, InFreeCell map p

/-- The number of pieces into which `segment_free` divides the segment, each at most 0.08 long. -/
noncomputable def pieces (a b : ℝ × ℝ) : Int :=
  max 1 ⌈Real.sqrt ((b.1 - a.1) ^ 2 + (b.2 - a.2) ^ 2) / 0.08⌉

/-- The cell of the point of the segment at a parameter. -/
noncomputable def cellAlong (map : GridMap ℝ) (a b : ℝ × ℝ) (t : ℝ) : Int × Int :=
  GridLine.cell (map.originX, map.originY) map.resolution (along a b t)

/-- The cell of an end of the pieces. -/
noncomputable def sample (map : GridMap ℝ) (a b : ℝ × ℝ) (i : Int) : Int × Int :=
  cellAlong map a b ((i : ℝ) / (pieces a b : ℝ))

/-- On a piece whose ends lie in cells without a common edge, the segment crosses no occupied
cell. -/
def CrossesFree (map : GridMap ℝ) (a b : ℝ × ℝ) : Prop :=
  ∀ i, 0 ≤ i → i < pieces a b → ¬SideBySide (sample map a b i) (sample map a b (i + 1)) →
    ∀ t : ℝ, (i : ℝ) / (pieces a b : ℝ) < t → t < ((i + 1 : Int) : ℝ) / (pieces a b : ℝ) →
      Free map (cellAlong map a b t)

/-- No occupied cell of the map has free cells on both sides of a corner: where two cells that
touch only in a corner are free, so are the two cells beside them. -/
def NoBareCorner (map : GridMap ℝ) : Prop :=
  ∀ c c' : Int × Int, (c'.1 - c.1).natAbs = 1 → (c'.2 - c.2).natAbs = 1 → Free map c →
    Free map c' → Free map (c.1, c'.2) ∧ Free map (c'.1, c.2)

/-- `aim_point` does not rely on the line of sight: the path is used up, its end is near, or even
the next waypoint is out of sight. -/
def AimsBlind {F : Type} [CDouble F] (map : GridMap F) (path : List (F × F)) (idx : Nat) (x y : F) :
    Prop :=
  path.length ≤ idx ∨
    (∃ last, path.getLast? = some last ∧ CDouble.hypot (last.1 - x) (last.2 - y) < 0.60) ∨
    ∃ wp, path[idx]? = some wp ∧ segmentFree map x y wp.1 wp.2 = false

/-- A line of sight on the map is clear: the test is conservative, and where `aim_point` relies on
it, the way to the aim is free. -/
structure ClearSight (map : GridMap ℝ) : Prop where
  conservative : ∀ a b, Conservative map a b
  aims : ∀ path idx x y lookahead, ¬AimsBlind map path idx x y →
    ∀ p ∈ segment ℝ (x, y) (aimPoint map path idx x y lookahead), InFreeCell map p

end BotCockpit.Sim.Nav
