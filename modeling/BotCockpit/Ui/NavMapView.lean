import BotCockpit.Sim.Nav

/-!
# `BotCockpit.Ui.NavMapView`: the map that the console draws

The two grids of `NavMapView.qml`, which the console builds for itself and does not get from the
robot: the occupied cells of the corridor, and the same with the halo that the robot plans with.
An array of `0` and `1` is a list of flags.
-/

set_option autoImplicit false

namespace BotCockpit.Ui

open BotCockpit.Sim.Nav (span)

/-- `set` and `setv` of the two functions: a cell outside the grid is ignored. -/
def setv (w h : Int) (o : List Bool) (x y : Int) : List Bool :=
  if 0 ≤ x ∧ 0 ≤ y ∧ x < w ∧ y < h then o.set (y * w + x).toNat true else o

/-- `buildOcc`. -/
def buildOcc (w h : Int) : List Bool :=
  let o := List.replicate (w * h).toNat false
  let o := (span 0 (w - 1)).foldl (fun o x => setv w h (setv w h o x 0) x (h - 1)) o
  let o := (span 0 (h - 1)).foldl (fun o y => setv w h (setv w h o 0 y) (w - 1) y) o
  let o := (span 2 (h - 3)).foldl (fun o y => if 7 ≤ y ∧ y ≤ 11 then o else setv w h o 20 y) o
  setv w h (setv w h o 5 4) 6 4

/-- `buildInflated`. The scan reads the cells as they were before the call. -/
def buildInflated (w h : Int) (occ : List Bool) : List Bool :=
  (span 0 (h - 1)).foldl (fun out y =>
    (span 0 (w - 1)).foldl (fun out x =>
      if occ.getD (y * w + x).toNat false then
        let out := setv w h out x y
        let out := setv w h out (x + 1) y
        let out := setv w h out (x - 1) y
        let out := setv w h out x (y + 1)
        setv w h out x (y - 1)
      else out) out) occ

end BotCockpit.Ui
