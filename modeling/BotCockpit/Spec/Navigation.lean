import BotCockpit.Sim.Lifecycle

/-!
# `BotCockpit.Spec.Navigation`: indices in range, and interruptions

What the path, the index, the goal and the map of the robot have to do with each other, and which
indices a tick may rely on. The tables `came` and `gscore` of the search have one entry for each
cell, so their indices are those of `occ`.

`Interrupts` lists what ends the motion of a running robot without writing the navigation status.
-/

set_option autoImplicit false

namespace BotCockpit.Sim

open BotCockpit.Lib

variable {F : Type} [CDouble F]

namespace Nav.GridMap

/-- `occ` has an entry for each cell, at the index that `set` and `at` compute and the tables of the
search use. -/
structure InRange (m : GridMap F) : Prop where
  size : (m.occ.length : Int) = m.width * m.height
  cell : ∀ x y, m.Inside x y → 0 ≤ y * m.width + x ∧ (y * m.width + x).toNat < m.occ.length
  table : ∀ x y i, m.index? x y = some i →
    (i : Nat) = (y * m.width + x).toNat ∧ (i : Nat) < m.occ.length

/-- A map on the way from the empty corridor: what `set` makes of it. -/
inductive Drawn : GridMap F → Prop
  | blank : Drawn { occ := List.replicate (40 * 20) false }
  | set {m : GridMap F} (x y : Int) (v : Bool) : Drawn m → Drawn (m.set x y v)

end Nav.GridMap

namespace FakeRobot

/-- The path, the index, the goal and the map fit together, and a running robot has them all. -/
structure Navigates (r : FakeRobot F) : Prop where
  path : r.navPath ≠ [] →
    r.navIdx < r.navPath.length ∧ r.navPath.getLast? = some (r.goalX, r.goalY)
  running : r.phase = .running → r.taskType = .goto ∧ r.taskId ≠ [] ∧ r.navPath ≠ [] ∧
    (r.navMap.occ.length : Int) = r.navMap.width * r.navMap.height

/-- The state in which `tick` follows the path, after the drive: where it plans again, and where
it reads the waypoints of the current segment. -/
def steered (C : Type) [CFloat C] (dt beforeX beforeY : F) (collided : Bool) (w : F)
    (driven : FakeRobot F) : FakeRobot F :=
  replan C (stuckTimer dt beforeX beforeY collided w
    { leaveCrumb driven with taskStatus := .executing, navStatus := .tracking })

/-- What a tick of the robot indexes is there. `here` is the state at its motion point. -/
structure TickInRange (C : Type) [CFloat C] (now : Int) (nowMs : UInt64) (fuel : Nat)
    (r here : FakeRobot F) : Prop where
  /-- The branch that fails a task without a path is not taken. -/
  path : here.moving → here.navPath ≠ []
  /-- `pure_pursuit` is called with an index and a map in range. -/
  index : here.moving → here.navIdx < here.navPath.length
  map : here.moving → here.navMap.InRange
  /-- `advance_idx` returns, and with an index in range. -/
  advance : ∀ path : List (F × F), ∀ idx x y, idx < path.length →
    idx ≤ Nav.advanceIdx path idx x y ∧ Nav.advanceIdx path idx x y < path.length
  /-- After the drive, where `aim_point` is called once more, and after the replanning, where the
  tracking error is computed, path, index and map are in range. -/
  driven : here.moving → ∀ s collided w, drive fuel (tickDt now r) here = some (s, collided, w) →
    s.navIdx < s.navPath.length ∧ s.navMap.InRange ∧
      (steered C (tickDt now r) here.poseX here.poseY collided w s).navIdx <
        (steered C (tickDt now r) here.poseX here.poseY collided w s).navPath.length ∧
      (steered C (tickDt now r) here.poseX here.poseY collided w s).navMap.InRange
  /-- Every map on the way to one that the robot plans on is in range. -/
  drawn : ∀ m : Nav.GridMap F, m.Drawn → m.InRange
  planned : ∀ k, (Nav.GridMap.makeCorridorDemo.inflate k : Nav.GridMap F).Drawn

/-- What takes a running robot out of `RUNNING` without a word to the navigation: the lifecycle, the
console going offline or silent, an emergency stop, a confirmed RESET, and an injected fault. -/
def Interrupts (r : FakeRobot F) (e : Event) : Prop :=
  match e.call with
  | .configure => False
  | .activate _ | .deactivate | .cleanup | .shutdown => True
  | .console data => extractBool data "online" ≠ some true
  | .cmd data =>
      match extractString data "cmd" with
      | none => False
      | some cmd =>
          cmd = ascii "CMD_ESTART" ∨ cmd = ascii "CMD_ESTOP" ∨
            (cmd = ascii "CMD_RESET" ∧ extractBool data "confirm" = some true) ∨
            cmd = ascii "INJECT_FAULT" ∨ cmd = ascii "CMD_INJECT_FAULT"
  | .tick _ _ => r.active = true ∧ r.heartbeatLost e.nowMs

instance (r : FakeRobot F) (e : Event) : Decidable (r.Interrupts e) := by
  unfold Interrupts
  split <;> try infer_instance
  split <;> infer_instance

end FakeRobot

/-- Nothing interrupts the robot while it runs. -/
def Uninterrupted (n : Node F) (e : Event) : Prop :=
  n.robot.phase = .running → ¬n.robot.Interrupts e

instance (n : Node F) (e : Event) : Decidable (Uninterrupted n e) := by
  unfold Uninterrupted
  infer_instance

end BotCockpit.Sim
