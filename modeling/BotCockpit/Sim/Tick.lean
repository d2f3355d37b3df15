import BotCockpit.Sim.FakeRobot

/-!
# `BotCockpit.Sim.Tick`: the simulation step

`tick`, cut at the point where motion is computed: `motionPoint` is everything before it
(clock, heartbeat check, end of the start-up pause, phase), and `move` the motion itself, one
definition for each of its blocks. After the motion come the battery and the publication.

`fuel` bounds the passes of each loop that wraps an angle. `none` says that such a loop has
not ended by then, so the callback has not returned.
-/

set_option autoImplicit false

namespace BotCockpit.Sim.FakeRobot

open BotCockpit.Lib

variable {F : Type} [CDouble F]

/-- The seconds since the last tick. -/
def tickDt (now : Int) (r : FakeRobot F) : F :=
  if 0 < r.lastTickTp then CDouble.seconds (now - r.lastTickTp) else 0.2

/-- The console heartbeat is older than three seconds. The difference wraps as `uint64_t`
does. -/
def heartbeatLost (nowMs : UInt64) (r : FakeRobot F) : Prop :=
  r.consoleOnline ∧ 0 < r.lastConsoleMs ∧ 3000 < nowMs - r.lastConsoleMs

instance (nowMs : UInt64) (r : FakeRobot F) : Decidable (r.heartbeatLost nowMs) := by
  unfold heartbeatLost
  infer_instance

/-- The heartbeat check. -/
def checkHeartbeat (nowMs : UInt64) (r : FakeRobot F) : FakeRobot F × List (Output F) :=
  if r.heartbeatLost nowMs then
    let r := { r with consoleOnline := false, bridgeNode := .warn }
    if r.phase = .running then applySafetyStop nowMs r else (r, [])
  else (r, [])

/-- `INITIALIZING` ends when the start-up pause is over. -/
def leaveInitializing (now : Int) (r : FakeRobot F) : FakeRobot F :=
  if r.phase = .initializing ∧ r.idleTp ≤ now then { r with phase := .idle } else r

/-- The state at the point where motion is computed, and what was published before it. -/
def motionPoint (now : Int) (nowMs : UInt64) (r : FakeRobot F) :
    FakeRobot F × List (Output F) :=
  let (r, out) := checkHeartbeat nowMs { r with lastTickTp := now }
  (recomputePhaseAndControl (leaveInitializing now r), out)

/-! ### Motion along the path -/

/-- One step of the drive: the state with the new pose and path index, whether an obstacle was
in the way, and the angular velocity. -/
def drive (fuel : Nat) (dt : F) (r : FakeRobot F) : Option (FakeRobot F × Bool × F) :=
  let (v, w, idx) :=
    Nav.purePursuit r.navMap r.poseX r.poseY r.poseYaw r.navPath r.navIdx 0.45
  let nx := r.poseX + v * CDouble.cos r.poseYaw * dt
  let ny := r.poseY + v * CDouble.sin r.poseYaw * dt
  let dGoalNow := dist r.poseX r.poseY r.goalX r.goalY
  let dGoalNext := dist nx ny r.goalX r.goalY
  -- The final approach may creep into the commanded goal inside an inflated cell.
  let finalCreep := dGoalNow < 0.55 ∧ dGoalNext < dGoalNow
  if ¬finalCreep ∧ ¬Nav.isFree r.navMap nx ny then
    -- Blocked: turn on the spot towards the visible aim point.
    let aim := Nav.aimPoint r.navMap r.navPath idx r.poseX r.poseY 0.45
    (Nav.headingErr fuel r.poseYaw r.poseX r.poseY aim.1 aim.2).bind fun err =>
      let turn : F :=
        if CDouble.abs err < 0.15 then (if 0.0 ≤ w then 1.0 else -1.0)
        else (if 0.0 ≤ err then 1.0 else -1.0)
      let w := turn * 0.8
      (Nav.wrapAngle fuel (r.poseYaw + w * dt)).map fun yaw =>
        ({ r with navIdx := idx, poseYaw := yaw }, true, w)
  else
    (Nav.wrapAngle fuel (r.poseYaw + w * dt)).map fun yaw =>
      ({ r with navIdx := idx, poseX := nx, poseY := ny, poseYaw := yaw }, false, w)

/-- Whether the last breadcrumb is farther than `gap` from the pose. -/
def trailStale (gap : F) (r : FakeRobot F) : Prop :=
  match r.trail.getLast? with
  | none => True
  | some p => gap < dist p.1 p.2 r.poseX r.poseY

instance (gap : F) (r : FakeRobot F) : Decidable (r.trailStale gap) := by
  unfold trailStale
  split <;> infer_instance

/-- The breadcrumb trail, at most 800 points. -/
def leaveCrumb (r : FakeRobot F) : FakeRobot F :=
  if r.trailStale 0.05 then
    let trail := r.trail ++ [(r.poseX, r.poseY)]
    { r with trail := if 800 < trail.length then trail.drop 200 else trail }
  else r

/-- The stuck timer. Turning on the spot in free space is not being stuck. -/
def stuckTimer (dt beforeX beforeY : F) (collided : Bool) (w : F) (r : FakeRobot F) :
    FakeRobot F :=
  let moved := dist beforeX beforeY r.poseX r.poseY
  let translating := 0.002 * CDouble.max 1.0 (dt / 0.2) < moved
  let aligning := ¬collided ∧ 0.05 < CDouble.abs w ∧ ¬translating
  { r with stuckS := if translating ∨ aligning then 0.0 else r.stuckS + dt }

/-- Plan again after 1.2 stuck seconds, from the third time on with a thinner body. -/
def replan (C : Type) [CFloat C] (r : FakeRobot F) : FakeRobot F :=
  if 1.2 < r.stuckS then
    let count := r.stuckCount + 1
    let map := Nav.GridMap.makeCorridorDemo.inflate (if 3 ≤ count then 0 else 1)
    let replanned := Nav.astar C map r.poseX r.poseY r.goalX r.goalY
    let r := { r with stuckS := 0.0, stuckCount := count, navMap := map }
    if replanned = [] then r
    else { r with
      navPath := replanned
      navIdx := Nav.advanceIdx replanned 0 r.poseX r.poseY
      navStatus := .tracking }
  else r

/-- The distance of the pose to the current path segment. -/
def crossTrack (a b : F × F) (r : FakeRobot F) : F :=
  let abx := b.1 - a.1
  let aby := b.2 - a.2
  let apx := r.poseX - a.1
  let apy := r.poseY - a.2
  let ab2 := abx * abx + aby * aby
  if 1e-6 < ab2 then CDouble.abs (abx * apy - aby * apx) / CDouble.sqrt ab2
  else dist r.poseX r.poseY a.1 a.2

/-- The tracking error. Above 1.5 the task fails. -/
def trackError (r : FakeRobot F) : FakeRobot F :=
  match r.navPath[r.navIdx]?, r.navPath[min (r.navIdx + 1) (r.navPath.length - 1)]? with
  | some a, some b =>
      let cr := crossTrack a b r
      let r := { r with
        trackErr := cr
        trackErrMax := if r.trackErrMax < cr then cr else r.trackErrMax }
      if 1.5 < cr then
        recomputePhaseAndControl { r with
          taskStatus := .failed
          phase := .idle
          navStatus := .failed
          faults := r.faults ++ [{ code := .taskFailed, level := .error,
                                   detail := ascii "tracking error too large" }] }
      else r
  | _, _ => r

/-- Arrival: within 0.22 of the goal the pose snaps to it and the task is done. -/
def arrive (r : FakeRobot F) : FakeRobot F :=
  if dist r.poseX r.poseY r.goalX r.goalY < 0.22 then
    let r := { r with poseX := r.goalX, poseY := r.goalY }
    let r :=
      if r.trailStale 0.02 then { r with trail := r.trail ++ [(r.poseX, r.poseY)] } else r
    recomputePhaseAndControl { r with
      trackErr := 0.0
      taskStatus := .done
      phase := .idle
      navStatus := .idle
      stuckS := 0.0
      stuckCount := 0 }
  else r

/-- The motion along a path that is not empty. -/
def follow (C : Type) [CFloat C] (fuel : Nat) (dt : F) (r : FakeRobot F) :
    Option (FakeRobot F) :=
  (drive fuel dt r).map fun (driven, collided, w) =>
    let r' := { leaveCrumb driven with taskStatus := .executing, navStatus := .tracking }
    arrive (trackError (replan C (stuckTimer dt r.poseX r.poseY collided w r')))

/-- A goto without a path fails. -/
def abandon (r : FakeRobot F) : FakeRobot F :=
  recomputePhaseAndControl { r with taskStatus := .failed, phase := .idle, navStatus := .failed }

/-- Motion is computed in this state. -/
def moving (r : FakeRobot F) : Prop := ¬r.estop ∧ r.phase = .running ∧ r.taskType = .goto

instance (r : FakeRobot F) : Decidable r.moving := by
  unfold moving
  infer_instance

/-- The motion and what it takes from the battery. -/
def move (C : Type) [CFloat C] (fuel : Nat) (dt : F) (r : FakeRobot F) :
    Option (FakeRobot F) :=
  if r.moving then
    (if r.navPath ≠ [] then follow C fuel dt r else some (abandon r)).map fun r =>
      { r with battery := r.battery - 0.05 * dt }
  else if ¬r.estop ∧ r.phase = .idle then some { r with battery := r.battery - 0.02 * dt }
  else some r

/-- The battery is never negative, and below 15 it raises a warning once. -/
def checkBattery (r : FakeRobot F) : FakeRobot F :=
  let r := if r.battery < 0.0 then { r with battery := 0.0 } else r
  if r.battery < 15.0 then
    if r.faults.any (fun f => f.code = .batteryLow && f.active) then r
    else recomputePhaseAndControl { r with
      faults := r.faults ++
        [{ code := .batteryLow, level := .warn, detail := ascii "battery below 15%" }] }
  else r

/-- `tick`. -/
def tick (C : Type) [CFloat C] (now : Int) (nowMs : UInt64) (fuel : Nat) (r : FakeRobot F) :
    Option (FakeRobot F × List (Output F)) :=
  if ¬r.active then some (r, [])
  else
    let (here, out) := motionPoint now nowMs r
    (move C fuel (tickDt now r) here).map fun r =>
      let r := checkBattery r
      (r, out ++ r.publishState nowMs)

end BotCockpit.Sim.FakeRobot
