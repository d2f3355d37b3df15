import BotCockpit.Lib.Run
import BotCockpit.Sim.OnCmd
import BotCockpit.Sim.Tick

/-!
# `BotCockpit.Sim.Lifecycle`: the callbacks of the robot and its runs

`handle` runs one callback. `step` is the node under the ROS lifecycle: a transition callback
is enabled in the lifecycle states that ROS allows it in, a message callback while the
subscription exists, and the timer callback at any time. A run of the robot is a `Lib.Run` of
`step` from `Node.init`.
-/

set_option autoImplicit false

namespace BotCockpit.Sim

open BotCockpit.Lib

/-- A callback and its data. `now` is the steady clock in nanoseconds. -/
inductive Call where
  | configure
  | activate (now : Int)
  | deactivate
  | cleanup
  | shutdown
  | console (data : Bytes)
  | cmd (data : Bytes)
  | tick (now : Int) (fuel : Nat)
  deriving DecidableEq, Repr

/-- A callback and the reading of the wall clock in it. -/
structure Event where
  nowMs : UInt64
  call : Call
  deriving DecidableEq, Repr

namespace FakeRobot

variable {F : Type} [CDouble F]

/-- `on_configure`. -/
def onConfigure (nowMs : UInt64) (r : FakeRobot F) : FakeRobot F × List (Output F) :=
  let r := clearFaults { r with
    phase := .initializing
    controlEnabled := false
    estop := false
    consoleOnline := false
    battery := 100.0
    poseX := 1.25
    poseY := 0.0
    poseYaw := 0.0
    taskStatus := .none
    taskId := []
    taskType := .none
    navPath := []
    trail := []
    navStatus := .idle }
  let r := { r with robotNode := .ok, bridgeNode := .ok, topicsReady := true }
  (r, r.publishState nowMs)

/-- `on_activate`. -/
def onActivate (now : Int) (nowMs : UInt64) (r : FakeRobot F) :
    FakeRobot F × List (Output F) :=
  let r := { r with
    active := true
    phase := .initializing
    controlEnabled := false
    idleTp := now + 500000000
    lastTickTp := now }
  (r, r.publishState nowMs)

/-- `on_deactivate`. -/
def onDeactivate (r : FakeRobot F) : FakeRobot F :=
  { r with active := false, controlEnabled := false, phase := .initializing }

/-- `on_cleanup`. -/
def onCleanup (r : FakeRobot F) : FakeRobot F :=
  { r with topicsReady := false, phase := .boot, active := false }

/-- `on_console`. A message without a readable `online` counts as offline. -/
def onConsole (nowMs : UInt64) (data : Bytes) (r : FakeRobot F) :
    FakeRobot F × List (Output F) :=
  let online := (extractBool data "online").getD false
  let r := { r with consoleOnline := online }
  let (r, out) :=
    if online then
      ({ r with lastConsoleMs := nowMs, bridgeNode := .ok }, [])
    else
      let r := { r with bridgeNode := .warn }
      if r.phase = .running then applySafetyStop nowMs r else (r, [])
  let r := recomputePhaseAndControl r
  let r := if r.consoleOnline then r else { r with controlEnabled := false }
  (r, out ++ r.publishState nowMs)

variable (C : Type) [CFloat C]

/-- One callback. Message callbacks need the subscriptions. -/
def handle (r : FakeRobot F) (e : Event) : Option (FakeRobot F × List (Output F)) :=
  match e.call with
  | .configure => some (onConfigure e.nowMs r)
  | .activate now => some (onActivate now e.nowMs r)
  | .deactivate => some (onDeactivate r, [])
  | .cleanup => some (onCleanup r, [])
  | .shutdown => some (onCleanup r, [])
  | .console data => if r.topicsReady then some (onConsole e.nowMs data r) else none
  | .cmd data => if r.topicsReady then some (onCmd C e.nowMs data r) else none
  | .tick now fuel => tick C now e.nowMs fuel r

end FakeRobot

/-- The primary states of a lifecycle node. -/
inductive LifecycleState where
  | unconfigured | inactive | active | finalized
  deriving DecidableEq, Repr

/-- The state that a transition callback ends in, where ROS allows the transition. Every
callback of the robot returns `SUCCESS`. The other callbacks leave the state alone. -/
def LifecycleState.after : LifecycleState → Call → Option LifecycleState
  | .unconfigured, .configure => some .inactive
  | _, .configure => none
  | .inactive, .activate _ => some .active
  | _, .activate _ => none
  | .active, .deactivate => some .inactive
  | _, .deactivate => none
  | .inactive, .cleanup => some .unconfigured
  | _, .cleanup => none
  | .finalized, .shutdown => none
  | _, .shutdown => some .finalized
  | s, .console _ => some s
  | s, .cmd _ => some s
  | s, .tick _ _ => some s

/-- The robot and its lifecycle state. -/
structure Node (F : Type) [CDouble F] where
  lifecycle : LifecycleState := .unconfigured
  robot : FakeRobot F := {}

namespace Node

variable {F : Type} [CDouble F]

/-- The node after construction. -/
def init : Node F := {}

variable (C : Type) [CFloat C]

/-- One callback that the lifecycle allows. -/
def step (n : Node F) (e : Event) : Option (Node F × List (Output F)) :=
  match n.lifecycle.after e.call with
  | none => none
  | some lifecycle =>
      match n.robot.handle C e with
      | none => none
      | some (robot, out) => some ({ lifecycle := lifecycle, robot := robot }, out)

/-- A history of the robot: its callbacks, and what each of them published. -/
abbrev History (F : Type) [CDouble F] := List (Event × List (Output F))

/-- A run of the node from construction. -/
abbrev Runs (h : History F) (n : Node F) : Prop :=
  Run (step C) anyStep init h n

end Node

/-- A state that some run reaches. -/
def Reachable (C : Type) [CFloat C] {F : Type} [CDouble F] (r : FakeRobot F) : Prop :=
  ∃ h n, Node.Runs C h n ∧ n.robot = r

end BotCockpit.Sim
