import BotCockpit.Lib.Json
import BotCockpit.Sim.Nav

/-!
# `BotCockpit.Sim.FakeRobot`: the state of the robot and its safety rules

The members of `class FakeRobot`, the helpers that decide phase and control, and the texts the
robot publishes. The strings the source compares (phases, statuses, fault codes) are
enumerations here, and their `text` is the source's string.

* `recomputePhaseAndControl` is the one place where faults and the emergency stop turn into a
  phase. Most handlers end with it.
* `publishState` and `publishCmdResult` publish while the publishers exist, from
  `on_configure` to `on_cleanup` (`topicsReady`).
* One callback reads the wall clock once: its reading `nowMs` stands for every `now_ms()` in it.
-/

set_option autoImplicit false

namespace BotCockpit.Sim

open BotCockpit.Lib

/-! ### The strings of the state -/

/-- `phase_`. -/
inductive Phase where
  | boot | initializing | idle | running | degraded | fault | estop
  deriving DecidableEq, Repr

def Phase.text : Phase → String
  | .boot => "BOOT"
  | .initializing => "INITIALIZING"
  | .idle => "IDLE"
  | .running => "RUNNING"
  | .degraded => "DEGRADED"
  | .fault => "FAULT"
  | .estop => "ESTOP"

/-- `mode_`. -/
inductive Mode where
  | teleop | auto | remote
  deriving DecidableEq, Repr

def Mode.text : Mode → String
  | .teleop => "TELEOP"
  | .auto => "AUTO"
  | .remote => "REMOTE"

/-- `task_type_`. `none` is the empty string. -/
inductive TaskType where
  | none | goto
  deriving DecidableEq, Repr

/-- `task_status_`. -/
inductive TaskStatus where
  | none | accepted | executing | done | failed
  deriving DecidableEq, Repr

def TaskStatus.text : TaskStatus → String
  | .none => "NONE"
  | .accepted => "ACCEPTED"
  | .executing => "EXECUTING"
  | .done => "DONE"
  | .failed => "FAILED"

/-- An ongoing task fails. -/
def TaskStatus.failOngoing : TaskStatus → TaskStatus
  | .executing => .failed
  | .accepted => .failed
  | s => s

/-- `nav_status_`. -/
inductive NavStatus where
  | idle | planning | tracking | failed
  deriving DecidableEq, Repr

def NavStatus.text : NavStatus → String
  | .idle => "IDLE"
  | .planning => "PLANNING"
  | .tracking => "TRACKING"
  | .failed => "FAILED"

/-- The status of a `NodeHealth`. -/
inductive NodeStatus where
  | ok | warn | error | lost
  deriving DecidableEq, Repr

def NodeStatus.text : NodeStatus → String
  | .ok => "OK"
  | .warn => "WARN"
  | .error => "ERROR"
  | .lost => "LOST"

/-- The level of a fault. -/
inductive FaultLevel where
  | info | warn | error
  deriving DecidableEq, Repr

def FaultLevel.text : FaultLevel → String
  | .info => "INFO"
  | .warn => "WARN"
  | .error => "ERROR"

/-- The code of a fault. -/
inductive FaultCode where
  | estopActive | taskFailed | batteryLow | nodeTimeout
  deriving DecidableEq, Repr

def FaultCode.text : FaultCode → String
  | .estopActive => "E_ESTOP_ACTIVE"
  | .taskFailed => "E_TASK_FAILED"
  | .batteryLow => "W_BATTERY_LOW"
  | .nodeTimeout => "E_NODE_TIMEOUT"

/-- `struct FaultItem`. Its `node` is `fake_robot` in every fault the source pushes. -/
structure FaultItem where
  code : FaultCode
  level : FaultLevel
  detail : Bytes
  active : Bool := true
  deriving DecidableEq, Repr

/-- `class FakeRobot`. `nodes_` has the two entries `fake_robot` and `bridge` from the
constructor on, so their statuses are two fields. Time points of the steady clock are counted
in nanoseconds. -/
structure FakeRobot (F : Type) [CDouble F] where
  /-- The publishers and subscriptions exist. -/
  topicsReady : Bool := false
  active : Bool := false
  phase : Phase := .boot
  mode : Mode := .teleop
  estop : Bool := false
  controlEnabled : Bool := false
  consoleOnline : Bool := false
  lastConsoleMs : UInt64 := 0
  poseX : F := 0.0
  poseY : F := 0.0
  poseYaw : F := 0.0
  battery : F := 100.0
  taskId : Bytes := []
  taskType : TaskType := .none
  taskStatus : TaskStatus := .none
  goalX : F := 0.0
  goalY : F := 0.0
  robotNode : NodeStatus := .ok
  bridgeNode : NodeStatus := .ok
  faults : List FaultItem := []
  navMap : Nav.GridMap F := {}
  navPath : List (F × F) := []
  trail : List (F × F) := []
  navIdx : Nat := 0
  navStatus : NavStatus := .idle
  navReady : Bool := false
  trackErr : F := 0.0
  trackErrMax : F := 0.0
  stuckS : F := 0.0
  stuckCount : Nat := 0
  taskSeq : Nat := 0
  idleTp : Int := 0
  lastTickTp : Int := 0

namespace FakeRobot

variable {F : Type} [CDouble F]

/-! ### Phase and control -/

/-- `has_error_condition`. -/
def hasErrorCondition (r : FakeRobot F) : Bool :=
  r.faults.any (fun f => f.active && f.level = .error) ||
    (r.robotNode = .error || r.robotNode = .lost)

/-- `has_warn_condition`. -/
def hasWarnCondition (r : FakeRobot F) : Bool :=
  r.faults.any (fun f => f.active && f.level = .warn) || r.robotNode = .warn

/-- `recompute_phase_and_control`. -/
def recomputePhaseAndControl (r : FakeRobot F) : FakeRobot F :=
  -- The emergency stop has the highest priority.
  if r.estop then { r with phase := .estop, controlEnabled := false }
  else if r.phase = .boot ∨ r.phase = .initializing then { r with controlEnabled := false }
  else if r.hasErrorCondition then
    { r with
      taskStatus := if r.phase = .running then .failed else r.taskStatus
      phase := .fault
      controlEnabled := false
      robotNode := .error }
  else if r.hasWarnCondition then
    { r with
      phase := if r.phase = .running then .running else .degraded
      controlEnabled := false
      robotNode := .warn }
  else
    let r := { r with robotNode := .ok }
    let r :=
      if r.phase = .fault ∨ r.phase = .degraded ∨ r.phase = .estop then
        if ¬r.estop ∧ ¬r.hasErrorCondition ∧ ¬r.hasWarnCondition then { r with phase := .idle }
        else r
      else r
    -- New tasks only in IDLE with a live console link.
    if r.phase = .idle then { r with controlEnabled := r.consoleOnline }
    else if r.phase = .running then { r with controlEnabled := false }
    else r

/-- `clear_faults`. -/
def clearFaults (r : FakeRobot F) : FakeRobot F :=
  { r with
    faults := []
    robotNode :=
      if r.robotNode = .error ∨ r.robotNode = .warn ∨ r.robotNode = .lost then .ok
      else r.robotNode }

/-- `inject_fault`. -/
def injectFault (detail : Bytes) (r : FakeRobot F) : FakeRobot F :=
  recomputePhaseAndControl
    { r with
      faults := r.faults ++ [{ code := .nodeTimeout, level := .error, detail := detail }]
      robotNode := .error
      taskStatus := r.taskStatus.failOngoing }

/-- The pose: position and heading. -/
def pose (r : FakeRobot F) : F × F × F := (r.poseX, r.poseY, r.poseYaw)

/-- `dist`. -/
def dist (x0 y0 x1 y1 : F) : F :=
  let dx := x1 - x0
  let dy := y1 - y0
  CDouble.sqrt (dx * dx + dy * dy)

end FakeRobot

/-! ### What the robot publishes -/

/-- The escaping of a string content: quotes and backslashes only. -/
def esc (s : Bytes) : Bytes := s.flatMap fun c => if c = 34 ∨ c = 92 then [92, c] else [c]

section StateJson

variable {F : Type} [CDouble F]

/-- A number as `oss << x` writes it. -/
def ossNum (x : F) : Json := .num (CDouble.ostreamText x)

def natNum (n : Nat) : Json := .num (decimal n)

/-- An empty string is written as `null`. -/
def strOrNull (s : Bytes) : Json := if s = [] then .null else .str s

/-- `nav::path_to_json`. -/
def pathToJson (path : List (F × F)) : Json :=
  .arr (path.map fun p => .arr [.num (CDouble.toStringText p.1), .num (CDouble.toStringText p.2)])

/-- `nav::path_to_flat_json`. -/
def pathToFlatJson (path : List (F × F)) : Json :=
  .arr (path.flatMap fun p => [.num (CDouble.toStringText p.1), .num (CDouble.toStringText p.2)])

namespace FakeRobot

/-- The `conn` of a state message. -/
def conn (r : FakeRobot F) : String :=
  if r.estop then "ESTOP"
  else if r.phase = .fault then "OFFLINE"
  else if ¬r.consoleOnline then "OFFLINE"
  else if r.phase = .degraded then "DEGRADED"
  else "ONLINE"

/-- The value that `build_state_json` writes. -/
def stateJson (nowMs : UInt64) (r : FakeRobot F) : Json :=
  let node (name : String) (status : NodeStatus) : Json := .object
    [("name", .lit name), ("status", .lit status.text), ("last_hb_ms", natNum nowMs.toNat)]
  let fault (f : FaultItem) : Json := .object
    [("ts_ms", natNum nowMs.toNat), ("code", .lit f.code.text), ("level", .lit f.level.text),
      ("node", .lit "fake_robot"), ("detail", .str f.detail), ("active", .bool f.active)]
  .object
    [("ts_ms", natNum nowMs.toNat),
      ("conn", .lit r.conn),
      ("mode", .lit r.mode.text),
      ("phase", .lit r.phase.text),
      ("heartbeat_rtt_ms", natNum 0),
      ("nodes", .arr [node "fake_robot" r.robotNode, node "bridge" r.bridgeNode]),
      ("pose", .object
        [("x", ossNum r.poseX), ("y", ossNum r.poseY), ("yaw", ossNum r.poseYaw)]),
      ("battery", ossNum r.battery),
      ("task", .object
        [("id", strOrNull r.taskId),
          ("type", if r.taskType = .goto then .lit "goto" else .null),
          ("status", .lit r.taskStatus.text)]),
      ("faults", .arr (r.faults.map fault)),
      ("estop", .bool r.estop),
      ("control_enabled", .bool r.controlEnabled),
      ("nav", .object
        [("status", .lit r.navStatus.text),
          ("path_len", natNum r.navPath.length),
          ("idx", natNum r.navIdx),
          ("path", pathToJson r.navPath),
          ("path_flat", pathToFlatJson r.navPath),
          ("trail", pathToJson r.trail),
          ("trail_flat", pathToFlatJson r.trail),
          ("goal", .object [("x", ossNum r.goalX), ("y", ossNum r.goalY)]),
          ("track_err", ossNum r.trackErr),
          ("track_err_max", ossNum r.trackErrMax)])]

/-- `build_state_json`. -/
def buildStateJson (nowMs : UInt64) (r : FakeRobot F) : Bytes :=
  (stateJson nowMs r).render esc

end FakeRobot

end StateJson

/-- The status of a result. -/
inductive ResultStatus where
  | accepted | rejected | done
  deriving DecidableEq, Repr

def ResultStatus.text : ResultStatus → String
  | .accepted => "ACCEPTED"
  | .rejected => "REJECTED"
  | .done => "DONE"

/-- The reason of a rejection. -/
inductive Reason where
  | confirmRequired | phaseBusy | invalidPayload | estopActive | unknownTask | notImplemented
  deriving DecidableEq, Repr

def Reason.text : Reason → String
  | .confirmRequired => "confirm_required"
  | .phaseBusy => "phase_busy"
  | .invalidPayload => "invalid_payload"
  | .estopActive => "estop_active"
  | .unknownTask => "unknown_task"
  | .notImplemented => "not_implemented"

/-- The arguments of `publish_cmd_result`. -/
structure CmdResult where
  seq : UInt16
  cmd : Bytes
  ok : Bool
  status : ResultStatus
  reason : Option Reason
  taskId : Bytes
  deriving DecidableEq, Repr

namespace CmdResult

def accepted (seq : UInt16) (cmd : Bytes) (taskId : Bytes := []) : CmdResult :=
  { seq := seq, cmd := cmd, ok := true, status := .accepted, reason := none, taskId := taskId }

def rejected (seq : UInt16) (cmd : Bytes) (reason : Reason) (taskId : Bytes := []) :
    CmdResult :=
  { seq := seq, cmd := cmd, ok := false, status := .rejected, reason := some reason,
    taskId := taskId }

/-- The value that `publish_cmd_result` writes. -/
def json (res : CmdResult) : Json :=
  .object
    [("seq", natNum res.seq.toNat),
      ("ok", .bool res.ok),
      ("cmd", .str res.cmd),
      ("status", .lit res.status.text),
      ("reason", match res.reason with
        | none => .null
        | some reason => .lit reason.text),
      ("task_id", strOrNull res.taskId)]

/-- The text that `publish_cmd_result` publishes. -/
def text (res : CmdResult) : Bytes := res.json.render esc

end CmdResult

/-- One published message: the state at that moment, or a result. -/
inductive Output (F : Type) [CDouble F] where
  | state (nowMs : UInt64) (r : FakeRobot F)
  | result (res : CmdResult)

/-- The result of a result message. -/
def Output.result? {F : Type} [CDouble F] : Output F → Option CmdResult
  | .state _ _ => none
  | .result res => some res

namespace FakeRobot

variable {F : Type} [CDouble F]

/-- `publish_state`. -/
def publishState (nowMs : UInt64) (r : FakeRobot F) : List (Output F) :=
  if r.topicsReady then [.state nowMs r] else []

/-- `publish_cmd_result`. -/
def publishCmdResult (r : FakeRobot F) (res : CmdResult) : List (Output F) :=
  if r.topicsReady then [.result res] else []

/-- `apply_safety_stop`. -/
def applySafetyStop (nowMs : UInt64) (r : FakeRobot F) : FakeRobot F × List (Output F) :=
  let r := { r with
    taskStatus := r.taskStatus.failOngoing
    phase := if r.phase = .running then .idle else r.phase
    taskType := .none }
  let r := recomputePhaseAndControl r
  let r := if r.consoleOnline then r else { r with controlEnabled := false }
  (r, publishState nowMs r)

end FakeRobot

end BotCockpit.Sim
