import BotCockpit.Sim.Extract
import BotCockpit.Sim.FakeRobot

/-!
# `BotCockpit.Sim.OnCmd`: the command handler

`on_cmd`, one definition for each command. A handler returns the new state and what it
published, in order. `publishCmdResult` is called on the state of the moment.

The handler reads every field by a textual search over the whole message, so the fields of a
command are whatever the first occurrence of their key says.
-/

set_option autoImplicit false

namespace BotCockpit.Sim

open BotCockpit.Lib

/-- The data of one call of `on_cmd`: the clock, the message, and the command and sequence
number read from it. -/
structure Request where
  nowMs : UInt64
  data : Bytes
  cmd : Bytes
  seq : UInt16

namespace FakeRobot

variable {F : Type} [CDouble F]

/-- What a handler returns. -/
abbrev Handled (F : Type) [CDouble F] := FakeRobot F × List (Output F)

/-- The condition under which tasks and AUTO are rejected. -/
def blocked (r : FakeRobot F) : Prop :=
  r.estop ∨ r.phase = .fault ∨ r.phase = .degraded ∨ r.phase = .boot ∨
    r.phase = .initializing ∨ ¬r.consoleOnline

instance (r : FakeRobot F) : Decidable r.blocked := by
  unfold blocked
  infer_instance

/-- The reason given while `blocked`. -/
def blockedReason (r : FakeRobot F) : Reason := if r.estop then .estopActive else .phaseBusy

/-- Publish a result only. -/
def reply (r : FakeRobot F) (res : CmdResult) : Handled F := (r, r.publishCmdResult res)

/-- Publish a result and then the state. -/
def replyAndPublish (q : Request) (r : FakeRobot F) (res : CmdResult) : Handled F :=
  (r, r.publishCmdResult res ++ r.publishState q.nowMs)

/-- `CMD_ESTOP`. -/
def cmdEstop (q : Request) (r : FakeRobot F) : Handled F :=
  let r := { r with
    estop := true
    phase := .estop
    controlEnabled := false
    taskStatus := r.taskStatus.failOngoing }
  let r :=
    if r.faults.any (fun f => f.code = .estopActive) then r
    else { r with
      faults := r.faults ++
        [{ code := .estopActive, level := .warn, detail := ascii "software estop engaged" }] }
  r.replyAndPublish q (.accepted q.seq (ascii "CMD_ESTOP"))

/-- The faults that a RESET does not clear: an ERROR other than the symptoms of a stop, a
failed task or a low battery. -/
def hasBlocking (r : FakeRobot F) : Bool :=
  r.faults.any fun f =>
    !(f.code = .estopActive || f.code = .batteryLow || f.code = .taskFailed) && f.level = .error

/-- `CMD_RESET`. -/
def cmdReset (q : Request) (r : FakeRobot F) : Handled F :=
  if extractBool q.data "confirm" ≠ some true then
    r.reply (.rejected q.seq q.cmd .confirmRequired)
  else if r.hasBlocking then
    r.replyAndPublish q (.rejected q.seq q.cmd .phaseBusy)
  else
    let r := clearFaults { r with estop := false }
    let r := { r with
      bridgeNode := if ¬r.consoleOnline then .warn else .ok
      phase := .idle
      mode := .teleop
      taskStatus := .none
      taskId := []
      taskType := .none }
    let r := recomputePhaseAndControl r
    let r := { r with controlEnabled := r.consoleOnline && decide (r.phase = Phase.idle) }
    r.replyAndPublish q (.accepted q.seq q.cmd)

/-- The mode that a text names. -/
def modeOf (text : Bytes) : Option Mode :=
  if text = ascii "TELEOP" then some .teleop
  else if text = ascii "AUTO" then some .auto
  else if text = ascii "REMOTE" then some .remote
  else none

/-- `CMD_MODE`. -/
def cmdMode (q : Request) (r : FakeRobot F) : Handled F :=
  match (extractString q.data "mode").bind modeOf with
  | none => r.reply (.rejected q.seq q.cmd .invalidPayload)
  | some mode =>
      if mode = .auto ∧ r.blocked then r.reply (.rejected q.seq q.cmd r.blockedReason)
      else
        let r := { r with mode := mode }
        r.replyAndPublish q (.accepted q.seq q.cmd)

/-- `CMD_TASK` with type `pause`. -/
def taskPause (q : Request) (taskId : Bytes) (r : FakeRobot F) : Handled F :=
  if r.phase = .running then
    let r := recomputePhaseAndControl
      { r with taskStatus := .accepted, phase := .idle, navStatus := .idle }
    r.replyAndPublish q (.accepted q.seq q.cmd r.taskId)
  else r.replyAndPublish q (.rejected q.seq q.cmd .unknownTask taskId)

/-- `CMD_TASK` with type `cancel`. -/
def taskCancel (q : Request) (r : FakeRobot F) : Handled F :=
  let r := recomputePhaseAndControl
    { r with
      taskStatus := .none
      taskId := []
      taskType := .none
      navPath := []
      navStatus := .idle
      stuckS := 0.0
      stuckCount := 0
      phase := if r.phase = .running then .idle else r.phase }
  r.replyAndPublish q (.accepted q.seq q.cmd)

/-- Whether a goal lies outside the map. -/
def outside (x y : F) : Prop := x < 0.0 ∨ 20.0 < x ∨ y < -5.0 ∨ 5.0 < y

instance (x y : F) : Decidable (outside x y) := by
  unfold outside
  infer_instance

/-- A goal without an id gets the next `T-` id. -/
def assignTaskId (taskId : Bytes) (r : FakeRobot F) : Bytes × FakeRobot F :=
  if taskId = [] then
    (ascii "T-" ++ decimal (r.taskSeq + 1), { r with taskSeq := r.taskSeq + 1 })
  else (taskId, r)

/-- The state of an accepted goto along a path. -/
def startGoto (map : Nav.GridMap F) (path : List (F × F)) (x y : F) (taskId : Bytes)
    (r : FakeRobot F) : FakeRobot F :=
  { r with
    navMap := map
    navPath := path
    navIdx := 0
    navStatus := .tracking
    navReady := true
    stuckS := 0.0
    stuckCount := 0
    trail := [(r.poseX, r.poseY)]
    taskId := taskId
    taskType := .goto
    taskStatus := .accepted
    goalX := x
    goalY := y
    phase := .running
    controlEnabled := false }

/-- `CMD_TASK` with type `goto`, after the `blocked` check. -/
def taskGoto (C : Type) [CFloat C] (q : Request) (taskId : Bytes) (r : FakeRobot F) :
    Handled F :=
  if r.phase = .running then r.reply (.rejected q.seq q.cmd .phaseBusy taskId)
  else
    let x := (extractNumber q.data "x" r.poseX).2
    let y := (extractNumber q.data "y" r.poseY).2
    if outside x y then r.reply (.rejected q.seq q.cmd .invalidPayload taskId)
    else
      let (taskId, r) := assignTaskId taskId r
      if r.taskId ≠ [] ∧ r.taskId = taskId ∧ r.taskStatus = .done then
        r.reply { seq := q.seq, cmd := q.cmd, ok := true, status := .done, reason := none,
                  taskId := taskId }
      else
        let map := Nav.GridMap.makeCorridorDemo.inflate 1
        let path := Nav.astar C map r.poseX r.poseY x y
        if path = [] then
          let res : CmdResult := .rejected q.seq q.cmd .unknownTask taskId
          let r := recomputePhaseAndControl
            { r with
              navMap := map
              navPath := path
              navStatus := .failed
              faults := r.faults ++
                [{ code := .taskFailed, level := .error, detail := ascii "A* no path to goal" }] }
          r.replyAndPublish q res
        else
          let r := startGoto map path x y taskId r
          r.replyAndPublish q (.accepted q.seq q.cmd taskId)

/-- `CMD_TASK` with type `resume`, after the `blocked` check. -/
def taskResume (q : Request) (taskId : Bytes) (r : FakeRobot F) : Handled F :=
  if r.taskId ≠ [] ∧ r.taskType = .goto ∧ ¬r.estop ∧ r.phase = .idle ∧ r.consoleOnline ∧
      ¬r.hasErrorCondition ∧ r.navPath ≠ [] then
    let r := { r with
      phase := .running
      taskStatus := .executing
      navStatus := .tracking
      controlEnabled := false }
    r.replyAndPublish q (.accepted q.seq q.cmd r.taskId)
  else
    r.replyAndPublish q
      (.rejected q.seq q.cmd (if r.estop then .estopActive else .unknownTask) taskId)

/-- `CMD_TASK`. Pause and cancel come before the `blocked` check. The source has a second
`cancel` branch at the end, which the first one shadows. -/
def cmdTask (C : Type) [CFloat C] (q : Request) (r : FakeRobot F) : Handled F :=
  let type := (extractString q.data "type").getD []
  let taskId := (extractString q.data "task_id").getD []
  if type = ascii "pause" then taskPause q taskId r
  else if type = ascii "cancel" then taskCancel q r
  else if r.blocked then r.reply (.rejected q.seq q.cmd r.blockedReason taskId)
  else if type = ascii "goto" then taskGoto C q taskId r
  else if type = ascii "resume" then taskResume q taskId r
  else r.reply (.rejected q.seq q.cmd .unknownTask taskId)

/-- `INJECT_FAULT`. -/
def cmdInjectFault (q : Request) (r : FakeRobot F) : Handled F :=
  let detail := (extractString q.data "detail").getD (ascii "injected by operator")
  (injectFault detail r).replyAndPublish q (.accepted q.seq q.cmd)

/-- `CLEAR_FAULT`. -/
def cmdClearFault (q : Request) (r : FakeRobot F) : Handled F :=
  let r := clearFaults r
  let r := recomputePhaseAndControl
    { r with bridgeNode := if r.consoleOnline then .ok else .warn }
  let r := if r.phase = .fault ∧ ¬r.hasErrorCondition then { r with phase := .idle } else r
  let r := { r with controlEnabled := r.consoleOnline && decide (r.phase = Phase.idle) && !r.estop }
  r.replyAndPublish q (.accepted q.seq q.cmd)

/-- The chain of command names. -/
def dispatch (C : Type) [CFloat C] (q : Request) (r : FakeRobot F) : Handled F :=
  if q.cmd = ascii "CMD_ESTART" ∨ q.cmd = ascii "CMD_ESTOP" then cmdEstop q r
  else if q.cmd = ascii "CMD_RESET" then cmdReset q r
  else if q.cmd = ascii "CMD_MODE" then cmdMode q r
  else if q.cmd = ascii "CMD_TASK" then cmdTask C q r
  else if q.cmd = ascii "INJECT_FAULT" ∨ q.cmd = ascii "CMD_INJECT_FAULT" then
    cmdInjectFault q r
  else if q.cmd = ascii "CLEAR_FAULT" ∨ q.cmd = ascii "CMD_CLEAR_FAULT" then cmdClearFault q r
  else r.reply (.rejected q.seq q.cmd .notImplemented)

/-- `on_cmd`. A message without a command is ignored. -/
def onCmd (C : Type) [CFloat C] (nowMs : UInt64) (data : Bytes) (r : FakeRobot F) :
    Handled F :=
  match extractString data "cmd" with
  | none => (r, [])
  | some cmd =>
      dispatch C { nowMs := nowMs, data := data, cmd := cmd, seq := extractSeq F data } r

end FakeRobot

end BotCockpit.Sim
