import BotCockpit.Ui.Console
import BotCockpit.Ui.FaultTableModel

/-!
# `BotCockpit.Ui.Screen`: what QML shows of `RobotState`

QML reads a property of `RobotState` when the page is loaded, and again whenever the NOTIFY signal
of the property is emitted. `Property` and its `notify` are the `Q_PROPERTY` lines of the header,
without the log. `Screen` is the object with both of its sides, the values that QML has read last,
and the fault table, which `main` connects to `faultsListChanged`.

The functions of `class RobotState` are here again, with the signals they emit and the places where
they emit them. `Controller.calls` are the calls of these that each slot of the controller makes.
-/

set_option autoImplicit false

namespace BotCockpit.Ui

open BotCockpit.Lib

/-! ### The properties -/

/-- The signals of `class RobotState`. -/
inductive Notify where
  | connected | connecting | errorString | host | port | heartbeatRttMs | proto | server
  | conn | mode | phase | estop | controlEnabled | pose | battery | hasRobotState | stateTsMs
  | task | faults | lastCmdAck | faultsList | navStatus | navTrail | trackErr
  | autoReconnect | reconnectAttempts
  deriving DecidableEq

/-- The properties of `class RobotState`. -/
inductive Property where
  | connected | connecting | errorString | host | port | heartbeatRttMs | proto | server
  | conn | mode | phase | estop | controlEnabled | poseX | poseY | poseYaw | battery
  | hasRobotState | stateTsMs | taskId | taskType | taskStatus | faultsSummary | faultCount
  | navStatus | navPathLen | navIdx | navPath | navTrail | navPathFlat | navTrailFlat
  | navGoalX | navGoalY | trackErr | lastCmdAckText | lastCmdOk | faultsList
  | autoReconnect | reconnectAttempts

/-- What a property may be. -/
inductive PropValue (F : Type) where
  | flag (b : Bool)
  | text (s : Bytes)
  | integer (n : Int)
  | number (x : F)
  | numbers (xs : List F)
  | points (ps : List (F × F))
  | variants (vs : List Json)

namespace Property

/-- NOTIFY. -/
def notify : Property → Notify
  | connected => .connected
  | connecting => .connecting
  | errorString => .errorString
  | host => .host
  | port => .port
  | heartbeatRttMs => .heartbeatRttMs
  | proto => .proto
  | server => .server
  | conn => .conn
  | mode => .mode
  | phase => .phase
  | estop => .estop
  | controlEnabled => .controlEnabled
  | poseX | poseY | poseYaw => .pose
  | battery => .battery
  | hasRobotState => .hasRobotState
  | stateTsMs => .stateTsMs
  | taskId | taskType | taskStatus => .task
  | faultsSummary | faultCount => .faults
  | navStatus | navPathLen | navIdx | navPath | navPathFlat | navGoalX | navGoalY => .navStatus
  | navTrail | navTrailFlat => .navTrail
  | trackErr => .trackErr
  | lastCmdAckText | lastCmdOk => .lastCmdAck
  | faultsList => .faultsList
  | autoReconnect => .autoReconnect
  | reconnectAttempts => .reconnectAttempts

variable {F : Type} [CDouble F]

/-- READ. -/
def read (u : RobotState F) (l : Link) : Property → PropValue F
  | connected => .flag u.connected
  | connecting => .flag l.connecting
  | errorString => .text l.errorString
  | host => .text l.host
  | port => .integer l.port
  | heartbeatRttMs => .integer l.rttMs.toInt
  | proto => .text l.proto
  | server => .text l.server
  | conn => .text u.conn
  | mode => .text u.mode
  | phase => .text u.phase
  | estop => .flag u.estop
  | controlEnabled => .flag u.controlEnabled
  | poseX => .number u.poseX
  | poseY => .number u.poseY
  | poseYaw => .number u.poseYaw
  | battery => .number u.battery
  | hasRobotState => .flag u.hasRobotState
  | stateTsMs => .integer u.stateTsMs
  | taskId => .text u.taskId
  | taskType => .text u.taskType
  | taskStatus => .text u.taskStatus
  | faultsSummary => .text u.faultsSummary
  | faultCount => .integer u.faultCount
  | navStatus => .text u.navStatus
  | navPathLen => .integer u.navPathLen
  | navIdx => .integer u.navIdx
  | navPath => .points u.navPath
  | navTrail => .points u.navTrail
  | navPathFlat => .numbers u.navPathFlat
  | navTrailFlat => .numbers u.navTrailFlat
  | navGoalX => .number u.navGoalX
  | navGoalY => .number u.navGoalY
  | trackErr => .number u.trackErr
  | lastCmdAckText => .text l.lastCmdAckText
  | lastCmdOk => .flag l.lastCmdOk
  | faultsList => .variants u.faultsList
  | autoReconnect => .flag l.autoReconnect
  | reconnectAttempts => .integer l.reconnectAttempts

end Property

/-! ### The object and its signals -/

/-- `class RobotState`, what QML has read of it, and the fault table. -/
structure Screen (F : Type) [CDouble F] where
  state : RobotState F := {}
  link : Link := {}
  shown : Property → PropValue F := Property.read {} {}
  table : FaultTableModel := {}

namespace Screen

variable {F : Type} [CDouble F] [QVariants F] [Containers]

/-- QML reads the properties of the signal again, and `faultsListChanged` also fills the table. -/
def emit (n : Notify) (w : Screen F) : Screen F :=
  { w with
    shown := fun p => if p.notify = n then p.read w.state w.link else w.shown p
    table := if n = .faultsList then w.table.setFaults F w.state.faultsList else w.table }

/-- The robot side is assigned, and then the signal is emitted. -/
def put (u : RobotState F) (n : Notify) (w : Screen F) : Screen F := emit n { w with state := u }

/-- The same for the side of the link. -/
def putLink (l : Link) (n : Notify) (w : Screen F) : Screen F := emit n { w with link := l }

/-! ### The setters -/

def setAutoReconnect (v : Bool) (w : Screen F) : Screen F :=
  if w.link.autoReconnect = v then w
  else w.putLink { w.link with autoReconnect := v } .autoReconnect

def setReconnectAttempts (n : Int) (w : Screen F) : Screen F :=
  if w.link.reconnectAttempts = n then w
  else w.putLink { w.link with reconnectAttempts := n } .reconnectAttempts

def setLastCmdAck (ack : Json) (w : Screen F) : Screen F :=
  w.putLink (w.link.setLastCmdAck F ack) .lastCmdAck

def setConnecting (v : Bool) (w : Screen F) : Screen F :=
  if w.link.connecting = v then w else w.putLink { w.link with connecting := v } .connecting

def setConnected (v : Bool) (w : Screen F) : Screen F :=
  if w.state.connected = v then w else w.put { w.state with connected := v } .connected

def setErrorString (e : Bytes) (w : Screen F) : Screen F :=
  if w.link.errorString = e then w else w.putLink { w.link with errorString := e } .errorString

def setEndpoint (host : Bytes) (port : Int) (w : Screen F) : Screen F :=
  let w := if w.link.host = host then w else w.putLink { w.link with host := host } .host
  if w.link.port = port then w else w.putLink { w.link with port := port } .port

def setHeartbeatRtt (ms : Int32) (w : Screen F) : Screen F :=
  if w.link.rttMs = ms then w else w.putLink { w.link with rttMs := ms } .heartbeatRttMs

def setHelloInfo (proto server : Bytes) (w : Screen F) : Screen F :=
  let w := if w.link.proto = proto then w else w.putLink { w.link with proto := proto } .proto
  if w.link.server = server then w else w.putLink { w.link with server := server } .server

/-- `resetRemote` assigns first, and emits afterwards. -/
def resetRemote (w : Screen F) : Screen F :=
  let w := { w with state := w.state.resetRemote, link := { w.link with rttMs := 0 } }
  [.navStatus, .navTrail, .conn, .mode, .phase, .estop, .controlEnabled, .pose, .battery,
    .hasRobotState, .stateTsMs, .task, .faults, .heartbeatRttMs].foldl (fun w n => w.emit n) w

/-! ### `applyState` -/

/-- A text of the message, where it has one. -/
def applyText (map : Json) (key : String) (get : RobotState F → Bytes)
    (set : Bytes → RobotState F → RobotState F) (n : Notify) (w : Screen F) : Screen F :=
  let v := toText F (value map key)
  if contains map key ∧ get w.state ≠ v then w.put (set v w.state) n else w

/-- A truth value of the message, where it has one. -/
def applyFlag (map : Json) (key : String) (get : RobotState F → Bool)
    (set : Bool → RobotState F → RobotState F) (n : Notify) (w : Screen F) : Screen F :=
  let v := toBool (value map key)
  if contains map key ∧ get w.state ≠ v then w.put (set v w.state) n else w

def applyFlags (map : Json) (w : Screen F) : Screen F :=
  let w := w.applyText map "conn" (·.conn) (fun v u => { u with conn := v }) .conn
  let w := w.applyText map "mode" (·.mode) (fun v u => { u with mode := v }) .mode
  let w := w.applyText map "phase" (·.phase) (fun v u => { u with phase := v }) .phase
  let w := w.applyFlag map "estop" (·.estop) (fun v u => { u with estop := v }) .estop
  w.applyFlag map "control_enabled" (·.controlEnabled)
    (fun v u => { u with controlEnabled := v }) .controlEnabled

def applyPose (map : Json) (w : Screen F) : Screen F :=
  match value map "pose" with
  | .obj fields =>
      let x := RobotState.numberOr (.obj fields) "x" w.state.poseX
      let y := RobotState.numberOr (.obj fields) "y" w.state.poseY
      let yaw := RobotState.numberOr (.obj fields) "yaw" w.state.poseYaw
      if x == w.state.poseX && y == w.state.poseY && yaw == w.state.poseYaw then w
      else w.put { w.state with poseX := x, poseY := y, poseYaw := yaw } .pose
  | _ => w

def applyBattery (map : Json) (w : Screen F) : Screen F :=
  let v := toNumber (value map "battery")
  if contains map "battery" ∧ ¬qFuzzyCompare (w.state.battery + 1.0) (v + 1.0) then
    w.put { w.state with battery := v } .battery
  else w

def applyLiveness (map : Json) (w : Screen F) : Screen F :=
  let robotState := RobotState.robotState F map
  let w :=
    if robotState = w.state.hasRobotState then w
    else w.put { w.state with hasRobotState := robotState } .hasRobotState
  let ts := toLongLong F (value map "ts_ms")
  if contains map "ts_ms" ∧ ts ≠ w.state.stateTsMs then
    w.put { w.state with stateTsMs := ts } .stateTsMs
  else w

def applyTask (map : Json) (w : Screen F) : Screen F :=
  match value map "task" with
  | .obj fields =>
      let text (key : String) (old : Bytes) : Bytes :=
        match (Json.obj fields).find? key with
        | none => old
        | some v => toText F v
      let id := text "id" w.state.taskId
      let type := text "type" w.state.taskType
      let status := text "status" w.state.taskStatus
      if id ≠ w.state.taskId ∨ type ≠ w.state.taskType ∨ status ≠ w.state.taskStatus then
        w.put { w.state with taskId := id, taskType := type, taskStatus := status } .task
      else w
  | _ => w

/-- `faultsChanged` is emitted in any case. A list that is equal to the old one is assigned here as
well, which nobody can tell. -/
def applyFaults (map : Json) (w : Screen F) : Screen F :=
  match value map "faults" with
  | .arr items =>
      let codes := items.map fun item => toText F (value item "code")
      let w := { w with state := { w.state with
        faultCount := items.length
        faultsSummary := (ascii ", ").intercalate codes } }
      let changed := !Containers.equalLists items w.state.faultsList
      let w := { w with state := { w.state with faultsList := items } }
      let w := if changed then w.emit .faultsList else w
      w.emit .faults
  | _ => w

def putTrackErr (err : F) (w : Screen F) : Screen F :=
  if err == w.state.trackErr then w else w.put { w.state with trackErr := err } .trackErr

def putTrail (trailDirty : Bool) (trail : List (F × F)) (w : Screen F) : Screen F :=
  if trailDirty then
    w.put { w.state with navTrail := trail, navTrailFlat := RobotState.flatten trail } .navTrail
  else w

def applyNav (map : Json) (w : Screen F) : Screen F :=
  match value map "nav" with
  | .obj fields =>
      let nav := Json.obj fields
      let status := toText F (value nav "status")
      let pathLen := toInt F (value nav "path_len")
      let idx := toInt F (value nav "idx")
      let gx : F := toNumber (value (value nav "goal") "x")
      let gy : F := toNumber (value (value nav "goal") "y")
      let err : F := toNumber (value nav "track_err")
      let path := RobotState.parseXYList (value nav "path_flat") (value nav "path")
      let trail := RobotState.parseXYList (value nav "trail_flat") (value nav "trail")
      let u := w.state
      let changed := status ≠ u.navStatus ∨ pathLen ≠ u.navPathLen ∨ idx ≠ u.navIdx ∨
        ¬(gx == u.navGoalX) ∨ ¬(gy == u.navGoalY) ∨ ¬(err == u.trackErr) ∨
        path.length ≠ u.navPath.length ∨ ¬(RobotState.flatten path == u.navPathFlat)
      let trailDirty :=
        trail.length != u.navTrail.length || !(RobotState.flatten trail == u.navTrailFlat)
      let w := { w with state := { w.state with
        navStatus := if status = [] then ascii "IDLE" else status
        navPathLen := pathLen
        navIdx := idx
        navPath := path
        navPathFlat := RobotState.flatten path
        navGoalX := gx
        navGoalY := gy } }
      let w := w.putTrackErr err
      let w := w.putTrail trailDirty trail
      if changed then w.emit .navStatus else w
  | _ => w

/-- `applyState`. -/
def applyState (map : Json) (w : Screen F) : Screen F :=
  let w := w.applyFlags map
  let w := w.applyPose map
  let w := w.applyBattery map
  let w := w.applyLiveness map
  let w := w.applyTask map
  let w := w.applyFaults map
  w.applyNav map

end Screen

/-! ### Who calls -/

/-- A call of a function of `class RobotState`, or of the filter of the fault table. -/
inductive StateCall where
  | setAutoReconnect (v : Bool)
  | setReconnectAttempts (n : Int)
  | setLastCmdAck (ack : Json)
  | setConnecting (v : Bool)
  | setConnected (v : Bool)
  | setErrorString (e : Bytes)
  | setEndpoint (host : Bytes) (port : Int)
  | setHeartbeatRtt (ms : Int32)
  | setHelloInfo (proto server : Bytes)
  | applyState (map : Json)
  | resetRemote
  | setLevelFilter (level : Bytes)

namespace Screen

variable {F : Type} [CDouble F] [QVariants F] [Containers]

def call (w : Screen F) : StateCall → Screen F
  | .setAutoReconnect v => w.setAutoReconnect v
  | .setReconnectAttempts n => w.setReconnectAttempts n
  | .setLastCmdAck ack => w.setLastCmdAck ack
  | .setConnecting v => w.setConnecting v
  | .setConnected v => w.setConnected v
  | .setErrorString e => w.setErrorString e
  | .setEndpoint host port => w.setEndpoint host port
  | .setHeartbeatRtt ms => w.setHeartbeatRtt ms
  | .setHelloInfo proto server => w.setHelloInfo proto server
  | .applyState map => w.applyState map
  | .resetRemote => w.resetRemote
  | .setLevelFilter level => { w with table := w.table.setLevelFilter level }

/-- The screen after these calls, from the start of `main` on. -/
def after (calls : List StateCall) : Screen F := calls.foldl call {}

end Screen

namespace Controller

variable {F : Type} [CDouble F]

/-- The calls of `scheduleReconnect`. -/
def scheduleCalls (c : Controller F) : List StateCall :=
  if c.manualDisconnect ∨ ¬c.link.autoReconnect then []
  else if c.lastHost = [] then []
  else if c.reconnectPending ∧ c.reconnectTimer.isSome then []
  else [.setReconnectAttempts (c.link.reconnectAttempts + 1)]

/-- The calls of a function that the user calls. The command functions write the log only. -/
def userCalls (c : Controller F) : UserCall F → List StateCall
  | .connectToServer host port =>
      if c.state.connected ∨ c.link.connecting then []
      else [.setEndpoint host port, .setConnecting true, .setErrorString []]
  | .disconnectFromServer => [.setReconnectAttempts 0]
  | .setAutoReconnect v => [.setAutoReconnect v]
  | _ => []

/-- The calls of `onReconnectTimer`. -/
def timerCalls (c : Controller F) : List StateCall :=
  if c.manualDisconnect ∨ c.state.connected then []
  else [.setConnecting true, .setErrorString []]

/-- The calls of the slot of a signal. -/
def signalCalls (c : Controller F) : WorkerSignal → List StateCall
  | .connected => [.setConnecting true, .setConnected false, .setErrorString []]
  | .disconnected =>
      [.setConnecting false, .setConnected false, .resetRemote] ++ c.scheduleCalls
  | .helloAck info =>
      if !info.ok then
        [.setErrorString info.reason, .setConnected false, .setConnecting false] ++
          { c with manualDisconnect := false }.scheduleCalls
      else
        [.setHelloInfo info.proto info.server, .setReconnectAttempts 0, .setConnecting false,
          .setConnected true, .setErrorString []]
  | .stateUpdated state => [.applyState state]
  | .nodesUpdated _ => []
  | .rttUpdated ms => [.setHeartbeatRtt ms]
  | .cmdAck ack => [.setLastCmdAck ack]
  | .errorOccurred message =>
      [.setConnecting false, .setConnected false, .setErrorString message, .resetRemote]

end Controller

namespace Console

variable {F : Type} [CDouble F]

/-- The calls of `class RobotState` in a step of the console. The worker makes none. -/
def stateCalls (x : Console F × Event F) : List StateCall :=
  match x.2 with
  | .user call => x.1.ui.userCalls call
  | .reconnectTimer => x.1.ui.timerCalls
  | .deliver => (x.1.toUi.head?.map x.1.ui.signalCalls).getD []
  | .take _ => []
  | .socket _ _ => []

end Console

end BotCockpit.Ui
