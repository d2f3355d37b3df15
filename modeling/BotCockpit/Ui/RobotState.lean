import BotCockpit.Ui.QVariant

/-!
# `BotCockpit.Ui.RobotState`: what the console knows about the robot

The robot side of `class RobotState`, and `applyState`, which takes the parsed JSON of a state
frame.

`applyState` updates its fields one group after the other, and each group has a definition of
its own. No group reads what another one has written.
-/

set_option autoImplicit false

namespace BotCockpit.Ui

open BotCockpit.Lib

/-! ### The state of the console -/

/-- The robot side of `class RobotState`, and the flag of the link. -/
structure RobotState (F : Type) [CDouble F] where
  connected : Bool := false
  conn : Bytes := ascii "OFFLINE"
  mode : Bytes := ascii "TELEOP"
  phase : Bytes := ascii "BOOT"
  estop : Bool := false
  controlEnabled : Bool := false
  poseX : F := 0.0
  poseY : F := 0.0
  poseYaw : F := 0.0
  battery : F := 0.0
  hasRobotState : Bool := false
  stateTsMs : Int := 0
  taskId : Bytes := []
  taskType : Bytes := []
  taskStatus : Bytes := ascii "NONE"
  faultsSummary : Bytes := []
  faultCount : Nat := 0
  faultsList : List Json := []
  navStatus : Bytes := ascii "IDLE"
  navPathLen : Int := 0
  navIdx : Int := 0
  navPath : List (F × F) := []
  navTrail : List (F × F) := []
  navPathFlat : List F := []
  navTrailFlat : List F := []
  navGoalX : F := 0.0
  navGoalY : F := 0.0
  trackErr : F := 0.0

namespace RobotState

variable {F : Type} [CDouble F] [QVariants F]

/-- The fields that are taken over as they are. -/
def applyFlags (map : Json) (u : RobotState F) : RobotState F :=
  let text (key : String) (old : Bytes) :=
    if contains map key then toText F (value map key) else old
  let flag (key : String) (old : Bool) := if contains map key then toBool (value map key) else old
  { u with
    conn := text "conn" u.conn
    mode := text "mode" u.mode
    phase := text "phase" u.phase
    estop := flag "estop" u.estop
    controlEnabled := flag "control_enabled" u.controlEnabled }

/-- A number of a map, with the old one as the default. -/
def numberOr (map : Json) (key : String) (old : F) : F :=
  match map.find? key with
  | none => old
  | some v => toNumber v

def applyPose (map : Json) (u : RobotState F) : RobotState F :=
  match value map "pose" with
  | .obj fields =>
      let x := numberOr (.obj fields) "x" u.poseX
      let y := numberOr (.obj fields) "y" u.poseY
      let yaw := numberOr (.obj fields) "yaw" u.poseYaw
      if x == u.poseX && y == u.poseY && yaw == u.poseYaw then u
      else { u with poseX := x, poseY := y, poseYaw := yaw }
  | _ => u

def applyBattery (map : Json) (u : RobotState F) : RobotState F :=
  let v := toNumber (value map "battery")
  if contains map "battery" ∧ ¬qFuzzyCompare (u.battery + 1.0) (v + 1.0) then
    { u with battery := v }
  else u

/-- Whether a state message comes from a robot: one that is offline or booting, without
control, is taken for the template of the bridge. -/
def robotState (F : Type) [QVariants F] (map : Json) : Bool :=
  let control := toBool (value map "control_enabled")
  let robotState := contains map "battery" || contains map "nodes" || contains map "pose"
  let robotState :=
    if contains map "conn" ∧ toText F (value map "conn") = ascii "OFFLINE" ∧ ¬control then false
    else robotState
  if contains map "phase" ∧ toText F (value map "phase") = ascii "BOOT" ∧ robotState ∧ ¬control then
    false
  else robotState

def applyLiveness (map : Json) (u : RobotState F) : RobotState F :=
  { u with
    hasRobotState := robotState F map
    stateTsMs :=
      if contains map "ts_ms" then toLongLong F (value map "ts_ms") else u.stateTsMs }

def applyTask (map : Json) (u : RobotState F) : RobotState F :=
  match value map "task" with
  | .obj fields =>
      let text (key : String) (old : Bytes) : Bytes :=
        match (Json.obj fields).find? key with
        | none => old
        | some v => toText F v
      { u with
        taskId := text "id" u.taskId
        taskType := text "type" u.taskType
        taskStatus := text "status" u.taskStatus }
  | _ => u

def applyFaults (map : Json) (u : RobotState F) : RobotState F :=
  match value map "faults" with
  | .arr items =>
      let codes := items.map fun item => toText F (value item "code")
      { u with
        faultCount := items.length
        faultsSummary := (ascii ", ").intercalate codes
        faultsList := items }
  | _ => u

/-- The points of a flat list of coordinates. -/
def flatPoints : List Json → List (F × F)
  | x :: y :: rest =>
      let p : F × F := (toNumber x, toNumber y)
      if CDouble.isFinite p.1 ∧ CDouble.isFinite p.2 then p :: flatPoints rest
      else flatPoints rest
  | _ => []

/-- The point of a nested list: `[x, y]` or an object with `x` and `y`. -/
def nestedPoint (item : Json) : Option (F × F) :=
  let p : Option (F × F) :=
    match item.items with
    | x :: y :: _ => some (toNumber x, toNumber y)
    | _ =>
        if contains item "x" ∧ contains item "y" then
          some (toNumber (value item "x"), toNumber (value item "y"))
        else none
  p.filter fun p => CDouble.isFinite p.1 && CDouble.isFinite p.2

/-- `parseXYList`: the flat list is preferred. -/
def parseXYList (flat nested : Json) : List (F × F) :=
  let points := flatPoints flat.items
  if points = [] then nested.items.filterMap nestedPoint else points

/-- The flat list that belongs to a list of points. -/
def flatten (points : List (F × F)) : List F := points.flatMap fun p => [p.1, p.2]

def applyNav (map : Json) (u : RobotState F) : RobotState F :=
  match value map "nav" with
  | .obj fields =>
      let nav := Json.obj fields
      let status := toText F (value nav "status")
      let err : F := toNumber (value nav "track_err")
      let path := parseXYList (value nav "path_flat") (value nav "path")
      let trail := parseXYList (value nav "trail_flat") (value nav "trail")
      let trailDirty :=
        trail.length != u.navTrail.length || !(flatten trail == u.navTrailFlat)
      { u with
        navStatus := if status = [] then ascii "IDLE" else status
        navPathLen := toInt F (value nav "path_len")
        navIdx := toInt F (value nav "idx")
        navPath := path
        navPathFlat := flatten path
        navGoalX := toNumber (value (value nav "goal") "x")
        navGoalY := toNumber (value (value nav "goal") "y")
        trackErr := if err == u.trackErr then u.trackErr else err
        navTrail := if trailDirty then trail else u.navTrail
        navTrailFlat := if trailDirty then flatten trail else u.navTrailFlat }
  | _ => u

/-- `applyState`. -/
def applyState (map : Json) (u : RobotState F) : RobotState F :=
  let u := applyFlags map u
  let u := applyPose map u
  let u := applyBattery map u
  let u := applyLiveness map u
  let u := applyTask map u
  let u := applyFaults map u
  applyNav map u

/-- `resetRemote`, when the connection is gone. The round-trip time is not kept here. -/
def resetRemote (u : RobotState F) : RobotState F :=
  { u with
    conn := ascii "OFFLINE"
    mode := ascii "TELEOP"
    phase := ascii "BOOT"
    estop := false
    controlEnabled := false
    poseX := 0.0
    poseY := 0.0
    poseYaw := 0.0
    battery := 0.0
    hasRobotState := false
    stateTsMs := 0
    taskId := []
    taskType := []
    taskStatus := ascii "NONE"
    faultsSummary := []
    faultCount := 0
    navPath := []
    navTrail := []
    navPathFlat := []
    navTrailFlat := []
    navIdx := 0
    navPathLen := 0 }

/-- When `ControlPage.qml` enables the Reset button. -/
def resetEnabled (u : RobotState F) : Prop :=
  u.connected ∧ u.hasRobotState ∧
    (u.estop ∨ u.phase = ascii "FAULT" ∨ u.phase = ascii "DEGRADED" ∨ u.phase = ascii "IDLE")

instance (u : RobotState F) : Decidable u.resetEnabled := by
  unfold resetEnabled
  infer_instance

end RobotState

end BotCockpit.Ui
