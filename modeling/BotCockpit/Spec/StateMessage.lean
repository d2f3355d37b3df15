import BotCockpit.Lib.JsonText
import BotCockpit.Spec.Robot

/-!
# `BotCockpit.Spec.StateMessage`: what a reader gets out of a state message

A reader parses the text by the grammar of JSON and takes what it shows by its key, in any order
of the keys. `FakeRobot.view` is what it should get: the members of the robot themselves, with a
number as it is printed. `Clean` is about the robot alone, without its text.
-/

set_option autoImplicit false

namespace BotCockpit.Sim

open BotCockpit.Lib

/-! ### The reader -/

/-- The string under a key. -/
def stringAt (key : String) (j : Json) : Option Bytes :=
  match j.find? key with
  | some (.str s) => some s
  | _ => none

/-- The string under a key, where `null` stands for the empty one. -/
def stringOrNullAt (key : String) (j : Json) : Option Bytes :=
  match j.find? key with
  | some .null => some []
  | some (.str s) => some s
  | _ => none

/-- The truth value under a key. -/
def boolAt (key : String) (j : Json) : Option Bool :=
  match j.find? key with
  | some (.bool b) => some b
  | _ => none

/-- The number under a key, as its text. -/
def numberAt (key : String) (j : Json) : Option Bytes :=
  match j.find? key with
  | some (.num text) => some text
  | _ => none

/-- The array under a key. -/
def arrayAt (key : String) (j : Json) : Option (List Json) :=
  match j.find? key with
  | some (.arr vs) => some vs
  | _ => none

/-- A fault as a state message shows it. -/
structure FaultView where
  code : Bytes
  level : Bytes
  node : Bytes
  detail : Bytes
  active : Bool
  deriving DecidableEq

def FaultView.read (j : Json) : Option FaultView := do
  let code ← stringAt "code" j
  let level ← stringAt "level" j
  let node ← stringAt "node" j
  let detail ← stringAt "detail" j
  let active ← boolAt "active" j
  return { code := code, level := level, node := node, detail := detail, active := active }

/-- The robot as a state message shows it. -/
structure StateView where
  mode : Bytes
  phase : Bytes
  estop : Bool
  controlEnabled : Bool
  taskId : Bytes
  taskType : Bytes
  taskStatus : Bytes
  faults : List FaultView
  /-- `x`, `y`, `yaw` and the battery. -/
  numbers : List Bytes
  deriving DecidableEq

def StateView.read (j : Json) : Option StateView := do
  let mode ← stringAt "mode" j
  let phase ← stringAt "phase" j
  let estop ← boolAt "estop" j
  let controlEnabled ← boolAt "control_enabled" j
  let task ← j.find? "task"
  let taskId ← stringOrNullAt "id" task
  let taskType ← stringOrNullAt "type" task
  let taskStatus ← stringAt "status" task
  let faults ← (← arrayAt "faults" j).mapM FaultView.read
  let pose ← j.find? "pose"
  let x ← numberAt "x" pose
  let y ← numberAt "y" pose
  let yaw ← numberAt "yaw" pose
  let battery ← numberAt "battery" j
  return {
    mode := mode, phase := phase, estop := estop, controlEnabled := controlEnabled
    taskId := taskId, taskType := taskType, taskStatus := taskStatus, faults := faults
    numbers := [x, y, yaw, battery] }

/-! ### What there is to read -/

/-- The string of the source. -/
def TaskType.text : TaskType → String
  | .none => ""
  | .goto => "goto"

def FaultItem.view (f : FaultItem) : FaultView :=
  { code := ascii f.code.text, level := ascii f.level.text, node := ascii "fake_robot"
    detail := f.detail, active := f.active }

/-- No byte of the text is a control character. -/
def Printable (s : Bytes) : Prop := ∀ b ∈ s, 32 ≤ b

/-- The standard library prints a finite `double` as a number, and no other one. -/
structure PrintsDoubles (F : Type) [CDouble F] : Prop where
  ostream : ∀ x : F, CDouble.isFinite x = true → Json.IsNumber (CDouble.ostreamText x)
  ostream_nonFinite : ∀ x : F, CDouble.isFinite x = false →
    CDouble.ostreamText x ∈ Json.nonFinite
  toString : ∀ x : F, CDouble.isFinite x = true → Json.IsNumber (CDouble.toStringText x)
  toString_nonFinite : ∀ x : F, CDouble.isFinite x = false →
    CDouble.toStringText x ∈ Json.nonFinite

namespace FakeRobot

variable {F : Type} [CDouble F]

def view (r : FakeRobot F) : StateView where
  mode := ascii r.mode.text
  phase := ascii r.phase.text
  estop := r.estop
  controlEnabled := r.controlEnabled
  taskId := r.taskId
  taskType := ascii r.taskType.text
  taskStatus := ascii r.taskStatus.text
  faults := r.faults.map FaultItem.view
  numbers := [r.poseX, r.poseY, r.poseYaw, r.battery].map CDouble.ostreamText

/-- The strings that come from commands. -/
def strings (r : FakeRobot F) : List Bytes := r.taskId :: r.faults.map FaultItem.detail

/-- The single numbers of a state message. -/
def gauges (r : FakeRobot F) : List F :=
  [r.poseX, r.poseY, r.poseYaw, r.battery, r.goalX, r.goalY, r.trackErr, r.trackErrMax]

/-- The coordinates of the path and the trail. -/
def coordinates (r : FakeRobot F) : List F := (r.navPath ++ r.trail).flatMap fun p => [p.1, p.2]

/-- No string of the robot has a control character, and every number is finite. -/
structure Clean (r : FakeRobot F) : Prop where
  strings : ∀ s ∈ r.strings, Printable s
  gauges : ∀ x ∈ r.gauges, CDouble.isFinite x = true
  coordinates : ∀ x ∈ r.coordinates, CDouble.isFinite x = true

/-- The text is JSON, and a reader gets the robot out of it. -/
def ReadAs (text : Bytes) (r : FakeRobot F) : Prop :=
  ∃ j, Json.parse text = some j ∧ StateView.read j = some r.view

end FakeRobot

/-- Every command message of the history has this property. -/
def Commands {F : Type} [CDouble F] (P : Bytes → Prop) (h : Node.History F) : Prop :=
  ∀ x ∈ h, ∀ data, x.1.call = .cmd data → P data

/-- The strings that a command message carries into the state have no control character. -/
def CarriesPrintable (data : Bytes) : Prop :=
  ∀ key ∈ ["task_id", "detail"], ∀ s, extractString data key = some s → Printable s

end BotCockpit.Sim
