import BotCockpit.Ui.RobotState

/-!
# `BotCockpit.Spec.Delta`: a state message that has only some of the keys

The protocol lets a state message leave keys out, and an absent key says that nothing has changed.
So a delta `D` after a message `S` should come to what `overlay S D` alone comes to.

`Overlays` says when it does. It compares what the two messages say with what the console showed
before. A value that the code compares with the old one and then leaves makes a difference of its
own: `Unseen` says when it does not.
-/

set_option autoImplicit false

namespace BotCockpit.Ui

open BotCockpit.Lib

/-- A map whose keys are overwritten by those of a delta. -/
def overlay (S D : Json) : Json := .obj (S.fields ++ D.fields)

/-- Whether `canConvert<QVariantMap>` holds of a value, and `canConvert<QVariantList>`. -/
def isMap : Json → Bool
  | .obj _ => true
  | _ => false

def isList : Json → Bool
  | .arr _ => true
  | _ => false

/-- A new value is taken over unless it is near the old one. -/
def keep {α : Type} (near : α → α → Prop) [DecidableRel near] (old new : α) : α :=
  if near old new then old else new

/-- After `new` nobody sees that `mid` came before it: `mid` was not taken over, or was the old
value, or `new` is what is shown either way. -/
def Unseen {α : Type} (near : α → α → Prop) (old mid new : α) : Prop :=
  near old mid ∨ mid = old ∨ (near mid new → mid = new) ∧ (near old new → old = new)

/-- `key` is missing in `t`, and then `s` has the old text, or none. -/
def Silent (F : Type) [QVariants F] (t s : Json) (key : String) (old : Bytes) : Prop :=
  t.find? key = none → ∀ v ∈ s.find? key, toText F v = old

/-- A message for a robot that is there: it has one of the robot's parts, and the robot is in
control, or it is neither offline nor booting. -/
def FromRobot (F : Type) [QVariants F] (map : Json) : Prop :=
  (contains map "battery" ∨ contains map "nodes" ∨ contains map "pose") ∧
    (toBool (value map "control_enabled") ∨
      toText F (value map "conn") ≠ ascii "OFFLINE" ∧ toText F (value map "phase") ≠ ascii "BOOT")

section Values

variable {F : Type} [CDouble F] [QVariants F]

/-- A pose with the numbers that a value has. -/
def posed (v : Json) (p : F × F × F) : F × F × F :=
  (RobotState.numberOr v "x" p.1, RobotState.numberOr v "y" p.2.1,
    RobotState.numberOr v "yaw" p.2.2)

def NearPose (old new : F × F × F) : Prop :=
  new.1 == old.1 ∧ new.2.1 == old.2.1 ∧ new.2.2 == old.2.2

instance : DecidableRel (NearPose (F := F)) := fun old new => by
  unfold NearPose
  infer_instance

def NearBattery (old new : F) : Prop := qFuzzyCompare (old + 1.0) (new + 1.0)

instance : DecidableRel (NearBattery (F := F)) := fun old new => by
  unfold NearBattery
  infer_instance

def NearErr (old new : F) : Prop := new == old

instance : DecidableRel (NearErr (F := F)) := fun old new => by
  unfold NearErr
  infer_instance

/-- Two trails with their flat lists. -/
def NearTrail (old new : List (F × F) × List F) : Prop :=
  new.1.length = old.1.length ∧ new.2 == old.2

instance : DecidableRel (NearTrail (F := F)) := fun old new => by
  unfold NearTrail
  infer_instance

/-- The faults of a list: how many, their codes, and the list. -/
def faultsOf (F : Type) [QVariants F] (items : List Json) : Nat × Bytes × List Json :=
  (items.length, (ascii ", ").intercalate (items.map fun item => toText F (value item "code")),
    items)

/-- What a navigation says that is always taken over. -/
def navOf (nav : Json) : Bytes × Int × Int × List (F × F) × List F × F × F :=
  let status := toText F (value nav "status")
  let path := RobotState.parseXYList (value nav "path_flat") (value nav "path")
  (if status = [] then ascii "IDLE" else status, toInt F (value nav "path_len"),
    toInt F (value nav "idx"), path, RobotState.flatten path,
    toNumber (value (value nav "goal") "x"), toNumber (value (value nav "goal") "y"))

def errOf (nav : Json) : F := toNumber (value nav "track_err")

def trailOf (nav : Json) : List (F × F) × List F :=
  let trail := RobotState.parseXYList (value nav "trail_flat") (value nav "trail")
  (trail, RobotState.flatten trail)

end Values

namespace RobotState

variable {F : Type} [CDouble F] [QVariants F]

def poseView (u : RobotState F) : F × F × F := (u.poseX, u.poseY, u.poseYaw)

def faultsView (u : RobotState F) : Nat × Bytes × List Json :=
  (u.faultCount, u.faultsSummary, u.faultsList)

def navView (u : RobotState F) : Bytes × Int × Int × List (F × F) × List F × F × F :=
  (u.navStatus, u.navPathLen, u.navIdx, u.navPath, u.navPathFlat, u.navGoalX, u.navGoalY)

def trailView (u : RobotState F) : List (F × F) × List F := (u.navTrail, u.navTrailFlat)

/-- When a delta `D` after the message `S` comes to what the overlay of the two comes to. Only the
keys that `D` has matter, and whether `D` alone is taken for a robot. -/
structure Overlays (u : RobotState F) (S D : Json) : Prop where
  live : FromRobot F D ↔ FromRobot F (overlay S D)
  pose : ∀ t ∈ D.find? "pose",
    let before := u.poseView
    let said := posed (value S "pose") before
    NearPose before said ∨
      posed t said = posed t before ∧ Unseen NearPose before said (posed t before)
  battery : ∀ t ∈ D.find? "battery",
    Unseen NearBattery u.battery (numberOr S "battery" u.battery) (toNumber t)
  task : ∀ t ∈ D.find? "task",
    Silent F t (value S "task") "id" u.taskId ∧ Silent F t (value S "task") "type" u.taskType ∧
      Silent F t (value S "task") "status" u.taskStatus
  faults : ∀ t ∈ D.find? "faults", isList t ∨
    ∀ items, value S "faults" = .arr items → faultsOf F items = u.faultsView
  nav : ∀ t ∈ D.find? "nav", isMap (value S "nav") →
    if isMap t then
      Unseen NearErr u.trackErr (errOf (value S "nav")) (errOf t) ∧
        Unseen NearTrail u.trailView (trailOf (value S "nav")) (trailOf t)
    else
      navOf (value S "nav") = u.navView ∧
        keep NearErr u.trackErr (errOf (value S "nav")) = u.trackErr ∧
        keep NearTrail u.trailView (trailOf (value S "nav")) = u.trailView

end RobotState

end BotCockpit.Ui
