import BotCockpit.Ui.RobotState

/-!
# `BotCockpit.Ui.ControlPage`: when the buttons are enabled

The properties of `ControlPage.qml` and the `enabled` of its buttons. That of the Reset button is
`RobotState.resetEnabled`.
-/

set_option autoImplicit false

namespace BotCockpit.Ui.RobotState

open BotCockpit.Lib

variable {F : Type} [CDouble F]

def linkOk (u : RobotState F) : Prop := u.connected = true

def canDrive (u : RobotState F) : Prop :=
  u.connected = true ∧ u.controlEnabled = true ∧ u.estop = false ∧ u.hasRobotState = true

def canEstop (u : RobotState F) : Prop := u.connected = true

/-- `goalInRange`, of the two numbers that `parseFloat` reads. -/
def goalInRange (x y : F) : Prop :=
  CDouble.isFinite x = true ∧ CDouble.isFinite y = true ∧ 0.0 ≤ x ∧ x ≤ 20.0 ∧ -5.0 ≤ y ∧ y ≤ 5.0

/-- The TELEOP and the REMOTE button, which also put a mode back that is on. -/
def modeEnabled (mode : String) (u : RobotState F) : Prop :=
  u.canDrive ∨ u.linkOk ∧ u.mode = ascii mode

/-- The AUTO button. -/
def autoEnabled (u : RobotState F) : Prop := u.canDrive

/-- The button that sends a goal. -/
def gotoEnabled (x y : F) (u : RobotState F) : Prop := u.canDrive ∧ goalInRange x y

def pauseEnabled (u : RobotState F) : Prop := u.linkOk ∧ u.phase = ascii "RUNNING"

def resumeEnabled (u : RobotState F) : Prop :=
  u.linkOk ∧ u.estop = false ∧ u.taskType = ascii "goto"

def cancelEnabled (u : RobotState F) : Prop := u.linkOk

end BotCockpit.Ui.RobotState
