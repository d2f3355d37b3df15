import BotCockpit.Sim.FakeRobot

/-!
# `BotCockpit.Spec.StateSize`: how many bytes a state takes

The size of a state message, counted from the members of the robot: the texts with their escapes,
the numbers as they are printed, and for each fault and each point what its entry takes. The text
itself is not built.
-/

set_option autoImplicit false

namespace BotCockpit.Sim

open BotCockpit.Lib

/-- A text in its quotes. -/
def quotedBytes (s : Bytes) : Nat := (esc s).length + 2

/-- Entries with commas between them. -/
def listBytes (entries : List Nat) : Nat := entries.sum + (entries.length - 1)

/-- `null`, or a text in its quotes. -/
def nullableBytes (s : Bytes) : Nat := if s = [] then 4 else quotedBytes s

def boolBytes (b : Bool) : Nat := if b then 4 else 5

/-- An entry of the fault list. -/
def FaultItem.bytes (nowMs : UInt64) (f : FaultItem) : Nat :=
  67 + (decimal nowMs.toNat).length + quotedBytes (ascii f.code.text) +
    quotedBytes (ascii f.level.text) + quotedBytes f.detail + boolBytes f.active

section

variable {F : Type} [CDouble F]

/-- The points of a list, once as pairs and once flat. -/
def pointsBytes (path : List (F × F)) : Nat :=
  listBytes (path.map fun p =>
      (CDouble.toStringText p.1).length + (CDouble.toStringText p.2).length + 3) +
    listBytes (path.map fun p =>
      (CDouble.toStringText p.1).length + (CDouble.toStringText p.2).length + 1)

namespace FakeRobot

/-- The words of a state message. -/
def wordBytes (r : FakeRobot F) : Nat :=
  quotedBytes (ascii r.conn) + quotedBytes (ascii r.mode.text) + quotedBytes (ascii r.phase.text) +
    quotedBytes (ascii r.robotNode.text) + quotedBytes (ascii r.bridgeNode.text) +
    quotedBytes (ascii r.taskStatus.text) + quotedBytes (ascii r.navStatus.text) +
    boolBytes r.estop + boolBytes r.controlEnabled +
    if r.taskType = .goto then 6 else 4

/-- The numbers of a state message other than those of the points. -/
def numberBytes (nowMs : UInt64) (r : FakeRobot F) : Nat :=
  3 * (decimal nowMs.toNat).length + (decimal r.navPath.length).length +
    (decimal r.navIdx).length +
    (([r.poseX, r.poseY, r.poseYaw, r.battery, r.goalX, r.goalY, r.trackErr, r.trackErrMax].map
      fun x => (CDouble.ostreamText x).length).sum)

/-- The bytes of a state message. -/
def stateBytes (nowMs : UInt64) (r : FakeRobot F) : Nat :=
  402 + r.wordBytes + r.numberBytes nowMs + nullableBytes r.taskId +
    listBytes (r.faults.map fun f => f.bytes nowMs) + pointsBytes r.navPath + pointsBytes r.trail

end FakeRobot

end

end BotCockpit.Sim
