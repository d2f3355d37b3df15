import BotCockpit.Sim.Lifecycle

/-!
# `BotCockpit.Spec.Robot`: what an observer of the robot sees

The vocabulary in which the safety properties are stated. An entry of a history is a callback
with everything it published, so "a goto was accepted" is a fact about the message that came in
and the result that went out, not about the fields of the robot.
-/

set_option autoImplicit false

namespace BotCockpit.Sim

open BotCockpit.Lib

variable {F : Type} [CDouble F]

/-- One callback of a history and what it published. -/
abbrev Entry (F : Type) [CDouble F] := Event × List (Output F)

namespace Entry

/-- The callback got a message with this command. -/
def Asks (x : Entry F) (cmd : String) : Prop :=
  ∃ data, x.1.call = .cmd data ∧ extractString data "cmd" = some (ascii cmd)

/-- The callback got a task command of this type. -/
def AsksTask (x : Entry F) (type : String) : Prop :=
  ∃ data, x.1.call = .cmd data ∧ extractString data "cmd" = some (ascii "CMD_TASK") ∧
    extractString data "type" = some (ascii type)

/-- The callback got a request for this mode. -/
def AsksMode (x : Entry F) (mode : String) : Prop :=
  ∃ data, x.1.call = .cmd data ∧ extractString data "cmd" = some (ascii "CMD_MODE") ∧
    extractString data "mode" = some (ascii mode)

/-- A result with `ok` was published. -/
def AnsweredOk (x : Entry F) : Prop := ∃ res, Output.result res ∈ x.2 ∧ res.ok = true

/-- A result with `ok` and status `ACCEPTED` was published. -/
def Accepted (x : Entry F) : Prop :=
  ∃ res, Output.result res ∈ x.2 ∧ res.ok = true ∧ res.status = .accepted

/-- The message was answered, and with a refusal. -/
def Refused (x : Entry F) : Prop :=
  (∃ res, Output.result res ∈ x.2) ∧
    ∀ res, Output.result res ∈ x.2 → res.ok = false ∧ res.status = .rejected

/-- An accepted goto or resume. -/
def Starts (x : Entry F) : Prop := (x.AsksTask "goto" ∨ x.AsksTask "resume") ∧ x.Accepted

/-- An accepted `CMD_RESET`. -/
def Resets (x : Entry F) : Prop := x.Asks "CMD_RESET" ∧ x.Accepted

/-- An accepted task command of this type. -/
def Takes (x : Entry F) (type : String) : Prop := x.AsksTask type ∧ x.Accepted

/-- An accepted goto, cancel or RESET: the current task is another one after it, or none. -/
def Replaces (x : Entry F) : Prop := x.Takes "goto" ∨ x.Takes "cancel" ∨ x.Resets

/-- A lifecycle transition other than the configuration. -/
def Transits (x : Entry F) : Prop :=
  (∃ now, x.1.call = .activate now) ∨ x.1.call = .deactivate ∨ x.1.call = .cleanup ∨
    x.1.call = .shutdown

/-- A goto was answered `ACCEPTED` under this id. -/
def Executes (x : Entry F) (taskId : Bytes) : Prop :=
  x.AsksTask "goto" ∧ ∃ res, Output.result res ∈ x.2 ∧ res.ok = true ∧ res.status = .accepted ∧
    res.taskId = taskId

/-- An accepted RESET or a configuration: the robot forgets its tasks. -/
def Forgets (x : Entry F) : Prop := x.Resets ∨ x.1.call = .configure

/-- A console message. An unreadable one counts as offline. -/
def Console (x : Entry F) (online : Bool) : Prop :=
  ∃ data, x.1.call = .console data ∧ (extractBool data "online" = some true ↔ online = true)

/-- What takes the authorisation to move away: an accepted pause, cancel, ESTOP or RESET, a
console-offline message, or a deactivation. -/
def Halts (x : Entry F) : Prop :=
  ((x.AsksTask "pause" ∨ x.AsksTask "cancel" ∨ x.Asks "CMD_ESTOP" ∨ x.Asks "CMD_ESTART" ∨
      x.Asks "CMD_RESET") ∧ x.Accepted) ∨
    x.Console false ∨ x.1.call = .deactivate

end Entry

namespace FakeRobot

/-- An active fault of this level is listed. -/
def ActiveFault (r : FakeRobot F) (level : FaultLevel) : Prop :=
  ∃ f ∈ r.faults, f.active = true ∧ f.level = level

/-- How often the fault of the emergency stop is listed. -/
def stopEntries (r : FakeRobot F) : Nat := r.faults.countP fun f => f.code = .estopActive

/-- How often an active low-battery warning is listed. -/
def lowEntries (r : FakeRobot F) : Nat := r.faults.countP fun f => f.code = .batteryLow && f.active

/-- The task is over. -/
def Ended (r : FakeRobot F) : Prop := r.taskStatus = .done ∨ r.taskStatus = .failed

/-- The goal of a goto. A coordinate that the message does not have is the robot's own. -/
def gotoGoal (data : Bytes) (r : FakeRobot F) : F × F :=
  ((extractNumber data "x" r.poseX).2, (extractNumber data "y" r.poseY).2)

/-- The path that a goto plans. -/
def gotoPath (C : Type) [CFloat C] (data : Bytes) (r : FakeRobot F) : List (F × F) :=
  Nav.astar C (Nav.GridMap.makeCorridorDemo.inflate 1) r.poseX r.poseY (r.gotoGoal data).1
    (r.gotoGoal data).2

/-- The id of a goto: the one it carries, or the next one of the robot. -/
def gotoId (data : Bytes) (r : FakeRobot F) : Bytes :=
  (assignTaskId ((extractString data "task_id").getD []) r).1

/-- The robot takes tasks, stands still, and knows a path to the goal of this goto. -/
structure CanStart (C : Type) [CFloat C] (data : Bytes) (r : FakeRobot F) : Prop where
  free : ¬r.blocked
  still : r.phase ≠ .running
  inside : ¬outside (r.gotoGoal data).1 (r.gotoGoal data).2
  path : r.gotoPath C data ≠ []

/-- The robot gets as far as naming the goto: it takes tasks, stands still, and the goal is in
range. -/
structure AdmitsGoto (data : Bytes) (r : FakeRobot F) : Prop where
  cmd : extractString data "cmd" = some (ascii "CMD_TASK")
  type : extractString data "type" = some (ascii "goto")
  free : ¬r.blocked
  still : r.phase ≠ .running
  inside : ¬outside (r.gotoGoal data).1 (r.gotoGoal data).2

instance (data : Bytes) (r : FakeRobot F) : Decidable (r.AdmitsGoto data) :=
  decidable_of_iff
    (extractString data "cmd" = some (ascii "CMD_TASK") ∧
      extractString data "type" = some (ascii "goto") ∧ ¬r.blocked ∧ r.phase ≠ .running ∧
      ¬outside (r.gotoGoal data).1 (r.gotoGoal data).2)
    ⟨fun ⟨h₁, h₂, h₃, h₄, h₅⟩ => ⟨h₁, h₂, h₃, h₄, h₅⟩,
      fun h => ⟨h.cmd, h.type, h.free, h.still, h.inside⟩⟩

/-- The goto names the task that is done. -/
def RepeatsDone (data : Bytes) (r : FakeRobot F) : Prop :=
  r.taskId ≠ [] ∧ r.taskId = r.gotoId data ∧ r.taskStatus = .done

instance (data : Bytes) (r : FakeRobot F) : Decidable (r.RepeatsDone data) := by
  unfold RepeatsDone
  infer_instance

/-- The cell of a world point on the corridor map. -/
def cellOn (p : F × F) : Option (Int × Int) :=
  (Nav.GridMap.makeCorridorDemo : Nav.GridMap F).worldToCell p.1 p.2

/-- The goal of the goto lies in a wall of the corridor map. -/
def GoalInWall (data : Bytes) (r : FakeRobot F) : Prop :=
  ∃ c, cellOn (r.gotoGoal data) = some c ∧
    (Nav.GridMap.makeCorridorDemo : Nav.GridMap F).cellAt c.1 c.2 = true

/-- The range of goals is the map: a goal out of range is refused and changes nothing, and one in
range lies on the map, so the robot neither calls it unknown nor falls into `FAULT`. -/
structure ServesMap (r : FakeRobot F) (data : Bytes) (s : FakeRobot F) (out : List (Output F)) :
    Prop where
  refused : outside (r.gotoGoal data).1 (r.gotoGoal data).2 →
    s = r ∧ ∃ taskId, out.filterMap Output.result? =
      [.rejected (extractSeq F data) (ascii "CMD_TASK") .invalidPayload taskId]
  onMap : ¬outside (r.gotoGoal data).1 (r.gotoGoal data).2 → cellOn (r.gotoGoal data) ≠ none
  served : ¬outside (r.gotoGoal data).1 (r.gotoGoal data).2 →
    s.phase ≠ .fault ∧ ∀ res ∈ out.filterMap Output.result?, res.reason ≠ some .unknownTask

/-- The two states have the same task with the same goal, and the same path up to the same index. -/
structure SameTask (r s : FakeRobot F) : Prop where
  id : s.taskId = r.taskId
  type : s.taskType = r.taskType
  goal : s.goalX = r.goalX ∧ s.goalY = r.goalY
  path : s.navPath = r.navPath
  idx : s.navIdx = r.navIdx

/-- The `k`-th id that a robot assigns. -/
def assignedId (k : Nat) : Bytes := ascii "T-" ++ decimal k

/-- The id that the callback uses, when it is a goto that the robot admits. -/
def usedId? (r : FakeRobot F) (e : Event) : Option Bytes :=
  match e.call with
  | .cmd data => if r.AdmitsGoto data then some (r.gotoId data) else none
  | _ => none

/-- The callback uses no id that the robot is still to assign. -/
def NotAhead (r : FakeRobot F) (e : Event) : Prop :=
  ∀ data taskId, e.call = .cmd data → r.AdmitsGoto data →
    extractString data "task_id" = some taskId → ∀ k, r.taskSeq < k → taskId ≠ assignedId k

/-- Over the history `h` from `r` to `s` the emergency stop has held: the robot is stopped
without control where it was, has not entered AUTO, and has answered no goto, resume or request
for AUTO with `ok`. -/
structure StopHeld (r : FakeRobot F) (h : List (Entry F)) (s : FakeRobot F) : Prop where
  estop : s.estop = true
  control : s.controlEnabled = false
  pose : s.pose = r.pose
  mode : s.mode = .auto → r.mode = .auto
  refused : ∀ x : Entry F, x ∈ h → x.AnsweredOk →
    ¬x.AsksTask "goto" ∧ ¬x.AsksTask "resume" ∧ ¬x.AsksMode "AUTO"

/-- The state `s` that an accepted RESET leaves. -/
structure WasReset (r s : FakeRobot F) : Prop where
  estop : s.estop = false
  faults : s.faults = []
  mode : s.mode = .teleop
  taskStatus : s.taskStatus = .none
  taskId : s.taskId = []
  taskType : s.taskType = .none
  phase : s.phase = .idle
  control : s.controlEnabled = r.consoleOnline

/-- A fault that a RESET does not clear: an error other than a failed task. -/
def Blocks (f : FaultItem) : Prop := f.level = .error ∧ f.code ≠ .taskFailed

/-- Over the history `h` from `r` to `s` the fault `f` has stayed: it is listed, the robot is
halted where it was and has answered no goto, resume or request for AUTO with `ok`, and a RESET
now is refused and changes nothing. -/
structure FaultHeld (C : Type) [CFloat C] (f : FaultItem) (r : FakeRobot F)
    (h : List (Entry F)) (s : FakeRobot F) : Prop where
  listed : f ∈ s.faults
  phase : s.phase = .fault ∨ s.phase = .estop ∨ s.phase = .initializing ∨ s.phase = .boot
  pose : s.pose = r.pose
  refused : ∀ x : Entry F, x ∈ h → x.AnsweredOk →
    ¬x.AsksTask "goto" ∧ ¬x.AsksTask "resume" ∧ ¬x.AsksMode "AUTO"
  reset : ∀ e s' out, handle C s e = some (s', out) → Entry.Asks (e, out) "CMD_RESET" →
    Entry.Refused (e, out) ∧ s' = s

end FakeRobot

/-- The callback is a `CMD_RESET` with `confirm:true`. -/
def Event.AsksReset (e : Event) : Prop :=
  ∃ data, e.call = .cmd data ∧ extractString data "cmd" = some (ascii "CMD_RESET") ∧
    extractBool data "confirm" = some true

/-- The callback is a `CLEAR_FAULT`. -/
def Event.AsksClear (e : Event) : Prop :=
  match e.call with
  | .cmd data => extractString data "cmd" = some (ascii "CLEAR_FAULT") ∨
      extractString data "cmd" = some (ascii "CMD_CLEAR_FAULT")
  | _ => False

instance (e : Event) : Decidable e.AsksClear := by
  obtain ⟨now, call⟩ := e
  cases call <;> (dsimp only [Event.AsksClear]; infer_instance)

/-- The faults are not cleared during an emergency stop. -/
def NotClearedStopped (n : Node F) (e : Event) : Prop := n.robot.estop = true → ¬e.AsksClear

instance (n : Node F) (e : Event) : Decidable (NotClearedStopped n e) := by
  unfold NotClearedStopped
  infer_instance

/-- The node is configured but not active, or it is active and since the activation no tick at or
after the end of the start-up pause has run. -/
def StartingUp (h : Node.History F) (n : Node F) : Prop :=
  n.lifecycle = .inactive ∨
    n.lifecycle = .active ∧
      Since (fun x : Entry F => ∃ now, x.1.call = .activate now)
        (fun x => ∀ now fuel, x.1.call = .tick now fuel → now < n.robot.idleTp) h

/-- The robot is in `INITIALIZING` or `ESTOP` without control, and no message makes it accept a
goto or go to AUTO. -/
structure Node.Held (C : Type) [CFloat C] (n : Node F) : Prop where
  phase : n.robot.phase = .initializing ∨ n.robot.phase = .estop
  control : n.robot.controlEnabled = false
  refused : ∀ e m out, Node.step C n e = some (m, out) → Entry.AnsweredOk (e, out) →
    ¬Entry.AsksTask (e, out) "goto" ∧ ¬Entry.AsksMode (e, out) "AUTO"

/-- The order that a running robot follows: an accepted goto or resume, and since then no other
one and nothing that halts it. -/
def StandingOrder (h : Node.History F) : Prop :=
  Since (fun x : Entry F => x.Starts) (fun x => ¬x.Starts ∧ ¬x.Halts) h

/-- The current task is paused: it was accepted, a pause was accepted later, and since that pause
it was neither replaced nor ended. -/
def TaskPaused (C : Type) [CFloat C] (h : Node.History F) : Prop :=
  ∃ (pre : List (Entry F)) (x : Entry F) (mid : List (Entry F)) (y : Entry F)
    (post : List (Entry F)), h = pre ++ x :: (mid ++ y :: post) ∧ x.Takes "goto" ∧
    y.Takes "pause" ∧ (∀ z : Entry F, z ∈ mid ++ y :: post → ¬z.Replaces) ∧
    ∀ post' n, post' <+: post → Node.Runs C (pre ++ x :: (mid ++ y :: post')) n → ¬n.robot.Ended

/-- No transition has come since an accepted goto, or a pause was accepted since the last one. -/
def Undisturbed (h : Node.History F) : Prop :=
  Since (fun x : Entry F => x.Takes "goto") (fun x => ¬x.Transits) h ∨
    Since (fun x : Entry F => x.Takes "pause") (fun x => ¬x.Takes "goto") h

/-- Every accepted resume finds an ongoing task that was not disturbed. -/
def ResumesOngoing (C : Type) [CFloat C] (h : Node.History F) : Prop :=
  ∀ pre x m, pre ++ [x] <+: h → Entry.Takes x "resume" → Node.Runs C pre m →
    ¬m.robot.Ended ∧ Undisturbed pre

/-- Every goto that the robot could start under an id that was executed before finds the task of
this id done. -/
def RemembersTasks (C : Type) [CFloat C] (h : Node.History F) : Prop :=
  ∀ pre x m data, pre ++ [x] <+: h → Entry.AsksTask x "goto" → x.1.call = .cmd data →
    Node.Runs C pre m → m.robot.CanStart C data →
    Since (fun y : Entry F => y.Executes (m.robot.gotoId data)) (fun y => ¬y.Forgets) pre →
    m.robot.taskId = m.robot.gotoId data ∧ m.robot.taskStatus = .done

/-- The ids that a history has used. -/
def Node.usedIds (C : Type) [CFloat C] (h : Node.History F) : List Bytes :=
  (trace (Node.step C) Node.init h).filterMap fun x => x.1.robot.usedId? x.2

/-- The last online message of the console came at `ms`. -/
def LastOnline (ms : UInt64) (h : Node.History F) : Prop :=
  Since (fun x : Entry F => x.Console true ∧ x.1.nowMs = ms) (fun x => ¬x.Console true) h

/-- The readings of the wall clock are positive and do not decrease. -/
def ClockOk (h : Node.History F) (e : Event) : Prop :=
  ((h.map fun x => x.1.nowMs) ++ [e.nowMs]).Pairwise (· ≤ ·) ∧ ∀ x ∈ h, 0 < x.1.nowMs

end BotCockpit.Sim
