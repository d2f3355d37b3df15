import BotCockpit.Bridge.Messages
import BotCockpit.Proofs.Sim.Publication
import BotCockpit.Proofs.Sim.StateMessage
import BotCockpit.Spec.Console

/-!
# `BotCockpit.Proofs.Ui.Liveness`: which robot states the console takes for a live robot

Three components have a say in `conn`: the robot derives it from the emergency stop, the phase
and the link, the bridge writes `OFFLINE` into its template, and the console takes a state that
is `OFFLINE` or `BOOT` without control for that template.

A robot in `FAULT` says `OFFLINE` and never has control. So the console takes every robot in
`FAULT` for the template (`fault_unrecognised`), and its Reset button, which lists `FAULT`, is
disabled there.

The console gets the text of `build_state_json`, and Qt reads it (`ReadsStates`). A text with a
control character may not be JSON, and one that is not UTF-8 is not read at all. `recognised_iff`
says exactly which of the legible states the console recognises.
-/

set_option autoImplicit false

namespace BotCockpit.Ui.RobotState

open BotCockpit.Lib
open BotCockpit.Sim (FakeRobot Phase PrintsDoubles Reachable)
open BotCockpit.Bridge (offlineState offlineStateJson)

section Groups

variable {F : Type} [CDouble F] [QVariants F]

/-! ### What the groups of `applyState` leave alone -/

/-- The fields that Reset depends on. -/
def resetFields (u : RobotState F) : Bool × Bytes × Bool × Bool :=
  (u.connected, u.phase, u.estop, u.hasRobotState)

/-- The navigation fields are none of those the reset counts on. -/
theorem resetFields_applyNav (map : Json) (u : RobotState F) :
    (applyNav map u).resetFields = u.resetFields := by
  unfold applyNav
  split <;> rfl

/-- Nor are the faults. -/
theorem resetFields_applyFaults (map : Json) (u : RobotState F) :
    (applyFaults map u).resetFields = u.resetFields := by
  unfold applyFaults
  split <;> rfl

/-- Nor is the task. -/
theorem resetFields_applyTask (map : Json) (u : RobotState F) :
    (applyTask map u).resetFields = u.resetFields := by
  unfold applyTask
  split <;> rfl

/-- Nor is the battery. -/
theorem resetFields_applyBattery (map : Json) (u : RobotState F) :
    (applyBattery map u).resetFields = u.resetFields := by
  unfold applyBattery
  dsimp only
  split <;> rfl

/-- Nor is the pose. -/
theorem resetFields_applyPose (map : Json) (u : RobotState F) :
    (applyPose map u).resetFields = u.resetFields := by
  unfold applyPose
  split
  · dsimp only
    split <;> rfl
  · rfl

/-- Reset depends on the link, on the flags that the message carries, and on whether the message
is taken for one of a robot. -/
theorem resetFields_applyState (map : Json) (u : RobotState F) :
    (applyState map u).resetFields =
      (u.connected, (applyFlags map u).phase, (applyFlags map u).estop, robotState F map) := by
  unfold applyState
  rw [resetFields_applyNav, resetFields_applyFaults, resetFields_applyTask]
  have hbefore : (applyBattery map (applyPose map (applyFlags map u))).resetFields =
      (applyFlags map u).resetFields := by
    rw [resetFields_applyBattery, resetFields_applyPose]
  simp only [resetFields, Prod.mk.injEq] at hbefore ⊢
  exact ⟨hbefore.1, hbefore.2.1, hbefore.2.2.1, rfl⟩

/-- Whether there is a robot is decided by the message alone. -/
theorem hasRobotState_applyState (map : Json) (u : RobotState F) :
    (applyState map u).hasRobotState = robotState F map :=
  congrArg (fun t => t.2.2.2) (resetFields_applyState map u)

/-! ### The two state messages -/

omit [CDouble F] in
/-- The template of the bridge is never taken for a robot. -/
theorem robotState_offline (nowMs : UInt64) : robotState F (offlineStateJson nowMs) = false := rfl

omit [QVariants F] in
/-- The robot says `OFFLINE` in `FAULT` and without a console, unless it is stopped. -/
theorem conn_eq_offline (r : FakeRobot F) :
    ascii r.conn = ascii "OFFLINE" ↔
      r.estop = false ∧ (r.phase = .fault ∨ r.consoleOnline = false) := by
  unfold FakeRobot.conn
  cases hestop : r.estop
  · by_cases hfault : r.phase = .fault
    · simp [hfault]
    · cases honline : r.consoleOnline
      · simp [hfault]
      · by_cases hdegraded : r.phase = .degraded <;> simp [hfault, hdegraded] <;> decide
  · simp
    decide

omit [QVariants F] in
/-- The fields of a state message that say whether there is a robot. -/
theorem find?_stateJson (nowMs : UInt64) (r : FakeRobot F) :
    (r.stateJson nowMs).find? "conn" = some (.lit r.conn) ∧
      (r.stateJson nowMs).find? "phase" = some (.lit r.phase.text) ∧
      (r.stateJson nowMs).find? "control_enabled" = some (.bool r.controlEnabled) ∧
      ∃ v, (r.stateJson nowMs).find? "battery" = some v := by
  refine ⟨?_, ?_, ?_, Sim.ossNum r.battery, ?_⟩ <;>
    simp only [FakeRobot.stateJson, Json.find?_object_cons, Json.find?_object_nil] <;>
    rfl

/-- The robots that the console can tell from the template: those with control, and outside `BOOT`
those that are stopped, or online and not in `FAULT`. -/
def Live (r : FakeRobot F) : Prop :=
  r.controlEnabled = true ∨
    r.phase ≠ .boot ∧ (r.estop = true ∨ r.consoleOnline = true ∧ r.phase ≠ .fault)

instance (r : FakeRobot F) : Decidable (Live r) := by
  unfold Live
  infer_instance

/-- A state message of the robot, as the console takes it. -/
theorem robotState_stateJson (nowMs : UInt64) (r : FakeRobot F) :
    robotState F (r.stateJson nowMs) = true ↔
      Live r := by
  -- The message has every field, so the conditions are about their values.
  obtain ⟨hconn, hphase, hcontrol, battery, hbattery⟩ := find?_stateJson nowMs r
  have hboot : ascii r.phase.text = ascii "BOOT" ↔ r.phase = .boot := by
    cases r.phase <;> simp [Phase.text] <;> decide
  simp only [robotState, contains, value, hconn, hphase, hcontrol, hbattery, Option.isSome_some,
    Live, Option.getD_some, toText, toBool, Json.lit, conn_eq_offline, hboot, true_and,
      Bool.true_or]
  cases r.controlEnabled
  · cases r.estop <;> cases r.consoleOnline <;> by_cases hfault : r.phase = .fault <;>
      by_cases hb : r.phase = .boot <;> simp_all
  · simp

/-- Reset is offered for a recognised robot in `FAULT`, on a live link. -/
theorem resetEnabled_of_fault {nowMs : UInt64} {r : FakeRobot F} (hphase : r.phase = .fault)
    (hlive : Live r) {u : RobotState F} (hlink : u.connected = true) :
    (applyState (r.stateJson nowMs) u).resetEnabled := by
  have hfields := resetFields_applyState (r.stateJson nowMs) u
  simp only [resetFields, Prod.mk.injEq] at hfields
  obtain ⟨hconnected, htext, -, hrobot⟩ := hfields
  have hfault : (applyFlags (r.stateJson nowMs) u).phase = ascii "FAULT" := by
    simp only [applyFlags, contains, value, (find?_stateJson nowMs r).2.1, Option.isSome_some,
      Option.getD_some, if_true, hphase]
    rfl
  exact ⟨hconnected.trans hlink, hrobot.trans ((robotState_stateJson nowMs r).mpr hlive),
    Or.inr (Or.inl (htext.trans hfault))⟩

end Groups

/-! ### The texts of the two messages -/

section Texts

variable {F : Type} [CDouble F] [Qt F]

/-- What is documented of `QJsonDocument::fromJson`, for the two state messages: JSON is read as
what it says, and a text that is not UTF-8 is no document. -/
structure ReadsStates (F : Type) [CDouble F] [Qt F] : Prop where
  robot : ∀ (nowMs : UInt64) (r : FakeRobot F),
    Json.parse (r.buildStateJson nowMs) = some (r.stateJson nowMs) →
      Qt.fromJson F (r.buildStateJson nowMs) = r.stateJson nowMs
  template : ∀ nowMs : UInt64, Json.parse (offlineState nowMs) = some (offlineStateJson nowMs) →
    Qt.fromJson F (offlineState nowMs) = offlineStateJson nowMs
  utf8 : ∀ text, ¬Utf8.WellFormed text → Qt.fromJson F text = .null

/-- The console after a state frame with this text. -/
def hear (text : Bytes) (u : RobotState F) : RobotState F := applyState (Qt.fromJson F text) u

/-- The strings of the robot are UTF-8 without a control character, and its numbers are finite. -/
structure Legible (r : FakeRobot F) : Prop where
  utf8 : Sim.FakeRobot.Texts Utf8.WellFormed r
  clean : r.Clean

/-- The state of a legible robot reaches the console as it is. -/
theorem hear_buildStateJson (hread : ReadsStates F) (hprint : PrintsDoubles F) {r : FakeRobot F}
    (h : Legible r) (nowMs : UInt64) (u : RobotState F) :
    hear (r.buildStateJson nowMs) u = applyState (r.stateJson nowMs) u := by
  have hparse := (Sim.FakeRobot.parse_buildStateJson hprint nowMs h.utf8).1 h.clean
  rw [hear, hread.robot nowMs r hparse]

/-- The template has plain texts only, so the two escapes are the same on it. -/
theorem parse_offlineState (nowMs : UInt64) :
    Json.parse (offlineState nowMs) = some (offlineStateJson nowMs) := by
  have hesc : offlineState nowMs = (offlineStateJson nowMs).render Sim.esc := rfl
  have hnum : ∀ n, Json.wf (.num (decimal n)) = true := fun n => by
    rw [Json.wf, decide_eq_true (Json.isNumber_decimal n), Bool.true_or]
  have hwf : Json.wf (offlineStateJson nowMs) = true := by
    simp only [offlineStateJson, Sim.FakeRobot.wf_object, List.all_cons, List.all_nil, hnum,
      Bool.and_true]
    decide
  have hleaves : ∀ {p : Json → Bool}, Sim.FakeRobot.Plain p →
      Json.allLeaves p (offlineStateJson nowMs) = true := by
    intro p hp
    have hnat : ∀ n, p (.num (decimal n)) = true := hp.nat
    have hzero : p (.num (ascii "0")) = true := by
      rw [show ascii "0" = decimal 0 by decide +kernel]
      exact hnat 0
    have hlit : ∀ s, Sim.PlainText (ascii s) → Json.allLeaves p (.lit s) = true :=
      fun s hs => hp.str _ hs
    simp only [offlineStateJson, Sim.FakeRobot.allLeaves_object, Sim.FakeRobot.allLeaves_arr,
      List.all_cons, List.all_nil, hlit "OFFLINE" (by decide), hlit "TELEOP" (by decide),
      hlit "BOOT" (by decide), hlit "NONE" (by decide)]
    simp only [Json.allLeaves, hnat, hzero, hp.null, hp.bool, Bool.and_self]
  have hbytes : Utf8.WellFormed ((offlineStateJson nowMs).render Sim.esc) :=
    Json.wellFormed_render Sim.esc_wellFormed _ hwf (hleaves Sim.FakeRobot.plain_utf8)
  rw [hesc, Json.parse_render Sim.esc_readsBack hwf hbytes,
    if_pos (hleaves Sim.FakeRobot.plain_readable)]

/-- The console hears the bridge's own message for a silent robot. -/
theorem hear_offlineState (hread : ReadsStates F) (nowMs : UInt64) (u : RobotState F) :
    hear (offlineState nowMs) u = applyState (offlineStateJson nowMs) u := by
  rw [hear, hread.template nowMs (parse_offlineState nowMs)]

/-! ### What the console recognises -/

/-- The console tells the state `r` from the template of the bridge, whatever it knew before,
and offers Reset when `r` is in `FAULT`. -/
structure Recognised (nowMs : UInt64) (r : FakeRobot F) : Prop where
  live : ∀ u : RobotState F, (hear (r.buildStateJson nowMs) u).hasRobotState = true
  template : ∀ (t : UInt64) (u : RobotState F), (hear (offlineState t) u).hasRobotState = false
  reset : r.phase = .fault → ∀ u : RobotState F, u.connected = true →
    (hear (r.buildStateJson nowMs) u).resetEnabled

/-- **Which states the console recognises.** Of the legible states these are the ones of a live
robot. A state that is not UTF-8 is never recognised. -/
theorem recognised_iff (hread : ReadsStates F) (hprint : PrintsDoubles F) (nowMs : UInt64)
    (r : FakeRobot F) :
    (Legible r → (Recognised nowMs r ↔ Live r)) ∧
      (¬Utf8.WellFormed (r.buildStateJson nowMs) → ¬Recognised nowMs r) := by
  constructor
  · intro hlegible
    have hheard := hear_buildStateJson hread hprint hlegible nowMs
    constructor
    · intro h
      have hlive := h.live {}
      rwa [hheard, hasRobotState_applyState, robotState_stateJson] at hlive
    · intro hlive
      refine ⟨fun u => ?_, fun t u => ?_, fun hphase u hlink => ?_⟩
      · rw [hheard, hasRobotState_applyState, robotState_stateJson]
        exact hlive
      · rw [hear_offlineState hread, hasRobotState_applyState, robotState_offline]
      · rw [hheard]
        exact resetEnabled_of_fault hphase hlive hlink
  · -- Qt has nothing to read, and an empty map is not from a robot.
    intro hutf8 h
    have hlive := h.live {}
    rw [hear, hread.utf8 _ hutf8, hasRobotState_applyState] at hlive
    cases hlive

omit [Qt F] in
/-- A configured robot in `FAULT` is not live. -/
theorem fault_not_live {C : Type} [CFloat C] {r : FakeRobot F} (hreach : Reachable C r)
    (hready : r.topicsReady = true) (hphase : r.phase = .fault) : ¬Live r := by
  have hcons := hreach.inv.consistent hready
  have hestop : r.estop = false := by
    by_contra h
    rcases hcons.latch (by simpa using h) with hp | hp | hp <;> simp [hphase] at hp
  have hcontrol : r.controlEnabled = false := by
    rw [hcons.controlEnabled_eq]
    simp [hphase]
  simp [Live, hcontrol, hestop, hphase]

/-- A configured robot in `FAULT` is never recognised, and Reset is never offered for it. -/
theorem fault_unrecognised (hread : ReadsStates F) (hprint : PrintsDoubles F) {C : Type} [CFloat C]
    {r : FakeRobot F} (hreach : Reachable C r) (hlegible : Legible r)
    (hready : r.topicsReady = true) (hphase : r.phase = .fault) (nowMs : UInt64)
    (u : RobotState F) : ¬(hear (r.buildStateJson nowMs) u).hasRobotState := by
  rw [hear_buildStateJson hread hprint hlegible, hasRobotState_applyState, robotState_stateJson]
  exact fault_not_live hreach hready hphase

end Texts

/-! ### A robot in FAULT that the console does not see -/

/-- The robot is brought up, and an operator injects a fault. -/
def faultEvents : List Sim.Event :=
  Sim.readyEvents ++ [⟨5, .cmd (ascii "\x7b\"seq\":1,\"cmd\":\"INJECT_FAULT\"\x7d")⟩]

/-- The run into the fault is possible. -/
theorem exec_fault :
    (exec (Sim.Node.step (F := ℚ) Exact.Cost) anyStep Sim.Node.init faultEvents).isSome =
      true := by
  decide +kernel

def faultNode : Sim.Node ℚ :=
  ((exec (Sim.Node.step Exact.Cost) anyStep Sim.Node.init faultEvents).get exec_fault).2

example : faultNode.robot.phase = .fault := by decide +kernel

/-- The reader for evaluation takes the texts that are JSON. -/
theorem readsStates_exact : ReadsStates ℚ where
  robot nowMs r h := by
    simp only [Qt.fromJson, h]
    rfl
  template nowMs h := by
    simp only [Qt.fromJson, h]
    rfl
  utf8 text h := by
    simp only [Qt.fromJson, Json.parse, if_neg h]

/-- The texts of the started robot are legible. -/
theorem legible_ready : Legible Sim.readyNode.robot :=
  ⟨by unfold Sim.FakeRobot.Texts; decide +kernel, by decide +kernel, fun _ _ => rfl, fun _ _ => rfl⟩

/-- The robot that was brought up is recognised. -/
theorem recognised_ready : Recognised 5 Sim.readyNode.robot :=
  ((recognised_iff readsStates_exact Sim.printsDoubles_exact 5 _).1 legible_ready).mpr
    (by decide +kernel)

/-- So are those of the robot with the fault. -/
theorem legible_fault : Legible faultNode.robot :=
  ⟨by unfold Sim.FakeRobot.Texts; decide +kernel, by decide +kernel, fun _ _ => rfl, fun _ _ => rfl⟩

/-- The robot is reachable, configured, online and in `FAULT`. The console takes its state for
the template and offers no Reset. -/
theorem fault_not_recognised :
    Reachable Exact.Cost faultNode.robot ∧ faultNode.robot.topicsReady = true ∧
      faultNode.robot.consoleOnline = true ∧ faultNode.robot.phase = .fault ∧
      (∀ u : RobotState ℚ,
        (hear (faultNode.robot.buildStateJson 5) u).hasRobotState = false ∧
          ¬(hear (faultNode.robot.buildStateJson 5) u).resetEnabled) ∧
      ¬Recognised 5 faultNode.robot := by
  have hreach : Reachable Exact.Cost faultNode.robot :=
    ⟨_, _, Run.of_exec (Option.some_get exec_fault).symm, rfl⟩
  have hready : faultNode.robot.topicsReady = true := by decide +kernel
  have hphase : faultNode.robot.phase = .fault := by decide +kernel
  have hdead := fault_unrecognised readsStates_exact Sim.printsDoubles_exact hreach
    legible_fault hready hphase 5
  refine ⟨hreach, hready, by decide +kernel, hphase, fun u => ⟨?_, fun h => ?_⟩, fun h => ?_⟩
  · exact Bool.eq_false_iff.mpr (hdead u)
  · exact hdead u h.2.1
  · exact hdead {} (h.live {})

end BotCockpit.Ui.RobotState
