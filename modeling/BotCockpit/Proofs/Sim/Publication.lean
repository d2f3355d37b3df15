import BotCockpit.Lib.Exact
import BotCockpit.Proofs.Sim.Invariant
import BotCockpit.Spec.Robot

/-!
# `BotCockpit.Proofs.Sim.Publication`: what the published states say

The states the robot publishes agree with its safety conditions, in the words of the protocol:
`control_enabled` is `IDLE` with a console, `IDLE` is free of faults and of the emergency stop,
and `RUNNING` is online, not stopped and without an error. A motion is only accepted by a robot
that had control.
-/

set_option autoImplicit false

namespace BotCockpit.Sim

open BotCockpit.Lib

variable {F : Type} [CDouble F] {C : Type} [CFloat C]

namespace FakeRobot

/-- Without an error condition there is no active error, and the node is not lost. -/
theorem not_activeFault_error {r : FakeRobot F} (h : r.hasErrorCondition = false) :
    ¬r.ActiveFault .error ∧ r.robotNode ≠ .error ∧ r.robotNode ≠ .lost := by
  simp only [hasErrorCondition, Bool.or_eq_false_iff, List.any_eq_false, Bool.and_eq_true,
    decide_eq_true_eq, decide_eq_false_iff_not, not_and] at h
  obtain ⟨hfaults, hnode⟩ := h
  refine ⟨?_, hnode⟩
  rintro ⟨f, hf, hactive, hlevel⟩
  exact hfaults f hf hactive hlevel

/-- Without a warning condition there is no active warning. -/
theorem not_activeFault_warn {r : FakeRobot F} (h : r.hasWarnCondition = false) :
    ¬r.ActiveFault .warn ∧ r.robotNode ≠ .warn := by
  simp only [hasWarnCondition, Bool.or_eq_false_iff, List.any_eq_false, Bool.and_eq_true,
    decide_eq_true_eq, decide_eq_false_iff_not, not_and] at h
  obtain ⟨hfaults, hnode⟩ := h
  refine ⟨?_, hnode⟩
  rintro ⟨f, hf, hactive, hlevel⟩
  exact hfaults f hf hactive hlevel

/-! ### Starting a motion -/

/-- The task command reaches its handler. -/
theorem dispatch_task {q : Request} (h : q.cmd = ascii "CMD_TASK") (r : FakeRobot F) :
    dispatch C q r = cmdTask C q r := by
  have hne : ∀ s ∈ ["CMD_ESTART", "CMD_ESTOP", "CMD_RESET", "CMD_MODE"],
      ascii "CMD_TASK" ≠ ascii s := by decide
  unfold dispatch
  rw [h, if_neg (by simp [hne]), if_neg (by simp [hne]), if_neg (by simp [hne]), if_pos rfl]

/-- A goto or resume that is answered with `ok` found the robot not blocked, and one that is
accepted found it not running. -/
theorem start_spec {q : Request} (hcmd : q.cmd = ascii "CMD_TASK")
    (htype : taskType? q = ascii "goto" ∨ taskType? q = ascii "resume") (r : FakeRobot F) :
    ∃ s res, Answers q r (dispatch C q r) s res ∧ (res.ok = true → ¬r.blocked) ∧
      (res.ok = true → res.status = .accepted → r.phase ≠ .running) := by
  rw [dispatch_task hcmd]
  have hpause : taskType? q ≠ ascii "pause" := by
    rcases htype with h | h <;> rw [h] <;> decide
  have hcancel : taskType? q ≠ ascii "cancel" := by
    rcases htype with h | h <;> rw [h] <;> decide
  refine cmdTask_cases (P := fun h => ∃ s res, Answers q r h s res ∧
    (res.ok = true → ¬r.blocked) ∧
    (res.ok = true → res.status = .accepted → r.phase ≠ .running))
    (fun _ h => absurd h hpause) (fun h => absurd h hcancel) (fun taskId _ hb => ?_)
    (fun taskId _ hb => ?_) (fun reason taskId _ _ => ?_)
  · obtain ⟨s, res, ha, -, -, hcase⟩ := taskGoto_spec C q taskId r hb
    refine ⟨s, res, ha, fun _ => hb, fun hok _ => ?_⟩
    rcases hcase with ⟨-, -, hno⟩ | ⟨hnot, -⟩
    · simp [hno] at hok
    · exact hnot
  · obtain ⟨s, res, ha, -, -, hcase⟩ := taskResume_spec q taskId r
    refine ⟨s, res, ha, fun _ => hb, fun hok _ => ?_⟩
    rcases hcase with ⟨hno, -⟩ | ⟨-, -, hidle⟩
    · simp [hno] at hok
    · rw [hidle]
      exact Phase.noConfusion
  · exact ⟨_, _, answers_reject q r reason taskId, fun h => Bool.noConfusion h,
      fun h => Bool.noConfusion h⟩

/-- What a callback did with a command message. -/
theorem handle_cmd {r s : FakeRobot F} {e : Event} {data : Bytes} {out : List (Output F)}
    (hcall : e.call = .cmd data) (h : handle C r e = some (s, out)) :
    r.topicsReady = true ∧ onCmd C e.nowMs data r = (s, out) := by
  unfold handle at h
  simp only [hcall] at h
  split at h
  · exact ⟨‹_›, Option.some.inj h⟩
  · cases h

/-- The request that a task message makes. -/
theorem asksTask_request {x : Entry F} {type : String} (h : x.AsksTask type) :
    ∃ data q, x.1.call = .cmd data ∧ request? F x.1.nowMs data = some q ∧
      q.cmd = ascii "CMD_TASK" ∧ taskType? q = ascii type := by
  obtain ⟨data, hcall, hcmd, htype⟩ := h
  exact ⟨data, _, hcall, by simp [request?, hcmd]; rfl, rfl, by simp [taskType?, htype]⟩

/-- A motion is only accepted by a robot that has control. -/
theorem handle_start {r s : FakeRobot F} {e : Event} {out : List (Output F)} (hinv : Inv r)
    (h : handle C r e = some (s, out)) (hstart : Entry.Starts (e, out)) :
    r.controlEnabled = true := by
  obtain ⟨hasks, res', hres', hok, hacc⟩ := hstart
  obtain ⟨data, q, hcall, hq, hcmd, htype⟩ :
      ∃ data q, e.call = .cmd data ∧ request? F e.nowMs data = some q ∧
        q.cmd = ascii "CMD_TASK" ∧ (taskType? q = ascii "goto" ∨ taskType? q = ascii "resume") := by
    rcases hasks with hasks | hasks
    · obtain ⟨data, q, hcall, hq, hcmd, htype⟩ := asksTask_request hasks
      exact ⟨data, q, hcall, hq, hcmd, Or.inl htype⟩
    · obtain ⟨data, q, hcall, hq, hcmd, htype⟩ := asksTask_request hasks
      exact ⟨data, q, hcall, hq, hcmd, Or.inr htype⟩
  obtain ⟨hready, honcmd⟩ := handle_cmd hcall h
  simp only [onCmd_eq, hq] at honcmd
  obtain ⟨t, res, ha, hblocked, hrun⟩ := start_spec (C := C) hcmd htype r
  rw [honcmd] at ha
  obtain ⟨-, rfl⟩ := ha.mem_result.mp hres'
  have hcons := hinv.consistent hready
  obtain ⟨-, honline, hidle⟩ := idle_of_not_blocked hcons (hblocked hok) (hrun hok hacc)
  exact hcons.control.mpr ⟨hidle, honline⟩

end FakeRobot

open FakeRobot

/-- **Published phase and control are consistent.** In every run, every published state has
control exactly in `IDLE` with a console, `IDLE` excludes the emergency stop and every active
ERROR or WARN condition, and `RUNNING` is online, not stopped and without an active ERROR.
A goto or resume is accepted only by a robot that had control when the command arrived. -/
theorem published_phase_and_control {h : Node.History F} {n : Node F}
    (hrun : Node.Runs C h n) :
    (∀ x ∈ h, ∀ t r, Output.state t r ∈ x.2 →
      (r.controlEnabled = true ↔ r.phase = .idle ∧ r.consoleOnline = true) ∧
      (r.phase = .idle → r.estop = false ∧ ¬r.ActiveFault .error ∧ ¬r.ActiveFault .warn ∧
        r.robotNode ≠ .error ∧ r.robotNode ≠ .warn ∧ r.robotNode ≠ .lost) ∧
      (r.phase = .running → r.estop = false ∧ r.consoleOnline = true ∧
        ¬r.ActiveFault .error)) ∧
    (∀ e m out, Node.step C n e = some (m, out) → Entry.Starts (e, out) →
      n.robot.controlEnabled = true) := by
  refine ⟨fun x hx t r hr => ?_, fun e m out hstep hstart => ?_⟩
  · have hcons := runs_published hrun x hx t r hr
    refine ⟨hcons.control, fun hidle => ?_, fun hrunning => ?_⟩
    · obtain ⟨hestop, herr, hwarn⟩ := hcons.idle hidle
      obtain ⟨hfault, hnode, hlost⟩ := not_activeFault_error herr
      obtain ⟨hfault', hnode'⟩ := not_activeFault_warn hwarn
      exact ⟨hestop, hfault, hfault', hnode, hnode', hlost⟩
    · obtain ⟨hestop, honline, herr⟩ := hcons.running hrunning
      exact ⟨hestop, honline, (not_activeFault_error herr).1⟩
  · exact handle_start hrun.inv (Node.step_handle hstep) hstart

/-! ### A run to a robot with control -/

/-- The robot of an output. -/
def Output.state? : Output F → Option (FakeRobot F)
  | .state _ r => some r
  | .result _ => none

/-- A state that was published. -/
theorem exists_state {out : List (Output F)} {r : FakeRobot F}
    (h : r ∈ out.filterMap Output.state?) : ∃ t, Output.state t r ∈ out := by
  obtain ⟨o, ho, hr⟩ := List.mem_filterMap.mp h
  cases o with
  | result res => cases hr
  | state t u =>
      rw [← Option.some.inj hr]
      exact ⟨t, ho⟩

/-- The callbacks that bring a robot up: configuration, activation, the console, and a tick after
the start-up pause. -/
def readyEvents : List Event :=
  [⟨1, .configure⟩, ⟨2, .activate 0⟩, ⟨3, .console (ascii "\x7b\"online\":true\x7d")⟩,
    ⟨4, .tick 600000000 1⟩]

/-- The start-up runs through. -/
theorem exec_ready :
    (exec (Node.step (F := ℚ) Exact.Cost) anyStep Node.init readyEvents).isSome = true := by
  decide +kernel

/-- The history of these callbacks. -/
def readyHistory : Node.History ℚ :=
  ((exec (Node.step Exact.Cost) anyStep Node.init readyEvents).get exec_ready).1

/-- The node after these callbacks. -/
def readyNode : Node ℚ :=
  ((exec (Node.step Exact.Cost) anyStep Node.init readyEvents).get exec_ready).2

/-- It is a run of the node. -/
theorem runs_ready : Node.Runs Exact.Cost readyHistory readyNode :=
  Run.of_exec (Option.some_get exec_ready).symm

example : readyNode.robot.phase = .idle := by decide +kernel

/-- The robot that was brought up has control, and all it has published is consistent. -/
theorem published_phase_and_control_ready :
    readyNode.robot.controlEnabled = true ∧
      ∀ x ∈ readyHistory, ∀ t r, Output.state t r ∈ x.2 →
        (r.controlEnabled = true ↔ r.phase = .idle ∧ r.consoleOnline = true) :=
  ⟨by decide +kernel, fun x hx t r hr => ((published_phase_and_control runs_ready).1 x hx t r hr).1⟩

end BotCockpit.Sim
