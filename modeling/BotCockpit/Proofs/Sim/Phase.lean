import BotCockpit.Sim.Lifecycle

/-!
# `BotCockpit.Proofs.Sim.Phase`: phase and control agree with the safety conditions

`Consistent` is the invariant that ties `phase_` and `control_enabled_` to the emergency stop,
the faults and the console link. `recompute_consistent` is the main lemma: recomputing
establishes it, whatever the state was, as long as a running robot has its console. So a
callback that ends with the recomputation keeps the invariant without a look at its other
branches, and only the callbacks that write the phase themselves need an argument.
-/

set_option autoImplicit false

namespace BotCockpit.Sim

open BotCockpit.Lib

variable {F : Type} [CDouble F]

/-- `P` holds of the state after a callback and of every state the callback published. -/
def Throughout (P : FakeRobot F → Prop) (h : FakeRobot F × List (Output F)) : Prop :=
  P h.1 ∧ ∀ nowMs r, Output.state nowMs r ∈ h.2 → P r

namespace FakeRobot

/-! ### The recomputation -/

/-- What the recomputation does, case by case: emergency stop, start-up, fault, warning, and a
clear robot that runs or does not. -/
theorem recompute_cases (r : FakeRobot F) :
    (r.estop = true ∧
      recomputePhaseAndControl r = { r with phase := .estop, controlEnabled := false }) ∨
    (r.estop = false ∧ (r.phase = .boot ∨ r.phase = .initializing) ∧
      recomputePhaseAndControl r = { r with controlEnabled := false }) ∨
    (r.estop = false ∧ r.hasErrorCondition = true ∧
      recomputePhaseAndControl r =
        { r with
          taskStatus := if r.phase = .running then .failed else r.taskStatus
          phase := .fault, controlEnabled := false, robotNode := .error }) ∨
    (r.estop = false ∧ r.hasErrorCondition = false ∧ r.hasWarnCondition = true ∧
      recomputePhaseAndControl r =
        { r with
          phase := if r.phase = .running then .running else .degraded
          controlEnabled := false, robotNode := .warn }) ∨
    (r.estop = false ∧ r.hasErrorCondition = false ∧ r.hasWarnCondition = false ∧
      r.phase = .running ∧
      recomputePhaseAndControl r = { r with robotNode := .ok, controlEnabled := false }) ∨
    (r.estop = false ∧ r.hasErrorCondition = false ∧ r.hasWarnCondition = false ∧
      r.phase ≠ .running ∧
      recomputePhaseAndControl r =
        { r with robotNode := .ok, phase := .idle, controlEnabled := r.consoleOnline }) := by
  by_cases hestop : r.estop = true
  · exact Or.inl ⟨hestop, by simp [recomputePhaseAndControl, hestop]⟩
  · have hestop' : r.estop = false := by simpa using hestop
    refine Or.inr ?_
    by_cases hstart : r.phase = .boot ∨ r.phase = .initializing
    · exact Or.inl ⟨hestop', hstart, by simp [recomputePhaseAndControl, hestop', hstart]⟩
    · refine Or.inr ?_
      by_cases herr : r.hasErrorCondition = true
      · exact Or.inl ⟨hestop', herr,
          by simp [recomputePhaseAndControl, hestop', hstart, herr]⟩
      · have herr' : r.hasErrorCondition = false := by simpa using herr
        refine Or.inr ?_
        by_cases hwarn : r.hasWarnCondition = true
        · exact Or.inl ⟨hestop', herr', hwarn,
            by simp [recomputePhaseAndControl, hestop', hstart, herr', hwarn]⟩
        · have hwarn' : r.hasWarnCondition = false := by simpa using hwarn
          refine Or.inr ?_
          -- Setting the node to `OK` keeps both conditions false.
          have hfaults := herr'
          have hfaults' := hwarn'
          simp only [hasErrorCondition, hasWarnCondition, Bool.or_eq_false_iff] at hfaults hfaults'
          cases hphase : r.phase with
          | boot => exact absurd (Or.inl hphase) hstart
          | initializing => exact absurd (Or.inr hphase) hstart
          | running =>
              exact Or.inl ⟨hestop', herr', hwarn', rfl,
                by simp [recomputePhaseAndControl, hestop', hphase, herr', hwarn']⟩
          | idle | degraded | fault | estop =>
              refine Or.inr ⟨hestop', herr', hwarn', by simp, ?_⟩
              simp [recomputePhaseAndControl, hestop', hphase, hasErrorCondition,
                hasWarnCondition, hfaults.1, hfaults'.1, hfaults.2, hfaults'.2]

/-- The recomputation only writes phase, control, task status and the robot's own node. -/
theorem recompute_frame (r : FakeRobot F) :
    ∃ phase control status node, recomputePhaseAndControl r =
      { r with phase := phase, controlEnabled := control, taskStatus := status,
               robotNode := node } := by
  rcases recompute_cases r with ⟨-, h⟩ | ⟨-, -, h⟩ | ⟨-, -, h⟩ | ⟨-, -, -, h⟩ | ⟨-, -, -, -, h⟩ |
    ⟨-, -, -, -, h⟩
  all_goals exact ⟨_, _, _, _, h⟩

/-- The recomputation keeps the latch. -/
@[simp] theorem recompute_estop (r : FakeRobot F) :
    (recomputePhaseAndControl r).estop = r.estop := by
  obtain ⟨_, _, _, _, h⟩ := recompute_frame r
  rw [h]

/-- It keeps what is known of the console. -/
@[simp] theorem recompute_consoleOnline (r : FakeRobot F) :
    (recomputePhaseAndControl r).consoleOnline = r.consoleOnline := by
  obtain ⟨_, _, _, _, h⟩ := recompute_frame r
  rw [h]

/-- It keeps the life cycle of the node. -/
@[simp] theorem recompute_active (r : FakeRobot F) :
    (recomputePhaseAndControl r).active = r.active := by
  obtain ⟨_, _, _, _, h⟩ := recompute_frame r
  rw [h]

/-- It keeps the mode. -/
@[simp] theorem recompute_mode (r : FakeRobot F) :
    (recomputePhaseAndControl r).mode = r.mode := by
  obtain ⟨_, _, _, _, h⟩ := recompute_frame r
  rw [h]

/-- It keeps the publishers. -/
@[simp] theorem recompute_topicsReady (r : FakeRobot F) :
    (recomputePhaseAndControl r).topicsReady = r.topicsReady := by
  obtain ⟨_, _, _, _, h⟩ := recompute_frame r
  rw [h]

/-- It keeps the time of the console's last message. -/
@[simp] theorem recompute_lastConsoleMs (r : FakeRobot F) :
    (recomputePhaseAndControl r).lastConsoleMs = r.lastConsoleMs := by
  obtain ⟨_, _, _, _, h⟩ := recompute_frame r
  rw [h]

/-- It does not move the robot. -/
@[simp] theorem pose_recompute (r : FakeRobot F) :
    (recomputePhaseAndControl r).pose = r.pose := by
  obtain ⟨_, _, _, _, h⟩ := recompute_frame r
  rw [h]
  rfl

/-- The recomputation never starts a motion. -/
theorem recompute_phase_running {r : FakeRobot F}
    (h : (recomputePhaseAndControl r).phase = .running) : r.phase = .running := by
  rcases recompute_cases r with ⟨-, hr⟩ | ⟨-, hstart, hr⟩ | ⟨-, -, hr⟩ | ⟨-, -, -, hr⟩ |
    ⟨-, -, -, hrun, -⟩ | ⟨-, -, -, -, hr⟩
  · simp [hr] at h
  · simpa [hr] using h
  · simp [hr] at h
  · by_contra hne
    simp [hr, hne] at h
  · exact hrun
  · simp [hr] at h

/-- Under the emergency stop the recomputation takes control away. -/
theorem recompute_control_of_estop {r : FakeRobot F} (h : r.estop = true) :
    (recomputePhaseAndControl r).controlEnabled = false := by
  simp [recomputePhaseAndControl, h]

/-- The recomputation ends in `FAULT` only for an error, which it leaves in place. -/
theorem recompute_fault {r : FakeRobot F} (h : (recomputePhaseAndControl r).phase = .fault) :
    (recomputePhaseAndControl r).hasErrorCondition = true := by
  rcases recompute_cases r with ⟨-, hr⟩ | ⟨-, hstart, hr⟩ | ⟨-, -, hr⟩ | ⟨-, -, -, hr⟩ |
    ⟨-, -, -, hrun, hr⟩ | ⟨-, -, -, -, hr⟩
  · simp [hr] at h
  · rcases hstart with hs | hs <;> simp [hr, hs] at h
  · simp [hr, hasErrorCondition]
  · simp only [hr] at h
    split at h <;> cases h
  · simp [hr, hrun] at h
  · simp [hr] at h

/-! ### The invariant -/

/-- Phase and control agree with the emergency stop, the faults and the console link. -/
structure Consistent (r : FakeRobot F) : Prop where
  control : r.controlEnabled = true ↔ r.phase = .idle ∧ r.consoleOnline = true
  idle : r.phase = .idle →
    r.estop = false ∧ r.hasErrorCondition = false ∧ r.hasWarnCondition = false
  running : r.phase = .running →
    r.estop = false ∧ r.consoleOnline = true ∧ r.hasErrorCondition = false
  latch : r.estop = true → r.phase = .estop ∨ r.phase = .initializing ∨ r.phase = .boot
  locked : r.phase = .estop → r.estop = true

/-- **Recomputing establishes the invariant**, when a running robot has its console. -/
theorem recompute_consistent {r : FakeRobot F}
    (hrun : r.phase = .running → r.consoleOnline = true) :
    Consistent (recomputePhaseAndControl r) := by
  rcases recompute_cases r with ⟨he, h⟩ | ⟨he, hstart, h⟩ | ⟨he, herr, h⟩ |
    ⟨he, herr, hwarn, h⟩ | ⟨he, herr, hwarn, hphase, h⟩ | ⟨he, herr, hwarn, hphase, h⟩
  · rw [h]
    constructor <;> simp [he]
  · rw [h]
    rcases hstart with hs | hs <;> constructor <;> simp [hs, he]
  · rw [h]
    constructor <;> simp [he]
  · -- A warning leaves a running robot running, and nothing else.
    rw [h]
    simp only [hasErrorCondition, Bool.or_eq_false_iff] at herr
    by_cases hr : r.phase = .running
    · constructor <;> simp [hr, he, hrun hr, hasErrorCondition, herr.1]
    · constructor <;> simp [hr, he]
  · rw [h]
    simp only [hasErrorCondition, Bool.or_eq_false_iff] at herr
    constructor <;> simp [hphase, he, hrun hphase, hasErrorCondition, herr.1]
  · rw [h]
    simp only [hasErrorCondition, hasWarnCondition, Bool.or_eq_false_iff] at herr hwarn
    constructor <;> simp [he, hasErrorCondition, hasWarnCondition, herr.1, hwarn.1]

/-- A consistent robot that is idle and online has control, and no other has. -/
theorem Consistent.controlEnabled_eq {r : FakeRobot F} (h : Consistent r) :
    r.controlEnabled = (decide (r.phase = .idle) && r.consoleOnline) := by
  rw [Bool.eq_iff_iff, h.control]
  simp

/-! ### Frames -/

/-- The two states agree on every field that the safety rules read or write. -/
structure SameSafety (r s : FakeRobot F) : Prop where
  phase : s.phase = r.phase
  control : s.controlEnabled = r.controlEnabled
  estop : s.estop = r.estop
  online : s.consoleOnline = r.consoleOnline
  faults : s.faults = r.faults
  node : s.robotNode = r.robotNode
  mode : s.mode = r.mode
  active : s.active = r.active
  ready : s.topicsReady = r.topicsReady
  lastConsole : s.lastConsoleMs = r.lastConsoleMs

/-- A state has its own safety fields. -/
theorem SameSafety.refl (r : FakeRobot F) : SameSafety r r :=
  ⟨rfl, rfl, rfl, rfl, rfl, rfl, rfl, rfl, rfl, rfl⟩

/-- The safety fields of two steps, one after the other. -/
theorem SameSafety.trans {r s t : FakeRobot F} (h₁ : SameSafety r s) (h₂ : SameSafety s t) :
    SameSafety r t := by
  constructor
  · exact h₂.phase.trans h₁.phase
  · exact h₂.control.trans h₁.control
  · exact h₂.estop.trans h₁.estop
  · exact h₂.online.trans h₁.online
  · exact h₂.faults.trans h₁.faults
  · exact h₂.node.trans h₁.node
  · exact h₂.mode.trans h₁.mode
  · exact h₂.active.trans h₁.active
  · exact h₂.ready.trans h₁.ready
  · exact h₂.lastConsole.trans h₁.lastConsole

/-- The error condition reads the faults and the node's own status. -/
theorem hasErrorCondition_congr {r s : FakeRobot F} (hfaults : s.faults = r.faults)
    (hnode : s.robotNode = r.robotNode) : s.hasErrorCondition = r.hasErrorCondition := by
  simp [hasErrorCondition, hfaults, hnode]

/-- The invariant reads nothing else. -/
theorem Consistent.of_same {r s : FakeRobot F} (h : Consistent r) (hs : SameSafety r s) :
    Consistent s := by
  have herr := hasErrorCondition_congr hs.faults hs.node
  have hwarn : s.hasWarnCondition = r.hasWarnCondition := by
    simp [hasWarnCondition, hs.faults, hs.node]
  constructor
  · rw [hs.control, hs.phase, hs.online]
    exact h.control
  · rw [hs.phase, hs.estop, herr, hwarn]
    exact h.idle
  · rw [hs.phase, hs.estop, hs.online, herr]
    exact h.running
  · rw [hs.estop, hs.phase]
    exact h.latch
  · rw [hs.estop, hs.phase]
    exact h.locked

/-- `s` comes after `r` without a start: the flags that only a message or a lifecycle callback
writes are the same, and the robot is neither newly running nor newly online. -/
structure NoStart (r s : FakeRobot F) : Prop where
  estop : s.estop = r.estop
  mode : s.mode = r.mode
  active : s.active = r.active
  ready : s.topicsReady = r.topicsReady
  lastConsole : s.lastConsoleMs = r.lastConsoleMs
  online : s.consoleOnline = true → r.consoleOnline = true
  running : s.phase = .running → r.phase = .running

/-- A step that keeps the safety fields starts no motion. -/
theorem SameSafety.noStart {r s : FakeRobot F} (h : SameSafety r s) : NoStart r s := by
  constructor
  · exact h.estop
  · exact h.mode
  · exact h.active
  · exact h.ready
  · exact h.lastConsole
  · rw [h.online]
    exact id
  · rw [h.phase]
    exact id

/-- Two steps that start no motion start none together. -/
theorem NoStart.trans {r s t : FakeRobot F} (h₁ : NoStart r s) (h₂ : NoStart s t) :
    NoStart r t := by
  constructor
  · exact h₂.estop.trans h₁.estop
  · exact h₂.mode.trans h₁.mode
  · exact h₂.active.trans h₁.active
  · exact h₂.ready.trans h₁.ready
  · exact h₂.lastConsole.trans h₁.lastConsole
  · exact h₁.online ∘ h₂.online
  · exact h₁.running ∘ h₂.running

/-- The recomputation starts no motion. -/
theorem recompute_noStart (r : FakeRobot F) : NoStart r (recomputePhaseAndControl r) := by
  constructor
  · exact recompute_estop r
  · exact recompute_mode r
  · exact recompute_active r
  · exact recompute_topicsReady r
  · exact recompute_lastConsoleMs r
  · rw [recompute_consoleOnline]
    exact id
  · exact recompute_phase_running

/-! ### The safety stop -/

/-- A consistent robot without a console has no control, so switching control off in that case
changes nothing. -/
theorem Consistent.offline_same {r : FakeRobot F} (h : Consistent r) :
    SameSafety r (if r.consoleOnline then r else { r with controlEnabled := false }) := by
  by_cases honline : r.consoleOnline = true
  · rw [if_pos honline]
    exact SameSafety.refl r
  · have hcontrol : r.controlEnabled = false := by
      rw [h.controlEnabled_eq]
      simp [honline]
    rw [if_neg honline]
    exact ⟨rfl, hcontrol.symm, rfl, rfl, rfl, rfl, rfl, rfl, rfl, rfl⟩

/-- A state message holds the state it was published in. -/
theorem mem_publishState {nowMs nowMs' : UInt64} {r s : FakeRobot F}
    (h : Output.state nowMs' s ∈ publishState nowMs r) : s = r := by
  unfold publishState at h
  split at h
  · simp only [List.mem_singleton, Output.state.injEq] at h
    exact h.2
  · cases h

/-- What holds of the state holds of it when it is published. -/
theorem throughout_published {P : FakeRobot F → Prop} {nowMs : UInt64} {r : FakeRobot F} (h : P r) :
    Throughout P (r, publishState nowMs r) := by
  refine ⟨h, fun t u hu => ?_⟩
  rw [mem_publishState hu]
  exact h

/-- A published state is no answer. -/
theorem result_not_mem_publishState {nowMs : UInt64} {r : FakeRobot F} {res : CmdResult} :
    Output.result res ∉ publishState nowMs r := by
  unfold publishState
  split <;> simp

/-- A result is not a state message. -/
theorem not_mem_publishCmdResult {nowMs : UInt64} {r s : FakeRobot F} {res : CmdResult} :
    Output.state nowMs s ∉ publishCmdResult r res := by
  unfold publishCmdResult
  split <;> simp

/-- After a safety stop the robot is consistent, as is the state it published, and it does not
run. -/
theorem applySafetyStop_spec (nowMs : UInt64) (r : FakeRobot F) :
    Throughout Consistent (applySafetyStop nowMs r) ∧ NoStart r (applySafetyStop nowMs r).1 ∧
      (applySafetyStop nowMs r).1.phase ≠ .running ∧
      (applySafetyStop nowMs r).1.pose = r.pose := by
  let stopped : FakeRobot F := { r with
    taskStatus := r.taskStatus.failOngoing
    phase := if r.phase = .running then .idle else r.phase
    taskType := .none }
  have hnotrunning : stopped.phase ≠ .running := by
    show (if r.phase = .running then Phase.idle else r.phase) ≠ .running
    split
    · simp
    · assumption
  have hcons : Consistent (recomputePhaseAndControl stopped) :=
    recompute_consistent fun h => absurd h hnotrunning
  have hfinal := hcons.of_same hcons.offline_same
  have hstart : NoStart r stopped :=
    ⟨rfl, rfl, rfl, rfl, rfl, id, fun h => absurd h hnotrunning⟩
  have hafter := (recompute_noStart stopped).trans hcons.offline_same.noStart
  refine ⟨⟨hfinal, fun nowMs' s hs => ?_⟩, hstart.trans hafter, fun h => ?_, ?_⟩
  · rw [mem_publishState hs]
    exact hfinal
  · exact hnotrunning (hafter.running h)
  · show (if (recomputePhaseAndControl stopped).consoleOnline then recomputePhaseAndControl stopped
      else { recomputePhaseAndControl stopped with controlEnabled := false }).pose = r.pose
    split <;> exact pose_recompute stopped

end FakeRobot

end BotCockpit.Sim
