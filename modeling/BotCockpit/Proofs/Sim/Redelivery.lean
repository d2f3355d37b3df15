import BotCockpit.Proofs.Sim.Outcome
import BotCockpit.Proofs.Sim.Publication

/-!
# `BotCockpit.Proofs.Sim.Redelivery`: the same message twice

A sender repeats a command until it sees an answer, so a command may arrive twice. One lemma for
each handler says that the second time changes nothing. Most rest on `recompute_idem`, and the
ones that start a motion on what the first time leaves: a robot that runs, or one that an error
blocks. `redelivery_harmless` holds in every state, reachable or not.

The two arrivals are read at two times. The clock goes into what is published and not into the
state, so the second request is the first one with another `nowMs`.
-/

set_option autoImplicit false

namespace BotCockpit.Sim

open BotCockpit.Lib

variable {F : Type} [CDouble F] {C : Type} [CFloat C]

namespace FakeRobot

/-! ### The recomputation -/

/-- Recomputing twice is recomputing once, whatever control was set to in between. -/
theorem recompute_setControl (r : FakeRobot F) (b : Bool) :
    recomputePhaseAndControl { recomputePhaseAndControl r with controlEnabled := b } =
      recomputePhaseAndControl r := by
  rcases recompute_cases r with ⟨he, hr⟩ | ⟨he, hstart, hr⟩ | ⟨he, herr, hr⟩ |
    ⟨he, herr, hwarn, hr⟩ | ⟨he, herr, hwarn, hrun, hr⟩ | ⟨he, herr, hwarn, hnot, hr⟩
  · rw [hr]
    simp [recomputePhaseAndControl, he]
  · rw [hr]
    simp [recomputePhaseAndControl, he, hstart]
  · rw [hr]
    simp [recomputePhaseAndControl, hasErrorCondition, he]
  · -- The warning is still there, now also at the node, and no error.
    rw [hr]
    simp only [hasErrorCondition, Bool.or_eq_false_iff] at herr
    by_cases hrun : r.phase = .running <;>
      simp [recomputePhaseAndControl, hasErrorCondition, hasWarnCondition, he, herr.1, hrun]
  · rw [hr]
    simp only [hasErrorCondition, hasWarnCondition, Bool.or_eq_false_iff] at herr hwarn
    simp [recomputePhaseAndControl, hasErrorCondition, hasWarnCondition, he, herr.1, hwarn.1, hrun]
  · rw [hr]
    simp only [hasErrorCondition, hasWarnCondition, Bool.or_eq_false_iff] at herr hwarn
    simp [recomputePhaseAndControl, hasErrorCondition, hasWarnCondition, he, herr.1, hwarn.1]

/-- A second recomputation finds its own result. -/
theorem recompute_idem (r : FakeRobot F) :
    recomputePhaseAndControl (recomputePhaseAndControl r) = recomputePhaseAndControl r :=
  recompute_setControl r (recomputePhaseAndControl r).controlEnabled

/-- A robot that does not run keeps the status of its task. -/
theorem recompute_taskStatus {r : FakeRobot F} (h : r.phase ≠ .running) :
    (recomputePhaseAndControl r).taskStatus = r.taskStatus := by
  rcases recompute_cases r with ⟨-, hr⟩ | ⟨-, -, hr⟩ | ⟨-, -, hr⟩ | ⟨-, -, -, hr⟩ |
    ⟨-, -, -, -, hr⟩ | ⟨-, -, -, -, hr⟩
  all_goals simp [hr, h]

/-- An error puts a robot that is up and not stopped into `FAULT`. -/
theorem recompute_phase_fault {r : FakeRobot F} (hestop : r.estop = false)
    (hboot : r.phase ≠ .boot) (hinit : r.phase ≠ .initializing)
    (herr : r.hasErrorCondition = true) : (recomputePhaseAndControl r).phase = .fault := by
  simp [recomputePhaseAndControl, hestop, hboot, hinit, herr]

/-! ### One lemma for each handler -/

/-- A task that is failed twice is failed. -/
theorem failOngoing_idem (s : TaskStatus) : s.failOngoing.failOngoing = s.failOngoing := by
  cases s <;> rfl

/-- A second emergency stop finds the robot stopped. -/
theorem cmdEstop_again (q q' : Request) (r : FakeRobot F) :
    (cmdEstop q' (cmdEstop q r).1).1 = (cmdEstop q r).1 := by
  unfold cmdEstop
  dsimp only
  by_cases hlisted : r.faults.any (fun f => f.code = .estopActive) = true
  · simp [hlisted, replyAndPublish, failOngoing_idem]
  · simp [hlisted, replyAndPublish, failOngoing_idem]

/-- A second RESET finds nothing to reset, or is refused like the first. -/
theorem cmdReset_again {q q' : Request} (hdata : q'.data = q.data) (r : FakeRobot F) :
    (cmdReset q' (cmdReset q r).1).1 = (cmdReset q r).1 := by
  by_cases hconfirm : extractBool q.data "confirm" = some true
  · have hconfirm' : extractBool q'.data "confirm" = some true := by rw [hdata, hconfirm]
    cases hblock : r.hasBlocking with
    | true =>
        rw [cmdReset_blocked hconfirm hblock]
        show (cmdReset q' r).1 = r
        rw [cmdReset_blocked hconfirm' hblock]
        rfl
    | false =>
        have hblock' : (resetState r).hasBlocking = false := rfl
        rw [cmdReset_accepted hconfirm hblock]
        show (cmdReset q' (resetState r)).1 = resetState r
        rw [cmdReset_accepted hconfirm' hblock']
        rfl
  · rw [cmdReset_unconfirmed r hconfirm]
    show (cmdReset q' r).1 = r
    rw [cmdReset_unconfirmed r (by rwa [hdata])]
    rfl

/-- A change of mode in closed form. -/
theorem cmdMode_state (q : Request) (r : FakeRobot F) :
    (cmdMode q r).1 = match (extractString q.data "mode").bind modeOf with
      | none => r
      | some mode => if mode = .auto ∧ r.blocked then r else { r with mode := mode } := by
  unfold cmdMode
  cases (extractString q.data "mode").bind modeOf with
  | none => rfl
  | some mode =>
      dsimp only
      split <;> rfl

/-- A second change to the mode the robot has by now. -/
theorem cmdMode_again {q q' : Request} (hdata : q'.data = q.data) (r : FakeRobot F) :
    (cmdMode q' (cmdMode q r).1).1 = (cmdMode q r).1 := by
  rw [cmdMode_state q', hdata, cmdMode_state q]
  cases (extractString q.data "mode").bind modeOf with
  | none => rfl
  | some mode =>
      by_cases hblocked : mode = .auto ∧ r.blocked
      · simp [hblocked]
      · -- The mode is not among what blocks.
        have hsame : ({ r with mode := mode } : FakeRobot F).blocked ↔ r.blocked := Iff.rfl
        simp [hblocked, hsame]

/-- A pause that finds the robot not running leaves the state alone. -/
theorem taskPause_idle (q : Request) (taskId : Bytes) {r : FakeRobot F} (h : r.phase ≠ .running) :
    (taskPause q taskId r).1 = r := by
  unfold taskPause
  rw [if_neg h]
  rfl

/-- A second pause finds no task running. -/
theorem taskPause_again (q q' : Request) (taskId : Bytes) (r : FakeRobot F) :
    (taskPause q' taskId (taskPause q taskId r).1).1 = (taskPause q taskId r).1 := by
  obtain ⟨s, res, ha, -, -, hnot⟩ := taskPause_spec q taskId r
  rw [← ha.state] at hnot
  exact taskPause_idle q' taskId hnot

/-- A second cancel finds no task. -/
theorem taskCancel_again (q q' : Request) (r : FakeRobot F) :
    (taskCancel q' (taskCancel q r).1).1 = (taskCancel q r).1 := by
  let cancelled (r : FakeRobot F) : FakeRobot F := { r with
    taskStatus := .none
    taskId := []
    taskType := .none
    navPath := []
    navStatus := .idle
    stuckS := 0.0
    stuckCount := 0
    phase := if r.phase = .running then .idle else r.phase }
  have heq : ∀ (q : Request) r, (taskCancel q r).1 = recomputePhaseAndControl (cancelled r) :=
    fun _ _ => rfl
  have hnot : (cancelled r).phase ≠ .running := by
    show (if r.phase = .running then Phase.idle else r.phase) ≠ .running
    split
    · exact Phase.noConfusion
    · assumption
  -- What the recomputation leaves is cancelled already.
  have hfixed : cancelled (recomputePhaseAndControl (cancelled r)) =
      recomputePhaseAndControl (cancelled r) := by
    have hstatus := recompute_taskStatus hnot
    have hphase : (recomputePhaseAndControl (cancelled r)).phase ≠ .running :=
      fun h => hnot (recompute_phase_running h)
    obtain ⟨phase, control, status, node, hr⟩ := recompute_frame (cancelled r)
    rw [hr] at hstatus hphase ⊢
    have hstatus' : status = .none := hstatus
    have hphase' : ¬phase = .running := hphase
    simp [cancelled, hstatus', hphase']
  rw [heq q, heq q', hfixed, recompute_idem]

/-- What a goto with an id leaves: the same state, or a robot that is blocked or runs. -/
theorem taskGoto_leaves (q : Request) {taskId : Bytes} (hid : taskId ≠ []) {r : FakeRobot F}
    (hfree : ¬r.blocked) :
    (taskGoto C q taskId r).1 = r ∨ (taskGoto C q taskId r).1.blocked ∨
      (taskGoto C q taskId r).1.phase = .running := by
  -- The goto has its own id, so none is assigned and the counter stays.
  have hassign : assignTaskId taskId r = (taskId, r) := if_neg hid
  unfold taskGoto
  by_cases hrun : r.phase = .running
  · rw [if_pos hrun]
    exact Or.inl rfl
  rw [if_neg hrun, hassign]
  dsimp only
  generalize (extractNumber q.data "x" r.poseX).2 = x
  generalize (extractNumber q.data "y" r.poseY).2 = y
  by_cases hout : outside x y
  · rw [if_pos hout]
    exact Or.inl rfl
  rw [if_neg hout]
  by_cases hdone : r.taskId ≠ [] ∧ r.taskId = taskId ∧ r.taskStatus = .done
  · rw [if_pos hdone]
    exact Or.inl rfl
  rw [if_neg hdone]
  generalize (Nav.GridMap.makeCorridorDemo (F := F)).inflate 1 = map
  generalize Nav.astar C map r.poseX r.poseY x y = path
  by_cases hpath : path = []
  · rw [if_pos hpath]
    let failed : FakeRobot F := { r with
      navMap := map
      navPath := path
      navStatus := .failed
      faults := r.faults ++
        [{ code := .taskFailed, level := .error, detail := ascii "A* no path to goal" }] }
    -- The task has failed with an error, and the robot was not blocked before.
    have hfault : (recomputePhaseAndControl failed).phase = .fault := by
      have herr : failed.hasErrorCondition = true := by simp [failed, hasErrorCondition]
      simp only [blocked, not_or, Bool.not_eq_true] at hfree
      obtain ⟨hestop, -, -, hboot, hinit, -⟩ := hfree
      exact recompute_phase_fault hestop hboot hinit herr
    exact Or.inr (Or.inl (Or.inr (Or.inl hfault)))
  · rw [if_neg hpath]
    exact Or.inr (Or.inr rfl)

/-- The state after a goto depends on the text of the message only. -/
theorem taskGoto_congr {q q' : Request} (hdata : q'.data = q.data) (taskId : Bytes)
    (r : FakeRobot F) : (taskGoto C q' taskId r).1 = (taskGoto C q taskId r).1 := by
  unfold taskGoto
  rw [hdata]
  by_cases hrun : r.phase = .running
  · rw [if_pos hrun, if_pos hrun]
    rfl
  rw [if_neg hrun, if_neg hrun]
  dsimp only
  generalize (extractNumber q.data "x" r.poseX).2 = x
  generalize (extractNumber q.data "y" r.poseY).2 = y
  by_cases hout : outside x y
  · rw [if_pos hout, if_pos hout]
    rfl
  rw [if_neg hout, if_neg hout]
  generalize (assignTaskId taskId r).1 = id
  generalize (assignTaskId taskId r).2 = t
  by_cases hdone : t.taskId ≠ [] ∧ t.taskId = id ∧ t.taskStatus = .done
  · rw [if_pos hdone, if_pos hdone]
    rfl
  rw [if_neg hdone, if_neg hdone]
  generalize (Nav.GridMap.makeCorridorDemo (F := F)).inflate 1 = map
  generalize Nav.astar C map t.poseX t.poseY x y = path
  split <;> rfl

/-- What a resume does depends on the state and not on the request. -/
theorem taskResume_congr (q q' : Request) (taskId : Bytes) (r : FakeRobot F) :
    (taskResume q' taskId r).1 = (taskResume q taskId r).1 := by
  unfold taskResume
  split <;> rfl

/-- What a resume leaves: the same state, or a robot that runs. -/
theorem taskResume_leaves (q : Request) (taskId : Bytes) (r : FakeRobot F) :
    (taskResume q taskId r).1 = r ∨ (taskResume q taskId r).1.phase = .running := by
  unfold taskResume
  split
  · exact Or.inr rfl
  · exact Or.inl rfl

/-- A robot that is blocked or runs takes no goto and no resume. -/
theorem cmdTask_quiet {q : Request} (htype : taskType? q = ascii "goto" ∨
    taskType? q = ascii "resume") {r : FakeRobot F} (h : r.blocked ∨ r.phase = .running) :
    (cmdTask C q r).1 = r := by
  have hpause : taskType? q ≠ ascii "pause" := by
    rcases htype with h | h <;> rw [h] <;> decide
  have hcancel : taskType? q ≠ ascii "cancel" := by
    rcases htype with h | h <;> rw [h] <;> decide
  by_cases hblocked : r.blocked
  · rw [cmdTask_blocked hpause hcancel hblocked]
    rfl
  · have hrun := h.resolve_left hblocked
    rcases htype with htype | htype
    · rw [cmdTask_goto htype hblocked, taskGoto, if_pos hrun]
      rfl
    · rw [cmdTask_resume htype hblocked, taskResume, if_neg (by simp [hrun])]
      rfl

/-- A second task command, provided that a goto carries its own id. -/
theorem cmdTask_again {q q' : Request} (hdata : q'.data = q.data)
    (hid : taskType? q = ascii "goto" → taskId? q ≠ []) (r : FakeRobot F) :
    (cmdTask C q' (cmdTask C q r).1).1 = (cmdTask C q r).1 := by
  have htype : taskType? q' = taskType? q := by rw [taskType?, hdata, taskType?]
  have hid' : taskId? q' = taskId? q := by rw [taskId?, hdata, taskId?]
  by_cases hpause : taskType? q = ascii "pause"
  · rw [cmdTask_pause hpause, cmdTask_pause (htype.trans hpause), hid']
    exact taskPause_again q q' _ r
  by_cases hcancel : taskType? q = ascii "cancel"
  · rw [cmdTask_cancel hcancel, cmdTask_cancel (htype.trans hcancel)]
    exact taskCancel_again q q' r
  have hpause' : taskType? q' ≠ ascii "pause" := htype ▸ hpause
  have hcancel' : taskType? q' ≠ ascii "cancel" := htype ▸ hcancel
  -- The other types are refused while the robot is blocked, the second time as the first.
  by_cases hblocked : r.blocked
  · rw [cmdTask_blocked hpause hcancel hblocked]
    show (cmdTask C q' r).1 = r
    rw [cmdTask_blocked hpause' hcancel' hblocked]
    rfl
  by_cases hgoto : taskType? q = ascii "goto"
  · have hgoto' := htype.trans hgoto
    rw [cmdTask_goto hgoto hblocked]
    rcases taskGoto_leaves (C := C) q (hid hgoto) hblocked with hs | hs
    · rw [hs, cmdTask_goto hgoto' hblocked, hid', taskGoto_congr hdata, hs]
    · exact cmdTask_quiet (Or.inl hgoto') hs
  by_cases hresume : taskType? q = ascii "resume"
  · have hresume' := htype.trans hresume
    rw [cmdTask_resume hresume hblocked]
    rcases taskResume_leaves q (taskId? q) r with hs | hs
    · rw [hs, cmdTask_resume hresume' hblocked, hid', taskResume_congr q q', hs]
    · exact cmdTask_quiet (Or.inr hresume') (Or.inr hs)
  · rw [cmdTask_other hpause hcancel hgoto hresume hblocked]
    show (cmdTask C q' r).1 = r
    rw [cmdTask_other hpause' hcancel' (htype ▸ hgoto) (htype ▸ hresume) hblocked]
    rfl

/-- The state that `CLEAR_FAULT` recomputes from. -/
def clearedState (r : FakeRobot F) : FakeRobot F :=
  { clearFaults r with bridgeNode := if (clearFaults r).consoleOnline then .ok else .warn }

/-- CLEAR_FAULT in closed form. -/
theorem cmdClearFault_state (q : Request) (r : FakeRobot F) :
    (cmdClearFault q r).1 =
      let t := recomputePhaseAndControl (clearedState r)
      { t with
        controlEnabled := t.consoleOnline && decide (t.phase = Phase.idle) && !t.estop } := by
  have hdead : ¬((recomputePhaseAndControl (clearedState r)).phase = .fault ∧
      ¬(recomputePhaseAndControl (clearedState r)).hasErrorCondition = true) :=
    fun h => h.2 (recompute_fault h.1)
  unfold cmdClearFault
  dsimp only
  rw [show ({ clearFaults r with
    bridgeNode := if (clearFaults r).consoleOnline then .ok else .warn } : FakeRobot F) =
      clearedState r from rfl, if_neg hdead]
  rfl

/-- Without faults the recomputation leaves the robot's own node `OK`. -/
theorem clearedState_node (r : FakeRobot F) :
    (recomputePhaseAndControl (clearedState r)).robotNode = .ok := by
  have hnode : (clearedState r).robotNode = .ok := clearFaults_robotNode r
  have hfaults : (clearedState r).faults = [] := rfl
  have herr : (clearedState r).hasErrorCondition = false := by
    simp [hasErrorCondition, hnode, hfaults]
  have hwarn : (clearedState r).hasWarnCondition = false := by
    simp [hasWarnCondition, hnode, hfaults]
  rcases recompute_cases (clearedState r) with ⟨-, hr⟩ | ⟨-, -, hr⟩ | ⟨-, he, -⟩ | ⟨-, -, hw, -⟩ |
    ⟨-, -, -, -, hr⟩ | ⟨-, -, -, -, hr⟩
  · rw [hr]
    exact hnode
  · rw [hr]
    exact hnode
  · rw [herr] at he
    cases he
  · rw [hwarn] at hw
    cases hw
  · rw [hr]
  · rw [hr]

/-- A second CLEAR_FAULT finds no fault to clear. -/
theorem cmdClearFault_again (q q' : Request) (r : FakeRobot F) :
    (cmdClearFault q' (cmdClearFault q r).1).1 = (cmdClearFault q r).1 := by
  -- The state is cleared already.
  have hfixed : ∀ b, clearedState { recomputePhaseAndControl (clearedState r) with
      controlEnabled := b } = { recomputePhaseAndControl (clearedState r) with
      controlEnabled := b } := by
    intro b
    have hnode := clearedState_node r
    obtain ⟨phase, control, status, node, hr⟩ := recompute_frame (clearedState r)
    rw [hr] at hnode ⊢
    obtain rfl : node = .ok := hnode
    rfl
  rw [cmdClearFault_state q', cmdClearFault_state q]
  dsimp only
  rw [hfixed, recompute_setControl]

/-! ### The whole handler -/

/-- The two names of the command that lists a fault. -/
def injectNames : List Bytes := [ascii "INJECT_FAULT", ascii "CMD_INJECT_FAULT"]

/-- The second delivery of a command leaves the state of the first. -/
theorem dispatch_again {q q' : Request} (hdata : q'.data = q.data) (hcmd : q'.cmd = q.cmd)
    (hinject : q.cmd ∉ injectNames)
    (hid : q.cmd = ascii "CMD_TASK" → taskType? q = ascii "goto" → taskId? q ≠ [])
    (r : FakeRobot F) :
    (dispatch C q' (dispatch C q r).1).1 = (dispatch C q r).1 := by
  have hinject' : ¬(q.cmd = ascii "INJECT_FAULT" ∨ q.cmd = ascii "CMD_INJECT_FAULT") := by
    simpa [injectNames] using hinject
  unfold dispatch
  rw [hcmd]
  by_cases hestop : q.cmd = ascii "CMD_ESTART" ∨ q.cmd = ascii "CMD_ESTOP"
  · simp only [if_pos hestop]
    exact cmdEstop_again q q' r
  simp only [if_neg hestop]
  by_cases hreset : q.cmd = ascii "CMD_RESET"
  · simp only [if_pos hreset]
    exact cmdReset_again hdata r
  simp only [if_neg hreset]
  by_cases hmode : q.cmd = ascii "CMD_MODE"
  · simp only [if_pos hmode]
    exact cmdMode_again hdata r
  simp only [if_neg hmode]
  by_cases htask : q.cmd = ascii "CMD_TASK"
  · simp only [if_pos htask]
    exact cmdTask_again hdata (hid htask) r
  simp only [if_neg htask, if_neg hinject']
  by_cases hclear : q.cmd = ascii "CLEAR_FAULT" ∨ q.cmd = ascii "CMD_CLEAR_FAULT"
  · simp only [if_pos hclear]
    exact cmdClearFault_again q q' r
  · simp only [if_neg hclear]
    rfl

/-- The type `goto` is not what the handler reads when there is no type. -/
theorem goto_of_taskType {q : Request} (h : taskType? q = ascii "goto") :
    extractString q.data "type" = some (ascii "goto") := by
  have hne : ([] : Bytes) ≠ ascii "goto" := by decide
  unfold taskType? at h
  cases hread : extractString q.data "type" with
  | none =>
      rw [hread] at h
      exact absurd h hne
  | some type =>
      rw [hread] at h
      exact congrArg some h

end FakeRobot

open FakeRobot

/-- **Redelivery is harmless.** A message other than `INJECT_FAULT` and a goto without an id leaves
the same state when it is handled twice as when it is handled once, whatever the state was. -/
theorem redelivery_harmless (C : Type) [CFloat C] (data : Bytes)
    (hinject : ∀ name ∈ injectNames, extractString data "cmd" ≠ some name)
    (hgoto : extractString data "cmd" = some (ascii "CMD_TASK") →
      extractString data "type" = some (ascii "goto") →
      ∃ taskId, extractString data "task_id" = some taskId ∧ taskId ≠ [])
    (nowMs nowMs' : UInt64) (r : FakeRobot F) :
    (onCmd C nowMs' data (onCmd C nowMs data r).1).1 = (onCmd C nowMs data r).1 := by
  cases hcmd : extractString data "cmd" with
  | none => simp [onCmd, hcmd]
  | some cmd =>
      obtain ⟨q, hq⟩ : ∃ q : Request, q = ⟨nowMs, data, cmd, extractSeq F data⟩ := ⟨_, rfl⟩
      obtain ⟨q', hq'⟩ : ∃ q' : Request, q' = ⟨nowMs', data, cmd, extractSeq F data⟩ := ⟨_, rfl⟩
      have hfirst : ∀ r : FakeRobot F, onCmd C nowMs data r = dispatch C q r := fun r => by
        simp [onCmd, hcmd, hq]
      have hsecond : ∀ r : FakeRobot F, onCmd C nowMs' data r = dispatch C q' r := fun r => by
        simp [onCmd, hcmd, hq']
      rw [hfirst, hsecond]
      refine dispatch_again (by simp [hq, hq']) (by simp [hq, hq']) (fun hmem => ?_)
        (fun htask htype => ?_) r
      · rw [hq] at hmem
        exact hinject cmd hmem hcmd
      · have hdata : q.data = data := by rw [hq]
        have hread := goto_of_taskType htype
        rw [hq] at htask
        obtain ⟨taskId, hid, hne⟩ := hgoto (hcmd.trans (congrArg some htask)) (hdata ▸ hread)
        simpa [taskId?, hdata, hid] using hne

/-- A goto with an id. -/
def namedGoto : Bytes :=
  ascii "\x7b\"cmd\":\"CMD_TASK\",\"type\":\"goto\",\"task_id\":\"A\",\"x\":3\x7d"

/-- A robot that was brought up gets it twice. -/
theorem redelivery_harmless_goto :
    (onCmd Exact.Cost 6 namedGoto (onCmd Exact.Cost 5 namedGoto readyNode.robot).1).1 =
      (onCmd Exact.Cost 5 namedGoto readyNode.robot).1 :=
  redelivery_harmless Exact.Cost namedGoto (by decide +kernel)
    (fun _ _ => ⟨ascii "A", by decide +kernel, by decide⟩) 5 6 readyNode.robot

end BotCockpit.Sim
