import BotCockpit.Proofs.Sim.Authorisation
import BotCockpit.Proofs.Sim.BlockingFault
import BotCockpit.Proofs.Sim.Redelivery

/-!
# `BotCockpit.Proofs.Sim.TaskStep`: what a callback does to the current task

The second inversion for all callbacks, now over `task_id_`, `task_status_` and whether the robot
runs. A callback either takes a task command, is a transition, drops the task, or keeps it:
`Kept` says that a running task then goes on or ends, and that an ended task stays ended.
`handle_taskStep` is the inversion, `Going` the invariant that comes with it.
-/

set_option autoImplicit false

namespace BotCockpit.Sim

open BotCockpit.Lib

variable {F : Type} [CDouble F] {C : Type} [CFloat C]

namespace FakeRobot

/-- A running robot is not stopped, and its task is ongoing. -/
def Going (r : FakeRobot F) : Prop :=
  r.phase = .running → r.estop = false ∧ (r.taskStatus = .accepted ∨ r.taskStatus = .executing)

/-- A task that is going on has not ended. -/
theorem Going.not_ended {r : FakeRobot F} (h : Going r) (hrun : r.phase = .running) :
    ¬r.Ended := by
  rcases (h hrun).2 with hs | hs <;> simp [Ended, hs]

/-- A robot that does not run has nothing going on. -/
theorem Going.of_still {r : FakeRobot F} (h : r.phase ≠ .running) : Going r :=
  fun hrun => absurd hrun h

/-- The task of `r` is kept: it goes on or ends, and it does not begin again. -/
structure Kept (r s : FakeRobot F) : Prop where
  going : Going r → Going s
  id : s.taskId = r.taskId
  run : s.phase = .running → r.phase = .running
  stop : Going r → r.phase = .running → s.phase = .running ∨ s.Ended
  ended : Going r → r.Ended → s.Ended

/-- What two blocks keep, both together keep. -/
theorem Kept.trans {r s t : FakeRobot F} (h₁ : Kept r s) (h₂ : Kept s t) : Kept r t := by
  refine ⟨fun hg => h₂.going (h₁.going hg), h₂.id.trans h₁.id, fun h => h₁.run (h₂.run h),
    fun hg hrun => ?_, fun hg he => h₂.ended (h₁.going hg) (h₁.ended hg he)⟩
  rcases h₁.stop hg hrun with hs | hs
  · exact h₂.stop (h₁.going hg) hs
  · exact Or.inr (h₂.ended (h₁.going hg) hs)

/-- The fields of the task are the same. -/
theorem Kept.of_same {r s : FakeRobot F} (hphase : s.phase = r.phase) (hestop : s.estop = r.estop)
    (hid : s.taskId = r.taskId) (hstatus : s.taskStatus = r.taskStatus) : Kept r s := by
  constructor
  · unfold Going
    rw [hphase, hestop, hstatus]
    exact fun h => h
  · exact hid
  · rw [hphase]
    exact fun h => h
  · rw [hphase]
    exact fun _ h => Or.inl h
  · unfold Ended
    rw [hstatus]
    exact fun _ h => h

/-- Nothing is kept by doing nothing. -/
theorem Kept.refl (r : FakeRobot F) : Kept r r := Kept.of_same rfl rfl rfl rfl

/-- The robot does not run, before or after. -/
theorem Kept.of_still {r s : FakeRobot F} (hr : r.phase ≠ .running) (hs : s.phase ≠ .running)
    (hid : s.taskId = r.taskId) (hstatus : s.taskStatus = r.taskStatus) : Kept r s := by
  refine ⟨fun _ => Going.of_still hs, hid, fun h => absurd h hs, fun _ h => absurd h hr,
    fun _ h => ?_⟩
  unfold Ended
  rwa [hstatus]

/-- The robot runs, before and after. -/
theorem Kept.of_running {r s : FakeRobot F} (hr : r.phase = .running) (hs : s.phase = .running)
    (hestop : s.estop = r.estop) (hid : s.taskId = r.taskId)
    (hstatus : s.taskStatus = .accepted ∨ s.taskStatus = .executing) : Kept r s :=
  ⟨fun hg _ => ⟨hestop.trans (hg hr).1, hstatus⟩, hid, fun _ => hr, fun _ _ => Or.inl hs,
    fun hg he => absurd he (hg.not_ended hr)⟩

/-- The robot stands, and an ongoing task has failed or the task has ended. -/
theorem Kept.of_stop {r s : FakeRobot F} (hs : s.phase ≠ .running) (hid : s.taskId = r.taskId)
    (hstatus : s.taskStatus = r.taskStatus.failOngoing ∨ s.Ended) : Kept r s := by
  refine ⟨fun _ => Going.of_still hs, hid, fun h => absurd h hs, fun hg hrun => Or.inr ?_,
    fun _ he => ?_⟩
  · rcases hstatus with h | h
    · rcases (hg hrun).2 with ha | ha <;> simp [Ended, h, ha, TaskStatus.failOngoing]
    · exact h
  · rcases hstatus with h | h
    · rcases he with he | he <;> simp [Ended, h, he, TaskStatus.failOngoing]
    · exact h

/-- The recomputation keeps the task, or takes a running robot out of it. -/
theorem Kept.recompute (r : FakeRobot F) : Kept r (recomputePhaseAndControl r) := by
  rcases recompute_cases r with ⟨he, hr⟩ | ⟨-, -, hr⟩ | ⟨-, -, hr⟩ | ⟨-, -, -, hr⟩ |
    ⟨-, -, -, -, hr⟩ | ⟨-, -, -, hrun, hr⟩
  · -- A stopped robot does not run.
    rw [hr]
    refine ⟨fun _ => Going.of_still Phase.noConfusion, rfl, fun h => Phase.noConfusion h,
      fun hg hrun => ?_, fun _ h => h⟩
    rw [(hg hrun).1] at he
    cases he
  · rw [hr]
    exact Kept.of_same rfl rfl rfl rfl
  · rw [hr]
    by_cases hrun : r.phase = .running
    · exact Kept.of_stop Phase.noConfusion rfl (Or.inr (Or.inr (if_pos hrun)))
    · exact Kept.of_still hrun Phase.noConfusion rfl (if_neg hrun)
  · rw [hr]
    by_cases hrun : r.phase = .running
    · exact Kept.of_same ((if_pos hrun).trans hrun.symm) rfl rfl rfl
    · refine Kept.of_still hrun ?_ rfl rfl
      simp [hrun]
  · rw [hr]
    exact Kept.of_same rfl rfl rfl rfl
  · rw [hr]
    exact Kept.of_still hrun Phase.noConfusion rfl rfl

/-- A block that ends with the recomputation. -/
theorem Kept.recomputed {r t : FakeRobot F} (h : Kept r t) : Kept r (recomputePhaseAndControl t) :=
  h.trans (Kept.recompute t)

/-! ### The tick and the console -/

/-- A safety stop fails the task and keeps its id. -/
theorem applySafetyStop_kept (nowMs : UInt64) (r : FakeRobot F) :
    Kept r (applySafetyStop nowMs r).1 := by
  let stopped : FakeRobot F := { r with
    taskStatus := r.taskStatus.failOngoing
    phase := if r.phase = .running then .idle else r.phase
    taskType := .none }
  have hstopped : Kept r stopped := by
    refine Kept.of_stop ?_ rfl (Or.inl rfl)
    show (if r.phase = .running then Phase.idle else r.phase) ≠ .running
    split
    · exact Phase.noConfusion
    · assumption
  refine hstopped.recomputed.trans ?_
  show Kept (recomputePhaseAndControl stopped)
    (if (recomputePhaseAndControl stopped).consoleOnline = true then
      recomputePhaseAndControl stopped
      else { recomputePhaseAndControl stopped with controlEnabled := false })
  split <;> exact Kept.of_same rfl rfl rfl rfl

/-- Up to its motion point a tick keeps the task. -/
theorem motionPoint_kept (now : Int) (nowMs : UInt64) (r : FakeRobot F) :
    Kept r (motionPoint now nowMs r).1 := by
  let ticked : FakeRobot F := { r with lastTickTp := now }
  have hcheck : Kept r (checkHeartbeat nowMs ticked).1 := by
    have hticked : Kept r ticked := Kept.of_same rfl rfl rfl rfl
    refine hticked.trans ?_
    unfold checkHeartbeat
    dsimp only
    split
    · have hgone : Kept ticked { ticked with consoleOnline := false, bridgeNode := .warn } :=
        Kept.of_same rfl rfl rfl rfl
      split
      · exact hgone.trans (applySafetyStop_kept nowMs _)
      · exact hgone
    · exact Kept.refl ticked
  have hleave : Kept r (leaveInitializing now (checkHeartbeat nowMs ticked).1) := by
    refine hcheck.trans ?_
    unfold leaveInitializing
    split
    · rename_i hinit
      refine Kept.of_still ?_ Phase.noConfusion rfl rfl
      simp [hinit.1]
    · exact Kept.refl _
  exact hleave.recomputed

/-- The robot goes on with its task while it follows the path. -/
theorem steered_kept {fuel : Nat} {dt x y w : F} {r s : FakeRobot F} {collided : Bool}
    (hrun : r.phase = .running) (h : drive fuel dt r = some (s, collided, w)) :
    Kept r (steered C dt x y collided w s) := by
  obtain ⟨_, _, _, _, _, _, _, hsteered⟩ := steered_frame C dt x y w collided s
  obtain ⟨_, _, _, rfl, -⟩ := drive_frame h
  rw [hsteered]
  exact Kept.of_running hrun hrun rfl rfl (Or.inr rfl)

/-- A tracking error that is too large fails the task. -/
theorem trackError_kept (r : FakeRobot F) : Kept r (trackError r) := by
  rcases trackError_frame r with ⟨err, errMax, h⟩ | ⟨err, errMax, h⟩
  · rw [h]
    exact Kept.of_same rfl rfl rfl rfl
  · rw [h]
    exact Kept.recomputed (Kept.of_stop Phase.noConfusion rfl (Or.inr (Or.inr rfl)))

/-- The arrival ends the task. -/
theorem arrive_kept (r : FakeRobot F) : Kept r (arrive r) := by
  rcases arrive_frame r with h | ⟨-, trail, h, -⟩
  · rw [h]
    exact Kept.refl r
  · rw [h]
    exact Kept.recomputed (Kept.of_stop Phase.noConfusion rfl (Or.inr (Or.inl rfl)))

/-- The motion along the path goes on with the task, or ends it. -/
theorem follow_kept {fuel : Nat} {dt : F} {r s : FakeRobot F} (hmoving : r.moving)
    (h : follow C fuel dt r = some s) : Kept r s := by
  obtain ⟨driven, collided, w, hdrive, rfl⟩ := follow_cases h
  have htracked : Kept r (steered C dt r.poseX r.poseY collided w driven) :=
    steered_kept hmoving.2.1 hdrive
  exact (htracked.trans (trackError_kept _)).trans (arrive_kept _)

/-- The motion keeps the task, ends it or gives it up. -/
theorem move_kept {fuel : Nat} {dt : F} {r s : FakeRobot F} (h : move C fuel dt r = some s) :
    Kept r s := by
  rcases move_cases h with ⟨hmoving, moved, rfl, hmoved⟩ | ⟨-, rfl | rfl⟩
  · have hmove : Kept r moved := by
      rcases hmoved with ⟨-, hfollow⟩ | ⟨-, rfl⟩
      · exact follow_kept hmoving hfollow
      · exact Kept.recomputed (Kept.of_stop Phase.noConfusion rfl (Or.inr (Or.inr rfl)))
    exact hmove.trans (Kept.of_same rfl rfl rfl rfl)
  · exact Kept.of_same rfl rfl rfl rfl
  · exact Kept.refl _

/-- A low battery leaves the task alone. -/
theorem checkBattery_kept (r : FakeRobot F) : Kept r (checkBattery r) := by
  obtain ⟨b, -, h | ⟨-, h⟩⟩ := checkBattery_frame r
  · rw [h]
    exact Kept.of_same rfl rfl rfl rfl
  · rw [h]
    exact Kept.recomputed (Kept.of_same rfl rfl rfl rfl)

/-- A tick keeps the task, ends it or fails it, and starts none. -/
theorem tick_kept {now : Int} {nowMs : UInt64} {fuel : Nat} {r s : FakeRobot F}
    {out : List (Output F)} (h : tick C now nowMs fuel r = some (s, out)) : Kept r s := by
  rcases tick_cases h with ⟨-, rfl, -⟩ | ⟨-, moved, hmoved, rfl, -⟩
  · exact Kept.refl _
  · exact ((motionPoint_kept now nowMs r).trans (move_kept hmoved)).trans (checkBattery_kept moved)

/-- A message of the console starts no task. -/
theorem onConsole_kept (nowMs : UInt64) (data : Bytes) (r : FakeRobot F) :
    Kept r (onConsole nowMs data r).1 := by
  have hsettle : ∀ t : FakeRobot F, Kept r t → Kept r
      (let s := recomputePhaseAndControl t
       if s.consoleOnline then s else { s with controlEnabled := false }) := fun t ht => by
    refine ht.recomputed.trans ?_
    dsimp only
    split <;> exact Kept.of_same rfl rfl rfl rfl
  unfold onConsole
  dsimp only
  by_cases honline : (extractBool data "online").getD false = true
  · rw [if_pos honline]
    exact hsettle _ (Kept.of_same rfl rfl rfl rfl)
  · rw [if_neg honline]
    have hgone : Kept r { r with
        consoleOnline := (extractBool data "online").getD false, bridgeNode := .warn } :=
      Kept.of_same rfl rfl rfl rfl
    split
    · exact hsettle _ (hgone.trans (applySafetyStop_kept nowMs _))
    · exact hsettle _ hgone

/-! ### What an entry takes -/

/-- An answer accepts exactly when it says so and the publishers are there. -/
theorem accepted_reply {e : Event} {s : FakeRobot F} {res : CmdResult} :
    Entry.Accepted (e, (s.reply res).2) ↔
      s.topicsReady = true ∧ res.ok = true ∧ res.status = .accepted := by
  unfold Entry.Accepted reply publishCmdResult
  by_cases hready : s.topicsReady = true <;> simp [hready]

/-- The state that is published with an answer changes nothing about it. -/
theorem accepted_replyAndPublish {e : Event} {q : Request} {s : FakeRobot F} {res : CmdResult} :
    Entry.Accepted (e, (s.replyAndPublish q res).2) ↔
      s.topicsReady = true ∧ res.ok = true ∧ res.status = .accepted := by
  unfold Entry.Accepted replyAndPublish publishCmdResult publishState
  by_cases hready : s.topicsReady = true <;> simp [hready]

/-- A task command has one type. -/
theorem asksTask_ne {x : Entry F} {type type' : String} (h : x.AsksTask type)
    (hne : ascii type ≠ ascii type') : ¬x.AsksTask type' := by
  obtain ⟨data, hc, -, htype⟩ := h
  rintro ⟨data', hc', -, htype'⟩
  obtain rfl := Call.cmd.inj (hc.symm.trans hc')
  exact hne (Option.some.inj (htype.symm.trans htype'))

/-- A task command is no RESET. -/
theorem asksTask_not_resets {x : Entry F} {type : String} (h : x.AsksTask type) :
    ¬x.Asks "CMD_RESET" := by
  obtain ⟨data, hc, hcmd, -⟩ := h
  rintro ⟨data', hc', hcmd'⟩
  have hne : ascii "CMD_TASK" ≠ ascii "CMD_RESET" := by decide
  obtain rfl := Call.cmd.inj (hc.symm.trans hc')
  exact hne (Option.some.inj (hcmd.symm.trans hcmd'))

/-- The entry takes no task command, and the robot does not forget its tasks in it. -/
def NoTask (x : Entry F) : Prop := (∀ type, ¬x.Takes type) ∧ ¬x.Forgets

/-- A command that is not accepted starts, pauses and ends nothing. -/
theorem noTask_of_refused {x : Entry F} {data : Bytes} (hcall : x.1.call = .cmd data)
    (h : ¬x.Accepted) : NoTask x := by
  refine ⟨fun type ht => h ht.2, ?_⟩
  rintro (hr | hr)
  · exact h hr.2
  · rw [hcall] at hr
    cases hr

/-- A command that is neither a task command nor a RESET starts, pauses and ends nothing. -/
theorem noTask_of_cmd {x : Entry F} {data : Bytes} {q : Request} (hcall : x.1.call = .cmd data)
    (hq : request? F x.1.nowMs data = some q) (htask : q.cmd ≠ ascii "CMD_TASK")
    (hreset : q.cmd ≠ ascii "CMD_RESET") : NoTask x := by
  refine ⟨fun type ht => htask (type_of_asksTask hcall hq ht.1).1, ?_⟩
  rintro (hr | hr)
  · exact hreset (cmd_of_asks hcall hq hr.1)
  · rw [hcall] at hr
    cases hr

/-- A callback that is neither a command nor the configuration does not touch the tasks. -/
theorem noTask_of_call {x : Entry F} (hcall : ∀ data, x.1.call ≠ .cmd data)
    (hconf : x.1.call ≠ .configure) : NoTask x := by
  refine ⟨?_, ?_⟩
  · rintro type ⟨⟨data, hc, -⟩, -⟩
    exact hcall data hc
  · rintro (⟨⟨data, hc, -⟩, -⟩ | hr)
    · exact hcall data hc
    · exact hconf hr

/-- What a callback does to the task. -/
inductive TaskStep (x : Entry F) (r s : FakeRobot F) : Prop
  | kept (hx : NoTask x) (hs : Kept r s)
  | moved (hx : x.Transits) (hphase : s.phase ≠ .running) (hid : s.taskId = r.taskId)
      (hstatus : s.taskStatus = r.taskStatus)
  | paused (hx : x.Takes "pause") (hrun : r.phase = .running) (hphase : s.phase ≠ .running)
      (hid : s.taskId = r.taskId)
  | resumed (hx : x.Takes "resume") (hidle : r.phase = .idle) (hsome : r.taskId ≠ [])
      (hphase : s.phase = .running) (hid : s.taskId = r.taskId) (hs : Going s)
  | started (hx : x.Takes "goto") (hphase : s.phase = .running) (hs : Going s)
  | dropped (hx : x.Takes "cancel" ∨ x.Forgets) (hphase : s.phase ≠ .running)
      (hid : s.taskId = [])

/-! ### The commands -/

section

variable {e : Event} {data : Bytes} {q : Request}

/-- A pause is a step of the task. -/
theorem taskPause_taskStep (hcall : e.call = .cmd data)
    (hq : request? F e.nowMs data = some q) (hcmd : q.cmd = ascii "CMD_TASK")
    (htype : taskType? q = ascii "pause") (taskId : Bytes) {r : FakeRobot F}
    (hready : r.topicsReady = true) :
    TaskStep (e, (taskPause q taskId r).2) r (taskPause q taskId r).1 := by
  unfold taskPause
  by_cases hrun : r.phase = .running
  · rw [if_pos hrun]
    let paused : FakeRobot F :=
      { r with taskStatus := .accepted, phase := .idle, navStatus := .idle }
    refine .paused ⟨asksTask_of_type hcall hq hcmd htype (by decide), ?_⟩ hrun ?_ ?_
    · exact accepted_replyAndPublish.mpr ⟨(recompute_topicsReady paused).trans hready, rfl, rfl⟩
    · exact fun h => Phase.noConfusion (recompute_phase_running (r := paused) h)
    · exact (Kept.recompute paused).id
  · rw [if_neg hrun]
    refine .kept (noTask_of_refused hcall fun h => ?_) (Kept.refl r)
    exact Bool.noConfusion (accepted_replyAndPublish.mp h).2.1

/-- A cancel is a step of the task. -/
theorem taskCancel_taskStep (hcall : e.call = .cmd data)
    (hq : request? F e.nowMs data = some q) (hcmd : q.cmd = ascii "CMD_TASK")
    (htype : taskType? q = ascii "cancel") {r : FakeRobot F} (hready : r.topicsReady = true) :
    TaskStep (e, (taskCancel q r).2) r (taskCancel q r).1 := by
  let cancelled : FakeRobot F := { r with
    taskStatus := .none
    taskId := []
    taskType := .none
    navPath := []
    navStatus := .idle
    stuckS := 0.0
    stuckCount := 0
    phase := if r.phase = .running then .idle else r.phase }
  have hnot : cancelled.phase ≠ .running := by
    show (if r.phase = .running then Phase.idle else r.phase) ≠ .running
    split
    · exact Phase.noConfusion
    · assumption
  refine .dropped (Or.inl ⟨asksTask_of_type hcall hq hcmd htype (by decide), ?_⟩) ?_ ?_
  · exact accepted_replyAndPublish.mpr ⟨(recompute_topicsReady cancelled).trans hready, rfl, rfl⟩
  · exact fun h => hnot (recompute_phase_running (r := cancelled) h)
  · exact (Kept.recompute cancelled).id

/-- Assigning an id changes the counter only. -/
theorem assignTaskId_kept {taskId id : Bytes} {r t : FakeRobot F}
    (h : assignTaskId taskId r = (id, t)) :
    Kept r t ∧ t.phase = r.phase ∧ t.estop = r.estop ∧ t.topicsReady = r.topicsReady := by
  obtain ⟨_, rfl⟩ := assignTaskId_counter h
  exact ⟨Kept.of_same rfl rfl rfl rfl, rfl, rfl, rfl⟩

/-- A goto is a step of the task: it is refused, repeats one that is done, or starts. -/
theorem taskGoto_taskStep (hcall : e.call = .cmd data)
    (hq : request? F e.nowMs data = some q) (hcmd : q.cmd = ascii "CMD_TASK")
    (htype : taskType? q = ascii "goto") (taskId : Bytes) {r : FakeRobot F}
    (hready : r.topicsReady = true) (hfree : ¬r.blocked) :
    TaskStep (e, (taskGoto C q taskId r).2) r (taskGoto C q taskId r).1 := by
  -- An answer that is no acceptance takes no task.
  have hrefused : ∀ {h : Handled F}, ¬Entry.Accepted (e, h.2) → Kept r h.1 →
      TaskStep (e, h.2) r h.1 := fun hno hk => .kept (noTask_of_refused hcall hno) hk
  refine taskGoto_cases (P := fun h => TaskStep (e, h.2) r h.1) (fun _ => ?_) (fun _ _ => ?_)
    (fun id t hassign _ _ _ => ?_) (fun id t hassign hrun _ _ _ => ?_)
    (fun id t hassign _ _ _ _ => ?_)
  · exact hrefused (fun h => Bool.noConfusion (accepted_reply.mp h).2.1) (Kept.refl r)
  · exact hrefused (fun h => Bool.noConfusion (accepted_reply.mp h).2.1) (Kept.refl r)
  · exact hrefused (fun h => ResultStatus.noConfusion (accepted_reply.mp h).2.2)
      (assignTaskId_kept hassign).1
  · refine hrefused (fun h => Bool.noConfusion (accepted_replyAndPublish.mp h).2.1) ?_
    exact Kept.recomputed ((assignTaskId_kept hassign).1.trans (Kept.of_same rfl rfl rfl rfl))
  · obtain ⟨-, -, hestop, hready'⟩ := assignTaskId_kept hassign
    refine .started ⟨asksTask_of_type hcall hq hcmd htype (by decide), ?_⟩ rfl fun _ => ?_
    · exact accepted_replyAndPublish.mpr ⟨hready'.trans hready, rfl, rfl⟩
    · simp only [blocked, not_or, Bool.not_eq_true] at hfree
      exact ⟨hestop.trans hfree.1, Or.inl rfl⟩

/-- A resume is a step of the task: it starts the goto again, or is refused. -/
theorem taskResume_taskStep (hcall : e.call = .cmd data)
    (hq : request? F e.nowMs data = some q) (hcmd : q.cmd = ascii "CMD_TASK")
    (htype : taskType? q = ascii "resume") (taskId : Bytes) {r : FakeRobot F}
    (hready : r.topicsReady = true) :
    TaskStep (e, (taskResume q taskId r).2) r (taskResume q taskId r).1 := by
  unfold taskResume
  by_cases hcan : r.taskId ≠ [] ∧ r.taskType = .goto ∧ ¬r.estop ∧ r.phase = .idle ∧
      r.consoleOnline ∧ ¬r.hasErrorCondition ∧ r.navPath ≠ []
  · rw [if_pos hcan]
    obtain ⟨hsome, -, hestop, hidle, -⟩ := hcan
    have hestop' : r.estop = false := by simpa using hestop
    refine .resumed ⟨asksTask_of_type hcall hq hcmd htype (by decide), ?_⟩ hidle hsome rfl rfl ?_
    · exact accepted_replyAndPublish.mpr ⟨hready, rfl, rfl⟩
    · exact fun _ => ⟨hestop', Or.inr rfl⟩
  · rw [if_neg hcan]
    refine .kept (noTask_of_refused hcall fun h => ?_) (Kept.refl r)
    exact Bool.noConfusion (accepted_replyAndPublish.mp h).2.1

/-- A RESET is a step of the task: it forgets the task, or is refused. -/
theorem cmdReset_taskStep (hcall : e.call = .cmd data)
    (hq : request? F e.nowMs data = some q) (hcmd : q.cmd = ascii "CMD_RESET")
    {r : FakeRobot F} (hready : r.topicsReady = true) :
    TaskStep (e, (cmdReset q r).2) r (cmdReset q r).1 := by
  by_cases hconfirm : extractBool q.data "confirm" = some true
  · cases hblock : r.hasBlocking with
    | true =>
        rw [cmdReset_blocked hconfirm hblock]
        refine .kept (noTask_of_refused hcall fun h => ?_) (Kept.refl r)
        exact Bool.noConfusion (accepted_replyAndPublish.mp h).2.1
    | false =>
        rw [cmdReset_accepted hconfirm hblock]
        obtain ⟨hname, -, -⟩ := request?_eq hq
        refine .dropped (Or.inr (Or.inl ⟨⟨data, hcall, hcmd ▸ hname⟩, ?_⟩)) Phase.noConfusion rfl
        exact accepted_replyAndPublish.mpr ⟨hready, rfl, rfl⟩
  · rw [cmdReset_unconfirmed r hconfirm]
    refine .kept (noTask_of_refused hcall fun h => ?_) (Kept.refl r)
    exact Bool.noConfusion (accepted_reply.mp h).2.1

end

/-- An emergency stop fails the task and keeps its id. -/
theorem cmdEstop_kept (q : Request) (r : FakeRobot F) : Kept r (cmdEstop q r).1 := by
  unfold cmdEstop
  dsimp only
  split <;> exact Kept.of_stop Phase.noConfusion rfl (Or.inl rfl)

/-- A change of the mode leaves the task alone. -/
theorem cmdMode_kept (q : Request) (r : FakeRobot F) : Kept r (cmdMode q r).1 := by
  rw [cmdMode_state]
  split
  · exact Kept.refl r
  · split
    · exact Kept.refl r
    · exact Kept.of_same rfl rfl rfl rfl

/-- An injected fault may stop the robot, and starts nothing. -/
theorem cmdInjectFault_kept (q : Request) (r : FakeRobot F) : Kept r (cmdInjectFault q r).1 := by
  let detail := (extractString q.data "detail").getD (ascii "injected by operator")
  let injected : FakeRobot F := { r with
    faults := r.faults ++ [{ code := .nodeTimeout, level := .error, detail := detail }]
    robotNode := .error
    taskStatus := r.taskStatus.failOngoing }
  show Kept r (recomputePhaseAndControl injected)
  -- The error halts the robot, and the recomputation only fails the task once more.
  have hhalted : Halted (recomputePhaseAndControl injected) :=
    recompute_halted (List.mem_append_right _ (List.mem_singleton_self _)) rfl rfl
  refine Kept.of_stop hhalted.not_running (Kept.recompute injected).id ?_
  by_cases hrun : r.phase = .running
  · rcases recompute_cases injected with ⟨-, hr⟩ | ⟨-, -, hr⟩ | ⟨-, -, hr⟩ | ⟨-, -, -, hr⟩ |
      ⟨-, -, -, -, hr⟩ | ⟨-, -, -, -, hr⟩
    · exact Or.inl (by rw [hr])
    · exact Or.inl (by rw [hr])
    · exact Or.inr (Or.inr (by rw [hr]; exact if_pos hrun))
    · exact Or.inl (by rw [hr])
    · exact Or.inl (by rw [hr])
    · exact Or.inl (by rw [hr])
  · exact Or.inl (recompute_taskStatus (r := injected) hrun)

/-- Clearing the faults starts nothing. -/
theorem cmdClearFault_kept (q : Request) (r : FakeRobot F) : Kept r (cmdClearFault q r).1 := by
  have hcleared : Kept r (clearedState r) := Kept.of_same rfl rfl rfl rfl
  rw [cmdClearFault_state]
  exact hcleared.recomputed.trans (Kept.of_same rfl rfl rfl rfl)

/-- Every command is a step of the task. -/
theorem dispatch_taskStep {e : Event} {data : Bytes} {q : Request} (hcall : e.call = .cmd data)
    (hq : request? F e.nowMs data = some q) {r : FakeRobot F} (hready : r.topicsReady = true) :
    TaskStep (e, (dispatch C q r).2) r (dispatch C q r).1 := by
  -- A command of another name is no step of the task.
  have hother : ∀ {h : Handled F}, q.cmd ≠ ascii "CMD_TASK" → q.cmd ≠ ascii "CMD_RESET" →
      Kept r h.1 → TaskStep (e, h.2) r h.1 :=
    fun htask hreset hk => .kept (noTask_of_cmd hcall hq htask hreset) hk
  have hne : ∀ {name : String}, q.cmd = ascii name → ascii name ≠ ascii "CMD_TASK" →
      ascii name ≠ ascii "CMD_RESET" → q.cmd ≠ ascii "CMD_TASK" ∧ q.cmd ≠ ascii "CMD_RESET" :=
    fun h h₁ h₂ => ⟨h ▸ h₁, h ▸ h₂⟩
  refine dispatch_cases (P := fun h => TaskStep (e, h.2) r h.1) (fun hcmd => ?_)
    (fun hcmd => cmdReset_taskStep hcall hq hcmd hready) (fun hcmd => ?_) (fun hcmd => ?_)
    (fun hcmd => ?_) (fun hcmd => ?_) (fun hcmd => ?_)
  · have hn : q.cmd ≠ ascii "CMD_TASK" ∧ q.cmd ≠ ascii "CMD_RESET" := by
      rcases hcmd with h | h <;> exact hne h (by decide) (by decide)
    exact hother hn.1 hn.2 (cmdEstop_kept q r)
  · obtain ⟨h₁, h₂⟩ := hne hcmd (by decide) (by decide)
    exact hother h₁ h₂ (cmdMode_kept q r)
  · refine cmdTask_cases (P := fun h => TaskStep (e, h.2) r h.1)
      (fun taskId htype => taskPause_taskStep hcall hq hcmd htype taskId hready)
      (fun htype => taskCancel_taskStep hcall hq hcmd htype hready)
      (fun taskId htype hfree => taskGoto_taskStep hcall hq hcmd htype taskId hready hfree)
      (fun taskId htype _ => taskResume_taskStep hcall hq hcmd htype taskId hready)
      (fun reason taskId _ _ => ?_)
    refine .kept (noTask_of_refused hcall fun h => ?_) (Kept.refl r)
    exact Bool.noConfusion (accepted_reply.mp h).2.1
  · have hn : q.cmd ≠ ascii "CMD_TASK" ∧ q.cmd ≠ ascii "CMD_RESET" := by
      rcases hcmd with h | h <;> exact hne h (by decide) (by decide)
    exact hother hn.1 hn.2 (cmdInjectFault_kept q r)
  · have hn : q.cmd ≠ ascii "CMD_TASK" ∧ q.cmd ≠ ascii "CMD_RESET" := by
      rcases hcmd with h | h <;> exact hne h (by decide) (by decide)
    exact hother hn.1 hn.2 (cmdClearFault_kept q r)
  · refine .kept (noTask_of_refused hcall fun h => ?_) (Kept.refl r)
    exact Bool.noConfusion (accepted_reply.mp h).2.1

/-- **What a callback does to the task.** -/
theorem handle_taskStep {e : Event} {r s : FakeRobot F} {out : List (Output F)}
    (h : handle C r e = some (s, out)) : TaskStep (e, out) r s := by
  cases handle_cases h with
  | configure hc => exact .dropped (Or.inr (Or.inr hc)) Phase.noConfusion rfl
  | activate now hc =>
      -- The life cycle stops the robot and leaves the task where it is.
      exact .moved (Or.inl ⟨now, hc⟩) Phase.noConfusion rfl rfl
  | deactivate hc => exact .moved (Or.inr (Or.inl hc)) Phase.noConfusion rfl rfl
  | cleanup hc => exact .moved (Or.inr (Or.inr (Or.inl hc))) Phase.noConfusion rfl rfl
  | shutdown hc => exact .moved (Or.inr (Or.inr (Or.inr hc))) Phase.noConfusion rfl rfl
  | console data hc hready =>
      exact .kept (noTask_of_call (by simp [hc]) (by simp [hc])) (onConsole_kept e.nowMs data r)
  | noCmd data hc hready hq =>
      refine .kept (noTask_of_refused hc ?_) (Kept.refl r)
      rintro ⟨res, hres, -⟩
      exact absurd hres List.not_mem_nil
  | cmd data q hc hready hq =>
      -- Without publishers no command comes in, so an answer that is given is published.
      exact dispatch_taskStep hc hq hready
  | tick now fuel s out hc htick =>
      exact .kept (noTask_of_call (by simp [hc]) (by simp [hc])) (tick_kept htick)

end FakeRobot

end BotCockpit.Sim
