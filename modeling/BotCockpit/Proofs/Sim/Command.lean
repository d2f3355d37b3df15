import BotCockpit.Proofs.Sim.Phase
import BotCockpit.Spec.Robot

/-!
# `BotCockpit.Proofs.Sim.Command`: what a command can do

Every branch of `on_cmd` answers: it publishes one result, for the sequence number it read, and
after it at most one state. `Answers` says so, together with what every branch keeps
(`SafeStep`). One specification for each handler adds what the branch does to the emergency
stop, the mode and the phase, and `dispatch_cases` and `cmdTask_cases` put them together.
`handle_cases` does the same for the callbacks.
-/

set_option autoImplicit false

namespace BotCockpit.Sim.FakeRobot

open BotCockpit.Lib

variable {F : Type} [CDouble F]

/-! ### What every command keeps -/

/-- What every command does to the safety fields. -/
structure SafeStep (r s : FakeRobot F) : Prop where
  ready : s.topicsReady = r.topicsReady
  active : s.active = r.active
  online : s.consoleOnline = r.consoleOnline
  lastConsole : s.lastConsoleMs = r.lastConsoleMs
  pose : s.pose = r.pose
  consistent : Consistent r → Consistent s
  control : (r.estop = true → r.controlEnabled = false) →
    s.estop = true → s.controlEnabled = false

/-- Doing nothing is safe. -/
theorem SafeStep.refl (r : FakeRobot F) : SafeStep r r :=
  ⟨rfl, rfl, rfl, rfl, rfl, id, id⟩

/-- A consistent robot under the emergency stop has no control. -/
theorem Consistent.control_of_estop {r : FakeRobot F} (h : Consistent r)
    (hestop : r.estop = true) : r.controlEnabled = false := by
  rw [h.controlEnabled_eq]
  rcases h.latch hestop with hp | hp | hp <;> simp [hp]

/-- `h` leaves the state `s`, and it published the one result `res` and at most the state `s`
after it. -/
structure Answers (q : Request) (r : FakeRobot F) (h : Handled F) (s : FakeRobot F)
    (res : CmdResult) : Prop where
  state : h.1 = s
  output : h.2 = r.publishCmdResult res ∨
    h.2 = r.publishCmdResult res ++ s.publishState q.nowMs
  seq : res.seq = q.seq
  safe : SafeStep r s

/-- Whether an answer goes out depends on the publishers alone. -/
theorem publishCmdResult_congr {r s : FakeRobot F} (h : s.topicsReady = r.topicsReady)
    (res : CmdResult) : s.publishCmdResult res = r.publishCmdResult res := by
  unfold publishCmdResult
  rw [h]

/-- A handler that ends with its answer. -/
theorem Answers.reply {q : Request} {r s : FakeRobot F} {res : CmdResult}
    (hseq : res.seq = q.seq) (hsafe : SafeStep r s) : Answers q r (s.reply res) s res :=
  ⟨rfl, Or.inl (publishCmdResult_congr hsafe.ready res), hseq, hsafe⟩

/-- A handler that ends with its answer and the new state. -/
theorem Answers.replyAndPublish {q : Request} {r s : FakeRobot F} {res : CmdResult}
    (hseq : res.seq = q.seq) (hsafe : SafeStep r s) :
    Answers q r (s.replyAndPublish q res) s res :=
  ⟨rfl, Or.inr (by
    show s.publishCmdResult res ++ s.publishState q.nowMs = _
    rw [publishCmdResult_congr hsafe.ready]), hseq, hsafe⟩

/-- A rejection that leaves the state alone. -/
theorem answers_reject (q : Request) (r : FakeRobot F) (reason : Reason) (taskId : Bytes) :
    Answers q r (r.reply (.rejected q.seq q.cmd reason taskId)) r
      (.rejected q.seq q.cmd reason taskId) :=
  Answers.reply rfl (SafeStep.refl r)

/-- The only result among the outputs is `res`, and it is there while the topics are ready. -/
theorem Answers.mem_result {q : Request} {r s : FakeRobot F} {h : Handled F}
    {res res' : CmdResult} (ha : Answers q r h s res) :
    Output.result res' ∈ h.2 ↔ r.topicsReady = true ∧ res' = res := by
  have hmem : Output.result res' ∈ r.publishCmdResult res ↔
      r.topicsReady = true ∧ res' = res := by
    unfold publishCmdResult
    split <;> simp_all
  rcases ha.output with hout | hout
  · rw [hout]
    exact hmem
  · rw [hout, List.mem_append, hmem]
    exact ⟨fun h => h.resolve_right result_not_mem_publishState, Or.inl⟩

/-- The only state among the outputs is the one the command leaves. -/
theorem Answers.mem_state {q : Request} {r s u : FakeRobot F} {h : Handled F} {res : CmdResult}
    {nowMs : UInt64} (ha : Answers q r h s res) (hu : Output.state nowMs u ∈ h.2) : u = h.1 := by
  rw [ha.state]
  rcases ha.output with hout | hout
  · rw [hout] at hu
    exact absurd hu not_mem_publishCmdResult
  · rw [hout] at hu
    rcases List.mem_append.mp hu with hu | hu
    · exact absurd hu not_mem_publishCmdResult
    · exact mem_publishState hu

/-- Consistency goes through a command. -/
theorem Answers.throughout {q : Request} {r s : FakeRobot F} {h : Handled F}
    {res : CmdResult} (ha : Answers q r h s res) (hcons : Consistent r) :
    Throughout Consistent h := by
  have hs : Consistent h.1 := ha.state ▸ ha.safe.consistent hcons
  refine ⟨hs, fun t u hu => ?_⟩
  rw [ha.mem_state hu]
  exact hs

/-- Recomputing is a safe step, when a robot that still runs has its console. -/
theorem recompute_safeStep {r s : FakeRobot F}
    (hrun : Consistent r → s.phase = .running → s.consoleOnline = true)
    (hframe : s.topicsReady = r.topicsReady ∧ s.active = r.active ∧
      s.consoleOnline = r.consoleOnline ∧ s.lastConsoleMs = r.lastConsoleMs ∧
      s.pose = r.pose) : SafeStep r (recomputePhaseAndControl s) := by
  obtain ⟨hready, hactive, honline, hlast, hpose⟩ := hframe
  refine ⟨?_, ?_, ?_, ?_, ?_, fun h => recompute_consistent (hrun h), fun _ h => ?_⟩
  · rw [recompute_topicsReady, hready]
  · rw [recompute_active, hactive]
  · rw [recompute_consoleOnline, honline]
  · rw [recompute_lastConsoleMs, hlast]
  · rw [pose_recompute, hpose]
  · rw [recompute_estop] at h
    exact recompute_control_of_estop h

/-- Setting control to what it is anyway changes nothing. -/
theorem SafeStep.setControl {r s : FakeRobot F} (h : SafeStep r s) (hcons : Consistent s)
    {b : Bool} (hb : b = s.controlEnabled) : SafeStep r { s with controlEnabled := b } := by
  subst hb
  exact ⟨h.ready, h.active, h.online, h.lastConsole, h.pose, fun _ => hcons,
    fun _ => hcons.control_of_estop⟩

/-! ### One specification for each handler -/

/-- An emergency stop is accepted, latches and leaves the mode. -/
theorem cmdEstop_spec (q : Request) (r : FakeRobot F) :
    ∃ s res, Answers q r (cmdEstop q r) s res ∧ res.ok = true ∧ s.estop = true ∧
      s.phase = .estop ∧ s.mode = r.mode := by
  let stopped : FakeRobot F := { r with
    estop := true
    phase := .estop
    controlEnabled := false
    taskStatus := r.taskStatus.failOngoing }
  have hsafe : ∀ fs : List FaultItem, SafeStep r { stopped with faults := fs } := fun fs =>
    ⟨rfl, rfl, rfl, rfl, rfl, fun _ => by constructor <;> simp [stopped], fun _ _ => rfl⟩
  unfold cmdEstop
  dsimp only
  by_cases hlisted : r.faults.any (fun f => f.code = .estopActive) = true
  · rw [if_pos hlisted]
    exact ⟨_, _, Answers.replyAndPublish rfl (hsafe r.faults), rfl, rfl, rfl, rfl⟩
  · rw [if_neg hlisted]
    exact ⟨_, _, Answers.replyAndPublish rfl (hsafe _), rfl, rfl, rfl, rfl⟩

/-- RESET is refused without a change, or leaves a robot at rest in TELEOP. -/
theorem cmdReset_spec (q : Request) (r : FakeRobot F) :
    ∃ s res, Answers q r (cmdReset q r) s res ∧
      (res.ok = false ∧ s = r ∨
        res.ok = true ∧ res.status = .accepted ∧ s.phase ≠ .running ∧ s.mode = .teleop) := by
  unfold cmdReset
  by_cases hconfirm : extractBool q.data "confirm" ≠ some true
  · rw [if_pos hconfirm]
    exact ⟨_, _, answers_reject .., Or.inl ⟨rfl, rfl⟩⟩
  · rw [if_neg hconfirm]
    by_cases hblock : r.hasBlocking = true
    · rw [if_pos hblock]
      exact ⟨_, _, Answers.replyAndPublish rfl (SafeStep.refl r), Or.inl ⟨rfl, rfl⟩⟩
    · rw [if_neg hblock]
      let cleared : FakeRobot F := { clearFaults { r with estop := false } with
        bridgeNode := if ¬(clearFaults { r with estop := false }).consoleOnline then .warn else .ok
        phase := .idle
        mode := .teleop
        taskStatus := .none
        taskId := []
        taskType := .none }
      have hnot : cleared.phase ≠ .running := Phase.noConfusion
      have hcons : Consistent (recomputePhaseAndControl cleared) :=
        recompute_consistent fun h => absurd h hnot
      have hsafe : SafeStep r (recomputePhaseAndControl cleared) :=
        recompute_safeStep (fun _ h => absurd h hnot) ⟨rfl, rfl, rfl, rfl, rfl⟩
      -- Control is set to what the recomputation has made it already.
      have hcontrol : ((recomputePhaseAndControl cleared).consoleOnline &&
          decide ((recomputePhaseAndControl cleared).phase = Phase.idle)) =
          (recomputePhaseAndControl cleared).controlEnabled := by
        rw [hcons.controlEnabled_eq, Bool.and_comm]
      refine ⟨_, _, Answers.replyAndPublish rfl (hsafe.setControl hcons hcontrol),
        Or.inr ⟨rfl, rfl, ?_, ?_⟩⟩
      · exact fun h => hnot (recompute_phase_running h)
      · exact recompute_mode cleared

/-- A change of mode touches the mode alone, and is refused for AUTO while blocked. -/
theorem cmdMode_spec (q : Request) (r : FakeRobot F) :
    ∃ s res, Answers q r (cmdMode q r) s res ∧ s.estop = r.estop ∧ s.phase = r.phase ∧
      (s.mode = .auto → s.mode = r.mode ∨ ¬r.blocked) ∧
      (extractString q.data "mode" = some (ascii "AUTO") → r.blocked → res.ok = false) := by
  unfold cmdMode
  split
  · exact ⟨_, _, answers_reject .., rfl, rfl, fun _ => Or.inl rfl, fun _ _ => rfl⟩
  · rename_i mode hmode
    by_cases hblocked : mode = .auto ∧ r.blocked
    · rw [if_pos hblocked]
      exact ⟨_, _, answers_reject .., rfl, rfl, fun _ => Or.inl rfl, fun _ _ => rfl⟩
    · rw [if_neg hblocked]
      have hsafe : SafeStep r { r with mode := mode } :=
        ⟨rfl, rfl, rfl, rfl, rfl,
          fun h => ⟨h.control, h.idle, h.running, h.latch, h.locked⟩, id⟩
      refine ⟨_, _, Answers.replyAndPublish rfl hsafe, rfl, rfl, fun h => ?_, fun h hb => ?_⟩
      · exact Or.inr fun hb => hblocked ⟨h, hb⟩
      · rw [h] at hmode
        have hauto : Mode.auto = mode := Option.some.inj hmode
        exact absurd ⟨hauto.symm, hb⟩ hblocked

/-- A pause leaves a robot that does not run. -/
theorem taskPause_spec (q : Request) (taskId : Bytes) (r : FakeRobot F) :
    ∃ s res, Answers q r (taskPause q taskId r) s res ∧ s.estop = r.estop ∧ s.mode = r.mode ∧
      s.phase ≠ .running := by
  unfold taskPause
  by_cases hrun : r.phase = .running
  · rw [if_pos hrun]
    let paused : FakeRobot F :=
      { r with taskStatus := .accepted, phase := .idle, navStatus := .idle }
    have hnot : paused.phase ≠ .running := Phase.noConfusion
    have hsafe : SafeStep r (recomputePhaseAndControl paused) :=
      recompute_safeStep (fun _ h => absurd h hnot) ⟨rfl, rfl, rfl, rfl, rfl⟩
    exact ⟨_, _, Answers.replyAndPublish rfl hsafe, recompute_estop paused,
      recompute_mode paused, fun h => hnot (recompute_phase_running h)⟩
  · rw [if_neg hrun]
    exact ⟨_, _, Answers.replyAndPublish rfl (SafeStep.refl r), rfl, rfl, hrun⟩

/-- So does a cancel. -/
theorem taskCancel_spec (q : Request) (r : FakeRobot F) :
    ∃ s res, Answers q r (taskCancel q r) s res ∧ s.estop = r.estop ∧ s.mode = r.mode ∧
      s.phase ≠ .running := by
  let cancelled : FakeRobot F := { r with
    taskStatus := .none
    taskId := []
    taskType := .none
    navPath := []
    navStatus := .idle
    stuckS := 0.0
    stuckCount := 0
    phase := if r.phase = .running then .idle else r.phase }
  have hnot : cancelled.phase ≠ .running := by
    show (if r.phase = .running then Phase.idle else r.phase) ≠ .running
    split
    · exact Phase.noConfusion
    · assumption
  have hsafe : SafeStep r (recomputePhaseAndControl cancelled) :=
    recompute_safeStep (fun _ h => absurd h hnot) ⟨rfl, rfl, rfl, rfl, rfl⟩
  exact ⟨_, _, Answers.replyAndPublish rfl hsafe, recompute_estop cancelled,
    recompute_mode cancelled, fun h => hnot (recompute_phase_running h)⟩

/-- A robot that is not blocked and not running is idle and online: nothing else is left. -/
theorem idle_of_not_blocked {r : FakeRobot F} (hcons : Consistent r) (hblocked : ¬r.blocked)
    (hrun : r.phase ≠ .running) :
    r.estop = false ∧ r.consoleOnline = true ∧ r.phase = .idle := by
  simp only [blocked, not_or, Bool.not_eq_true] at hblocked
  obtain ⟨hestop, hfault, hdegraded, hboot, hinit, honline⟩ := hblocked
  refine ⟨hestop, by simpa using honline, ?_⟩
  cases hphase : r.phase with
  | idle => rfl
  | estop => simp [hcons.locked hphase] at hestop
  | boot => exact absurd hphase hboot
  | initializing => exact absurd hphase hinit
  | running => exact absurd hphase hrun
  | degraded => exact absurd hphase hdegraded
  | fault => exact absurd hphase hfault

/-- Starting a motion from idle is safe. -/
theorem start_safeStep {r s : FakeRobot F} (hphase : s.phase = .running)
    (hcontrol : s.controlEnabled = false)
    (hclear : Consistent r → s.estop = false ∧ s.consoleOnline = true ∧
      s.hasErrorCondition = false)
    (hframe : s.topicsReady = r.topicsReady ∧ s.active = r.active ∧
      s.consoleOnline = r.consoleOnline ∧ s.lastConsoleMs = r.lastConsoleMs ∧
      s.pose = r.pose) : SafeStep r s := by
  obtain ⟨hready, hactive, honline, hlast, hpose⟩ := hframe
  refine ⟨hready, hactive, honline, hlast, hpose, fun hcons => ?_, fun _ _ => hcontrol⟩
  have hs := hclear hcons
  exact ⟨by simp [hcontrol, hphase], by simp [hphase], fun _ => hs, by simp [hs.1],
    by simp [hphase]⟩

/-- Assigning an id is no matter of safety. -/
theorem assignTaskId_same (taskId : Bytes) (r : FakeRobot F) :
    SameSafety r (assignTaskId taskId r).2 ∧ (assignTaskId taskId r).2.pose = r.pose := by
  unfold assignTaskId
  split
  · exact ⟨⟨rfl, rfl, rfl, rfl, rfl, rfl, rfl, rfl, rfl, rfl⟩, rfl⟩
  · exact ⟨SameSafety.refl r, rfl⟩

/-- Assigning an id writes nothing but the task counter. -/
theorem assignTaskId_counter {taskId id : Bytes} {r t : FakeRobot F}
    (h : assignTaskId taskId r = (id, t)) : ∃ n, t = { r with taskSeq := n } := by
  unfold assignTaskId at h
  split at h
  · exact ⟨r.taskSeq + 1, (Prod.mk.inj h).2.symm⟩
  · exact ⟨r.taskSeq, (Prod.mk.inj h).2.symm⟩

/-- The state of a goto without a path. -/
def lostGoto (r : FakeRobot F) : FakeRobot F :=
  recomputePhaseAndControl { r with
    navMap := Nav.GridMap.makeCorridorDemo.inflate 1
    navPath := []
    navStatus := .failed
    faults := r.faults ++
      [{ code := .taskFailed, level := .error, detail := ascii "A* no path to goal" }] }

/-- The branches of a goto. `t` is the robot up to its task counter. -/
theorem taskGoto_cases {C : Type} [CFloat C] {P : Handled F → Prop} {q : Request}
    {taskId : Bytes} {r : FakeRobot F}
    (busy : r.phase = .running → P (r.reply (.rejected q.seq q.cmd .phaseBusy taskId)))
    (off : r.phase ≠ .running → outside (r.gotoGoal q.data).1 (r.gotoGoal q.data).2 →
      P (r.reply (.rejected q.seq q.cmd .invalidPayload taskId)))
    (again : ∀ id t, assignTaskId taskId r = (id, t) → r.phase ≠ .running →
      ¬outside (r.gotoGoal q.data).1 (r.gotoGoal q.data).2 →
      t.taskId ≠ [] ∧ t.taskId = id ∧ t.taskStatus = .done →
      P (t.reply { seq := q.seq, cmd := q.cmd, ok := true, status := .done, reason := none,
                   taskId := id }))
    (lost : ∀ id t, assignTaskId taskId r = (id, t) → r.phase ≠ .running →
      ¬outside (r.gotoGoal q.data).1 (r.gotoGoal q.data).2 →
      ¬(t.taskId ≠ [] ∧ t.taskId = id ∧ t.taskStatus = .done) → r.gotoPath C q.data = [] →
      P ((lostGoto t).replyAndPublish q (.rejected q.seq q.cmd .unknownTask id)))
    (start : ∀ id t, assignTaskId taskId r = (id, t) → r.phase ≠ .running →
      ¬outside (r.gotoGoal q.data).1 (r.gotoGoal q.data).2 →
      ¬(t.taskId ≠ [] ∧ t.taskId = id ∧ t.taskStatus = .done) → r.gotoPath C q.data ≠ [] →
      P ((startGoto (Nav.GridMap.makeCorridorDemo.inflate 1) (r.gotoPath C q.data)
        (r.gotoGoal q.data).1 (r.gotoGoal q.data).2 id t).replyAndPublish q
        (.accepted q.seq q.cmd id))) :
    P (taskGoto C q taskId r) := by
  unfold taskGoto
  by_cases hrun : r.phase = .running
  · rw [if_pos hrun]
    exact busy hrun
  rw [if_neg hrun]
  by_cases hout : outside (r.gotoGoal q.data).1 (r.gotoGoal q.data).2
  · exact (if_pos hout).symm ▸ off hrun hout
  refine (if_neg hout).symm ▸ ?_
  obtain ⟨id, t, hassign⟩ : ∃ id t, assignTaskId taskId r = (id, t) := ⟨_, _, rfl⟩
  have hpose : t.poseX = r.poseX ∧ t.poseY = r.poseY := by
    obtain ⟨_, rfl⟩ := assignTaskId_counter hassign
    exact ⟨rfl, rfl⟩
  have hplan : Nav.astar C (Nav.GridMap.makeCorridorDemo.inflate 1) t.poseX t.poseY
      (r.gotoGoal q.data).1 (r.gotoGoal q.data).2 = r.gotoPath C q.data := by
    rw [hpose.1, hpose.2]
    rfl
  have hgoal : ((extractNumber q.data "x" r.poseX).2, (extractNumber q.data "y" r.poseY).2) =
      r.gotoGoal q.data := rfl
  simp only [Prod.ext_iff] at hgoal
  rw [hassign]
  dsimp only
  by_cases hdone : t.taskId ≠ [] ∧ t.taskId = id ∧ t.taskStatus = .done
  · rw [if_pos hdone]
    exact again id t hassign hrun hout hdone
  rw [if_neg hdone, hgoal.1, hgoal.2, hplan]
  by_cases hpath : r.gotoPath C q.data = []
  · rw [if_pos hpath, hpath]
    exact lost id t hassign hrun hout hdone hpath
  · rw [if_neg hpath]
    exact start id t hassign hrun hout hdone hpath

/-- A step that changes no safety field and no pose is safe. -/
theorem SameSafety.safeStep {r s : FakeRobot F} (h : SameSafety r s) (hpose : s.pose = r.pose) :
    SafeStep r s :=
  ⟨h.ready, h.active, h.online, h.lastConsole, hpose, fun hcons => hcons.of_same h, fun hc he => by
    rw [h.control]
    exact hc (h.estop ▸ he)⟩

/-- An accepted goto starts from a robot that was not running, and every other answer to a goto
leaves the robot stopped. -/
theorem taskGoto_spec (C : Type) [CFloat C] (q : Request) (taskId : Bytes) (r : FakeRobot F)
    (hblocked : ¬r.blocked) :
    ∃ s res, Answers q r (taskGoto C q taskId r) s res ∧ s.estop = r.estop ∧
      s.mode = r.mode ∧
      (r.phase = .running ∧ s = r ∧ res.ok = false ∨
        r.phase ≠ .running ∧ (res.ok = true ∧ res.status = .accepted ∨
          res.status ≠ .accepted ∧ s.phase ≠ .running)) := by
  unfold taskGoto
  by_cases hrun : r.phase = .running
  · rw [if_pos hrun]
    exact ⟨_, _, answers_reject .., rfl, rfl, Or.inl ⟨hrun, rfl, rfl⟩⟩
  rw [if_neg hrun]
  dsimp only
  generalize (extractNumber q.data "x" r.poseX).2 = x
  generalize (extractNumber q.data "y" r.poseY).2 = y
  by_cases hout : outside x y
  · rw [if_pos hout]
    exact ⟨_, _, answers_reject .., rfl, rfl, Or.inr ⟨hrun, Or.inr ⟨nofun, hrun⟩⟩⟩
  rw [if_neg hout]
  -- From here on the state is `r` up to the task counter.
  obtain ⟨hsame, hpose⟩ := assignTaskId_same taskId r
  generalize (assignTaskId taskId r).1 = id
  generalize (assignTaskId taskId r).2 = t at hsame hpose
  have hrun' : t.phase ≠ .running := by
    rw [hsame.phase]
    exact hrun
  by_cases hdone : t.taskId ≠ [] ∧ t.taskId = id ∧ t.taskStatus = .done
  · rw [if_pos hdone]
    exact ⟨_, _, Answers.reply rfl (hsame.safeStep hpose), hsame.estop, hsame.mode,
      Or.inr ⟨hrun, Or.inr ⟨nofun, hrun'⟩⟩⟩
  rw [if_neg hdone]
  generalize (Nav.GridMap.makeCorridorDemo (F := F)).inflate 1 = map
  generalize Nav.astar C map t.poseX t.poseY x y = path
  by_cases hpath : path = []
  · rw [if_pos hpath]
    let failed : FakeRobot F := { t with
      navMap := map
      navPath := path
      navStatus := .failed
      faults := t.faults ++
        [{ code := .taskFailed, level := .error, detail := ascii "A* no path to goal" }] }
    have hsafe : SafeStep r (recomputePhaseAndControl failed) :=
      recompute_safeStep (fun _ h => absurd h hrun')
        ⟨hsame.ready, hsame.active, hsame.online, hsame.lastConsole, hpose⟩
    exact ⟨_, _, Answers.replyAndPublish rfl hsafe, (recompute_estop failed).trans hsame.estop,
      (recompute_mode failed).trans hsame.mode,
      Or.inr ⟨hrun, Or.inr ⟨nofun, fun h => hrun' (recompute_phase_running (r := failed) h)⟩⟩⟩
  · rw [if_neg hpath]
    let started : FakeRobot F := startGoto map path x y id t
    have hclear : Consistent r → started.estop = false ∧ started.consoleOnline = true ∧
        started.hasErrorCondition = false := by
      intro hcons
      obtain ⟨hestop, honline, hidle⟩ := idle_of_not_blocked hcons hblocked hrun
      refine ⟨hsame.estop.trans hestop, hsame.online.trans honline, ?_⟩
      exact (hasErrorCondition_congr hsame.faults hsame.node).trans (hcons.idle hidle).2.1
    have hsafe : SafeStep r started :=
      start_safeStep rfl rfl hclear
        ⟨hsame.ready, hsame.active, hsame.online, hsame.lastConsole, hpose⟩
    exact ⟨_, _, Answers.replyAndPublish rfl hsafe, hsame.estop, hsame.mode,
      Or.inr ⟨hrun, Or.inl ⟨rfl, rfl⟩⟩⟩

/-- A resume is refused without a change, or found an idle robot. -/
theorem taskResume_spec (q : Request) (taskId : Bytes) (r : FakeRobot F) :
    ∃ s res, Answers q r (taskResume q taskId r) s res ∧ s.estop = r.estop ∧
      s.mode = r.mode ∧
      (res.ok = false ∧ s = r ∨ res.ok = true ∧ res.status = .accepted ∧ r.phase = .idle) := by
  unfold taskResume
  by_cases hcan : r.taskId ≠ [] ∧ r.taskType = .goto ∧ ¬r.estop ∧ r.phase = .idle ∧
      r.consoleOnline ∧ ¬r.hasErrorCondition ∧ r.navPath ≠ []
  · rw [if_pos hcan]
    obtain ⟨-, -, hestop, hidle, honline, herr, -⟩ := hcan
    let resumed : FakeRobot F := { r with
      phase := .running
      taskStatus := .executing
      navStatus := .tracking
      controlEnabled := false }
    have herr' : r.hasErrorCondition = false := by simpa using herr
    have hclear : Consistent r → resumed.estop = false ∧ resumed.consoleOnline = true ∧
        resumed.hasErrorCondition = false :=
      fun _ => ⟨by simpa using hestop, honline, (hasErrorCondition_congr rfl rfl).trans herr'⟩
    have hsafe : SafeStep r resumed := start_safeStep rfl rfl hclear ⟨rfl, rfl, rfl, rfl, rfl⟩
    exact ⟨_, _, Answers.replyAndPublish rfl hsafe, rfl, rfl, Or.inr ⟨rfl, rfl, hidle⟩⟩
  · rw [if_neg hcan]
    exact ⟨_, _, Answers.replyAndPublish rfl (SafeStep.refl r), rfl, rfl, Or.inl ⟨rfl, rfl⟩⟩

/-- An injected fault starts no motion. -/
theorem cmdInjectFault_spec (q : Request) (r : FakeRobot F) :
    ∃ s res, Answers q r (cmdInjectFault q r) s res ∧ s.estop = r.estop ∧ s.mode = r.mode ∧
      (s.phase = .running → r.phase = .running) := by
  let detail := (extractString q.data "detail").getD (ascii "injected by operator")
  let injected : FakeRobot F := { r with
    faults := r.faults ++ [{ code := .nodeTimeout, level := .error, detail := detail }]
    robotNode := .error
    taskStatus := r.taskStatus.failOngoing }
  have hsafe : SafeStep r (recomputePhaseAndControl injected) :=
    recompute_safeStep (fun hcons h => (hcons.running h).2.1) ⟨rfl, rfl, rfl, rfl, rfl⟩
  exact ⟨_, _, Answers.replyAndPublish rfl hsafe, recompute_estop injected,
    recompute_mode injected, fun h => recompute_phase_running (r := injected) h⟩

/-- A fault that is cleared starts no motion. -/
theorem cmdClearFault_spec (q : Request) (r : FakeRobot F) :
    ∃ s res, Answers q r (cmdClearFault q r) s res ∧ s.estop = r.estop ∧ s.mode = r.mode ∧
      (s.phase = .running → r.phase = .running) := by
  let cleared : FakeRobot F := { clearFaults r with
    bridgeNode := if (clearFaults r).consoleOnline then .ok else .warn }
  let t := recomputePhaseAndControl cleared
  have hsafe : SafeStep r t :=
    recompute_safeStep (fun hcons h => (hcons.running h).2.1) ⟨rfl, rfl, rfl, rfl, rfl⟩
  -- The recomputation has left `FAULT` already where it can be left.
  have hdead : ¬(t.phase = .fault ∧ ¬t.hasErrorCondition = true) :=
    fun h => h.2 (recompute_fault h.1)
  let s : FakeRobot F :=
    { t with controlEnabled := t.consoleOnline && decide (t.phase = Phase.idle) && !t.estop }
  have hclear : cmdClearFault q r = s.replyAndPublish q (.accepted q.seq q.cmd) := by
    unfold cmdClearFault
    dsimp only
    rw [if_neg hdead]
  have hsafe' : SafeStep r s := by
    refine ⟨hsafe.ready, hsafe.active, hsafe.online, hsafe.lastConsole, hsafe.pose,
      fun hcons => ?_, fun _ h => ?_⟩
    · have ht := hsafe.consistent hcons
      have hcontrol : s.controlEnabled = t.controlEnabled := by
        show (t.consoleOnline && decide (t.phase = Phase.idle) && !t.estop) = _
        rw [ht.controlEnabled_eq]
        by_cases hidle : t.phase = .idle
        · simp [hidle, (ht.idle hidle).1]
        · simp [hidle]
      exact ht.of_same ⟨rfl, hcontrol, rfl, rfl, rfl, rfl, rfl, rfl, rfl, rfl⟩
    · have ht : t.estop = true := h
      show (t.consoleOnline && decide (t.phase = Phase.idle) && !t.estop) = false
      simp [ht]
  rw [hclear]
  exact ⟨_, _, Answers.replyAndPublish rfl hsafe', recompute_estop cleared,
    recompute_mode cleared, fun h => recompute_phase_running (r := cleared) h⟩

/-! ### The whole handler -/

/-- The branches of the name chain. -/
theorem dispatch_cases {C : Type} [CFloat C] {P : Handled F → Prop} {q : Request}
    {r : FakeRobot F}
    (estop : q.cmd = ascii "CMD_ESTART" ∨ q.cmd = ascii "CMD_ESTOP" → P (cmdEstop q r))
    (reset : q.cmd = ascii "CMD_RESET" → P (cmdReset q r))
    (mode : q.cmd = ascii "CMD_MODE" → P (cmdMode q r))
    (task : q.cmd = ascii "CMD_TASK" → P (cmdTask C q r))
    (inject : q.cmd = ascii "INJECT_FAULT" ∨ q.cmd = ascii "CMD_INJECT_FAULT" →
      P (cmdInjectFault q r))
    (clear : q.cmd = ascii "CLEAR_FAULT" ∨ q.cmd = ascii "CMD_CLEAR_FAULT" →
      P (cmdClearFault q r))
    (other : q.cmd ≠ ascii "CMD_TASK" → P (r.reply (.rejected q.seq q.cmd .notImplemented))) :
    P (dispatch C q r) := by
  unfold dispatch
  split
  · exact estop ‹_›
  split
  · exact reset ‹_›
  split
  · exact mode ‹_›
  split
  · exact task ‹_›
  split
  · exact inject ‹_›
  split
  · exact clear ‹_›
  · exact other ‹_›

/-- The type of a task command, as the handler reads it. -/
def taskType? (q : Request) : Bytes := (extractString q.data "type").getD []

/-- The branches of `CMD_TASK`. -/
theorem cmdTask_cases {C : Type} [CFloat C] {P : Handled F → Prop} {q : Request}
    {r : FakeRobot F}
    (pause : ∀ taskId, taskType? q = ascii "pause" → P (taskPause q taskId r))
    (cancel : taskType? q = ascii "cancel" → P (taskCancel q r))
    (goto : ∀ taskId, taskType? q = ascii "goto" → ¬r.blocked → P (taskGoto C q taskId r))
    (resume : ∀ taskId, taskType? q = ascii "resume" → ¬r.blocked → P (taskResume q taskId r))
    (reject : ∀ reason taskId, taskType? q ≠ ascii "pause" → taskType? q ≠ ascii "cancel" →
      P (r.reply (.rejected q.seq q.cmd reason taskId))) :
    P (cmdTask C q r) := by
  unfold cmdTask
  dsimp only
  split
  · exact pause _ ‹_›
  split
  · exact cancel ‹_›
  split
  · exact reject _ _ ‹_› ‹_›
  split
  · exact goto _ ‹_› ‹_›
  split
  · exact resume _ ‹_› ‹_›
  · exact reject _ _ ‹_› ‹_›

/-- The id of a task command, as the handler reads it. -/
def taskId? (q : Request) : Bytes := (extractString q.data "task_id").getD []

/-! The branch that each type of task command takes. -/

section

variable {C : Type} [CFloat C]

/-- A pause is served whatever the state is. -/
theorem cmdTask_pause {q : Request} (h : taskType? q = ascii "pause") (r : FakeRobot F) :
    cmdTask C q r = taskPause q (taskId? q) r := by
  have htype : (extractString q.data "type").getD [] = ascii "pause" := h
  unfold cmdTask
  dsimp only
  rw [if_pos htype]
  rfl

/-- So is a cancel. -/
theorem cmdTask_cancel {q : Request} (h : taskType? q = ascii "cancel") (r : FakeRobot F) :
    cmdTask C q r = taskCancel q r := by
  have htype : (extractString q.data "type").getD [] = ascii "cancel" := h
  have hne : ascii "cancel" ≠ ascii "pause" := by decide
  unfold cmdTask
  dsimp only
  rw [htype, if_neg hne, if_pos rfl]

/-- Every other task command is refused while the robot is blocked. -/
theorem cmdTask_blocked {q : Request} (hpause : taskType? q ≠ ascii "pause")
    (hcancel : taskType? q ≠ ascii "cancel") {r : FakeRobot F} (hblocked : r.blocked) :
    cmdTask C q r = r.reply (.rejected q.seq q.cmd r.blockedReason (taskId? q)) := by
  unfold cmdTask
  unfold taskType? at hpause hcancel
  dsimp only
  rw [if_neg hpause, if_neg hcancel, if_pos hblocked]
  rfl

/-- A goto reaches its handler when nothing blocks. -/
theorem cmdTask_goto {q : Request} (h : taskType? q = ascii "goto") {r : FakeRobot F}
    (hfree : ¬r.blocked) : cmdTask C q r = taskGoto C q (taskId? q) r := by
  have htype : (extractString q.data "type").getD [] = ascii "goto" := h
  have hne : ascii "goto" ≠ ascii "pause" ∧ ascii "goto" ≠ ascii "cancel" := by decide
  unfold cmdTask
  dsimp only
  rw [htype, if_neg hne.1, if_neg hne.2, if_neg hfree, if_pos rfl]
  rfl

/-- So does a resume. -/
theorem cmdTask_resume {q : Request} (h : taskType? q = ascii "resume") {r : FakeRobot F}
    (hfree : ¬r.blocked) : cmdTask C q r = taskResume q (taskId? q) r := by
  have htype : (extractString q.data "type").getD [] = ascii "resume" := h
  have hne : ascii "resume" ≠ ascii "pause" ∧ ascii "resume" ≠ ascii "cancel" ∧
      ascii "resume" ≠ ascii "goto" := by decide
  unfold cmdTask
  dsimp only
  rw [htype, if_neg hne.1, if_neg hne.2.1, if_neg hfree, if_neg hne.2.2, if_pos rfl]
  rfl

/-- Every other type is refused as unknown. -/
theorem cmdTask_other {q : Request} (hpause : taskType? q ≠ ascii "pause")
    (hcancel : taskType? q ≠ ascii "cancel") (hgoto : taskType? q ≠ ascii "goto")
    (hresume : taskType? q ≠ ascii "resume") {r : FakeRobot F} (hfree : ¬r.blocked) :
    cmdTask C q r = r.reply (.rejected q.seq q.cmd .unknownTask (taskId? q)) := by
  unfold cmdTask
  unfold taskType? at hpause hcancel hgoto hresume
  dsimp only
  rw [if_neg hpause, if_neg hcancel, if_neg hfree, if_neg hgoto, if_neg hresume]
  rfl

end

/-- Every command is answered. -/
theorem cmdTask_answers (C : Type) [CFloat C] (q : Request) (r : FakeRobot F) :
    ∃ s res, Answers q r (cmdTask C q r) s res ∧ s.estop = r.estop ∧ s.mode = r.mode := by
  refine cmdTask_cases (P := fun h => ∃ s res, Answers q r h s res ∧ s.estop = r.estop ∧
    s.mode = r.mode) (fun taskId _ => ?_) (fun _ => ?_) (fun taskId _ hb => ?_)
    (fun taskId _ _ => ?_) (fun reason taskId _ _ => ?_)
  · obtain ⟨s, res, ha, he, hm, -⟩ := taskPause_spec q taskId r
    exact ⟨s, res, ha, he, hm⟩
  · obtain ⟨s, res, ha, he, hm, -⟩ := taskCancel_spec q r
    exact ⟨s, res, ha, he, hm⟩
  · obtain ⟨s, res, ha, he, hm, -⟩ := taskGoto_spec C q taskId r hb
    exact ⟨s, res, ha, he, hm⟩
  · obtain ⟨s, res, ha, he, hm, -⟩ := taskResume_spec q taskId r
    exact ⟨s, res, ha, he, hm⟩
  · exact ⟨_, _, answers_reject q r reason taskId, rfl, rfl⟩

/-- Every command has exactly one answer, with its own number, and is a safe step. -/
theorem dispatch_answers (C : Type) [CFloat C] (q : Request) (r : FakeRobot F) :
    ∃ s res, Answers q r (dispatch C q r) s res := by
  refine dispatch_cases (P := fun h => ∃ s res, Answers q r h s res)
    (fun _ => ?_) (fun _ => ?_) (fun _ => ?_) (fun _ => ?_) (fun _ => ?_) (fun _ => ?_)
    (fun _ => ?_)
  · obtain ⟨s, res, ha, -⟩ := cmdEstop_spec q r
    exact ⟨s, res, ha⟩
  · obtain ⟨s, res, ha, -⟩ := cmdReset_spec q r
    exact ⟨s, res, ha⟩
  · obtain ⟨s, res, ha, -⟩ := cmdMode_spec q r
    exact ⟨s, res, ha⟩
  · obtain ⟨s, res, ha, -⟩ := cmdTask_answers C q r
    exact ⟨s, res, ha⟩
  · obtain ⟨s, res, ha, -⟩ := cmdInjectFault_spec q r
    exact ⟨s, res, ha⟩
  · obtain ⟨s, res, ha, -⟩ := cmdClearFault_spec q r
    exact ⟨s, res, ha⟩
  · exact ⟨_, _, answers_reject q r .notImplemented []⟩

/-- The request that a message makes, when it has a command. -/
def request? (F : Type) [CDouble F] (nowMs : UInt64) (data : Bytes) : Option Request :=
  (extractString data "cmd").map fun cmd =>
    { nowMs := nowMs, data := data, cmd := cmd, seq := extractSeq F data }

/-- What a request was read from. -/
theorem request?_eq {nowMs : UInt64} {data : Bytes} {q : Request}
    (h : request? F nowMs data = some q) :
    extractString data "cmd" = some q.cmd ∧ q.data = data ∧ q.seq = extractSeq F data := by
  simp only [request?, Option.map_eq_some_iff] at h
  obtain ⟨cmd, hcmd, rfl⟩ := h
  exact ⟨hcmd, rfl, rfl⟩

/-- The callback parses its request, reads the lost console and dispatches. -/
theorem onCmd_eq (C : Type) [CFloat C] (nowMs : UInt64) (data : Bytes) (r : FakeRobot F) :
    onCmd C nowMs data r =
      match request? F nowMs data with
      | none => (r, [])
      | some q => dispatch C q r := by
  unfold onCmd request?
  cases extractString data "cmd" <;> rfl

/-! ### What a callback does -/

/-- **What a callback does**: when it is called, the state that it leaves, and what it publishes.
A command message without a command does nothing. -/
inductive Handles (C : Type) [CFloat C] (r : FakeRobot F) (e : Event) :
    FakeRobot F → List (Output F) → Prop
  | configure (hc : e.call = .configure) :
      Handles C r e (onConfigure e.nowMs r).1 (onConfigure e.nowMs r).2
  | activate (now : Int) (hc : e.call = .activate now) :
      Handles C r e (onActivate now e.nowMs r).1 (onActivate now e.nowMs r).2
  | deactivate (hc : e.call = .deactivate) : Handles C r e (onDeactivate r) []
  | cleanup (hc : e.call = .cleanup) : Handles C r e (onCleanup r) []
  | shutdown (hc : e.call = .shutdown) : Handles C r e (onCleanup r) []
  | console (data : Bytes) (hc : e.call = .console data) (hready : r.topicsReady = true) :
      Handles C r e (onConsole e.nowMs data r).1 (onConsole e.nowMs data r).2
  | noCmd (data : Bytes) (hc : e.call = .cmd data) (hready : r.topicsReady = true)
      (hq : request? F e.nowMs data = none) : Handles C r e r []
  | cmd (data : Bytes) (q : Request) (hc : e.call = .cmd data) (hready : r.topicsReady = true)
      (hq : request? F e.nowMs data = some q) :
      Handles C r e (dispatch C q r).1 (dispatch C q r).2
  | tick (now : Int) (fuel : Nat) (s : FakeRobot F) (out : List (Output F))
      (hc : e.call = .tick now fuel) (htick : tick C now e.nowMs fuel r = some (s, out)) :
      Handles C r e s out

/-- The cases of a callback. What is proved of `handle` goes through them. -/
theorem handle_cases {C : Type} [CFloat C] {r s : FakeRobot F} {e : Event}
    {out : List (Output F)} (h : handle C r e = some (s, out)) : Handles C r e s out := by
  unfold handle at h
  cases hc : e.call with
  | configure =>
      simp only [hc] at h
      cases h
      exact .configure hc
  | activate now =>
      simp only [hc] at h
      cases h
      exact .activate now hc
  | deactivate =>
      simp only [hc] at h
      cases h
      exact .deactivate hc
  | cleanup =>
      simp only [hc] at h
      cases h
      exact .cleanup hc
  | shutdown =>
      simp only [hc] at h
      cases h
      exact .shutdown hc
  | console data =>
      simp only [hc] at h
      split at h
      · cases h
        exact .console data hc ‹_›
      · cases h
  | cmd data =>
      -- The subscription is up, and the message has a command or not.
      simp only [hc] at h
      split at h
      · rw [onCmd_eq] at h
        cases hq : request? F e.nowMs data with
        | none =>
            simp only [hq] at h
            cases h
            exact .noCmd data hc ‹_› hq
        | some q =>
            simp only [hq] at h
            have hcmd := Handles.cmd (C := C) data q hc ‹_› hq
            rw [Option.some.inj h] at hcmd
            exact hcmd
      · cases h
  | tick now fuel =>
      simp only [hc] at h
      exact .tick now fuel s out hc h

end BotCockpit.Sim.FakeRobot
