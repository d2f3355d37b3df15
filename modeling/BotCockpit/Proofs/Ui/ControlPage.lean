import BotCockpit.Proofs.Sim.EstopLatch
import BotCockpit.Proofs.Sim.Goto
import BotCockpit.Proofs.Sim.Resume
import BotCockpit.Proofs.Sim.StateMessage
import BotCockpit.Proofs.Ui.Delta
import BotCockpit.Proofs.Ui.Liveness
import BotCockpit.Ui.ControlPage

/-!
# `BotCockpit.Proofs.Ui.ControlPage`: what the page offers is what the robot takes

The page decides which buttons are enabled from the last state message, and the robot decides anew
when the command comes. The message shows every field that the page looks at (`shows_applyState`),
so on the state that the page shows the two agree (`buttons_agree`): a click on an enabled button is
not refused, except for a goal without a path, and no command is taken that the page would not have
sent. The text of a legible state brings the page there (`buttons_agree_heard`).
-/

set_option autoImplicit false

namespace BotCockpit.Ui.RobotState

open BotCockpit.Lib
open BotCockpit.Sim (FakeRobot Phase PrintsDoubles Reachable Entry CmdResult Request)
open BotCockpit.Sim.FakeRobot

variable {F : Type} [CDouble F]

/-! ### What a state message shows -/

/-- The page shows the robot in the fields that its buttons look at. -/
structure Shows (u : RobotState F) (r : FakeRobot F) : Prop where
  phase : u.phase = ascii r.phase.text
  mode : u.mode = ascii r.mode.text
  estop : u.estop = r.estop
  controlEnabled : u.controlEnabled = r.controlEnabled
  taskType : u.taskType = ascii r.taskType.text

/-- After the state of the robot is applied the console shows it. -/
theorem shows_applyState [QVariants F] (nowMs : UInt64) (r : FakeRobot F) (u : RobotState F) :
    Shows (applyState (r.stateJson nowMs) u) r := by
  obtain ⟨hmode, hphase, hestop, hcontrol, htask, -⟩ := Sim.FakeRobot.find?_view nowMs r
  have htype : (Sim.FakeRobot.taskJson r).find? "type" =
      some (if r.taskType = .goto then .lit "goto" else .null) := by
    simp only [Sim.FakeRobot.taskJson, Json.find?_object_cons, Json.find?_object_nil]
    rfl
  rw [applyState_eq]
  constructor
  · simp [applyLiveness, applyFlags, contains, value, hphase, toText, Json.lit]
  · simp [applyLiveness, applyFlags, contains, value, hmode, toText, Json.lit]
  · simp [applyLiveness, applyFlags, contains, value, hestop, toBool]
  · simp [applyLiveness, applyFlags, contains, value, hcontrol, toBool]
  · show (nextTask F u.taskView ((r.stateJson nowMs).find? "task")).2.1 = _
    simp only [htask, nextTask, Option.elim_some, htype, nextText]
    cases r.taskType <;> rfl

/-- A state message leaves the connection as it is. -/
theorem connected_applyState [QVariants F] (map : Json) (u : RobotState F) :
    (applyState map u).connected = u.connected :=
  congrArg Prod.fst (resetFields_applyState map u)

/-! ### The buttons and the robot -/

section Buttons

variable {C : Type} [CFloat C] {r s : FakeRobot F} {u : RobotState F}

/-- A robot that is ready has control exactly when it takes motions and stands still. -/
theorem control_iff_free (hcons : Consistent r) :
    r.controlEnabled = true ↔ ¬r.blocked ∧ r.phase ≠ .running := by
  rw [hcons.control]
  constructor
  · rintro ⟨hidle, honline⟩
    simp [blocked, hidle, honline, (hcons.idle hidle).1]
  · rintro ⟨hfree, hstill⟩
    obtain ⟨-, honline, hidle⟩ := idle_of_not_blocked hcons hfree hstill
    exact ⟨hidle, honline⟩

/-- The page lets the operator drive exactly when the robot takes motions and stands still. -/
theorem canDrive_iff [QVariants F] (hcons : Consistent r) (hlink : u.connected = true)
    (nowMs : UInt64) :
    (applyState (r.stateJson nowMs) u).canDrive ↔ ¬r.blocked ∧ r.phase ≠ .running := by
  have hshows := shows_applyState nowMs r u
  have hconnected : (applyState (r.stateJson nowMs) u).connected = true :=
    (connected_applyState _ u).trans hlink
  rw [← control_iff_free hcons]
  constructor
  · exact fun h => hshows.controlEnabled.symm.trans h.2.1
  · -- A robot with control is idle, so it is not stopped, and its message is taken for a live one.
    intro hcontrol
    refine ⟨hconnected, hshows.controlEnabled.trans hcontrol, ?_, ?_⟩
    · rw [hshows.estop]
      exact (hcons.idle (hcons.control.mp hcontrol).1).1
    · rw [hasRobotState_applyState]
      exact (robotState_stateJson nowMs r).mpr (.inl hcontrol)

/-- A goal the page lets through is one the robot does not refuse for its range. -/
theorem goalInRange_inside (hle : ∀ a b : F, a ≤ b → ¬b < a) {x y : F} (h : goalInRange x y) :
    ¬outside x y := by
  obtain ⟨-, -, hx, hx', hy, hy'⟩ := h
  rintro (hout | hout | hout | hout)
  · exact hle _ _ hx hout
  · exact hle _ _ hx' hout
  · exact hle _ _ hy hout
  · exact hle _ _ hy' hout

/-! ### The answers of the robot -/

/-- A command with one answer is accepted exactly when that answer says so. -/
theorem answeredOk_iff {x : Entry F} {res : CmdResult}
    (h : x.2.filterMap Sim.Output.result? = [res]) : x.AnsweredOk ↔ res.ok = true := by
  have hmem : ∀ res', Sim.Output.result res' ∈ x.2 ↔ res' = res := by
    intro res'
    rw [← List.mem_singleton, ← h, List.mem_filterMap]
    constructor
    · exact fun hmem => ⟨_, hmem, rfl⟩
    · rintro ⟨out, hmem, hout⟩
      cases out with
      | state nowMs t => cases hout
      | result res'' =>
          cases hout
          exact hmem
  unfold Entry.AnsweredOk
  simp [hmem]

/-- A pause is answered once, and accepted exactly while a task runs. -/
theorem taskPause_answer {q : Request} (taskId : Bytes) (hready : r.topicsReady = true) :
    ∃ res, (taskPause q taskId r).2.filterMap Sim.Output.result? = [res] ∧
      (res.ok = true ↔ r.phase = .running) := by
  unfold taskPause
  split
  · rename_i hrun
    refine ⟨_, results_replyAndPublish ?_ _, iff_of_true ?_ hrun⟩
    · exact (recompute_topicsReady _).trans hready
    · rfl
  · rename_i hstill
    refine ⟨_, results_replyAndPublish hready _, iff_of_false ?_ hstill⟩
    exact Bool.false_ne_true

/-- A cancel is answered once and accepted. -/
theorem taskCancel_answer {q : Request} (hready : r.topicsReady = true) :
    ∃ res, (taskCancel q r).2.filterMap Sim.Output.result? = [res] ∧ res.ok = true := by
  refine ⟨_, results_replyAndPublish ?_ _, ?_⟩
  · exact (recompute_topicsReady _).trans hready
  · rfl

/-- A resume is only taken for a goto, and while the robot is not stopped. -/
theorem taskResume_answer {q : Request} (taskId : Bytes) (hready : r.topicsReady = true) :
    ∃ res, (taskResume q taskId r).2.filterMap Sim.Output.result? = [res] ∧
      (res.ok = true → r.taskType = .goto ∧ r.estop = false) := by
  unfold taskResume
  split
  · rename_i hresume
    refine ⟨_, results_replyAndPublish ?_ _, fun _ => ?_⟩
    · exact hready
    · exact ⟨hresume.2.1, Bool.eq_false_iff.mpr hresume.2.2.1⟩
  · refine ⟨_, results_replyAndPublish hready _, fun hok => ?_⟩
    exact absurd hok Bool.false_ne_true

/-- An emergency stop is answered once and accepted. -/
theorem cmdEstop_answer {q : Request} (hready : r.topicsReady = true) :
    ∃ res, (cmdEstop q r).2.filterMap Sim.Output.result? = [res] ∧ res.ok = true := by
  refine ⟨_, results_replyAndPublish ?_ _, ?_⟩
  · split <;> exact hready
  · rfl

variable {e : Sim.Event} {out : List (Sim.Output F)}

/-- A command comes to `dispatch`. -/
theorem handle_request {data cmd : Bytes} (hstep : handle C r e = some (s, out))
    (hcall : e.call = .cmd data) (hcmd : Sim.extractString data "cmd" = some cmd) :
    r.topicsReady = true ∧
      dispatch C ⟨e.nowMs, data, cmd, Sim.extractSeq F data⟩ r = (s, out) := by
  obtain ⟨hready, honcmd⟩ := handle_cmd hcall hstep
  have hq : request? F e.nowMs data = some ⟨e.nowMs, data, cmd, Sim.extractSeq F data⟩ := by
    rw [request?, hcmd]
    rfl
  rw [onCmd_eq, hq] at honcmd
  exact ⟨hready, honcmd⟩

/-- A task command comes to `cmdTask`. -/
theorem handle_task {type : String} (hstep : handle C r e = some (s, out))
    (h : Entry.AsksTask (e, out) type) :
    ∃ q, r.topicsReady = true ∧ taskType? q = ascii type ∧ cmdTask C q r = (s, out) := by
  obtain ⟨data, q, hcall, hq, hcmd, htype⟩ := Sim.FakeRobot.asksTask_request h
  obtain ⟨hready, honcmd⟩ := handle_cmd hcall hstep
  rw [onCmd_eq, hq] at honcmd
  exact ⟨q, hready, htype, (dispatch_task hcmd r).symm.trans honcmd⟩

/-! ### The page and the robot -/

/-- What the page offers in the state `u`, and what the robot answers to the command of `x`. -/
structure Agrees (C : Type) [CFloat C] (u : RobotState F) (r : FakeRobot F) (x : Entry F) :
    Prop where
  goto : ∀ data, x.1.call = .cmd data → x.AsksTask "goto" →
    u.gotoEnabled (r.gotoGoal data).1 (r.gotoGoal data).2 →
    (x.AnsweredOk ↔ r.RepeatsDone data ∨ r.gotoPath C data ≠ [])
  gotoTaken : x.AsksTask "goto" → x.AnsweredOk → u.canDrive
  resumeTaken : x.AsksTask "resume" → x.AnsweredOk → u.resumeEnabled
  pause : x.AsksTask "pause" → (x.AnsweredOk ↔ u.pauseEnabled)
  cancel : x.AsksTask "cancel" → (x.AnsweredOk ↔ u.cancelEnabled)
  auto : x.AsksMode "AUTO" → u.autoEnabled → x.AnsweredOk
  mode : ∀ mode ∈ ["TELEOP", "REMOTE"], x.AsksMode mode → u.modeEnabled mode → x.AnsweredOk
  estop : x.Asks "CMD_ESTOP" → (x.AnsweredOk ↔ u.canEstop)

/-- A goto in a free state is accepted exactly when it repeats a done task or has a path. -/
theorem goto_answered (hstep : handle C r e = some (s, out)) {data : Bytes}
    (hcall : e.call = .cmd data) (h : Entry.AsksTask (e, out) "goto")
    (hfree : ¬r.blocked ∧ r.phase ≠ .running)
    (hin : ¬outside (r.gotoGoal data).1 (r.gotoGoal data).2) :
    Entry.AnsweredOk (e, out) ↔ r.RepeatsDone data ∨ r.gotoPath C data ≠ [] := by
  obtain ⟨data', hcall', hcmd, htype⟩ := h
  obtain rfl : data' = data := by
    have hcalls := hcall'.symm.trans hcall
    cases hcalls
    rfl
  obtain ⟨res, hres, hanswer⟩ := handle_goto (P := fun _ res =>
      res.ok = true ↔ r.RepeatsDone data' ∨ r.gotoPath C data' ≠ []) hcall hcmd htype hstep
    (fun _ hblocked => absurd hblocked hfree.1) (fun _ hrun => absurd hrun hfree.2)
    (fun _ _ _ hout => absurd hout hin) (fun _ _ hdone => iff_of_true rfl (.inl hdone))
    (fun _ _ hdone hpath => iff_of_false Bool.false_ne_true
      fun h => h.elim hdone fun hne => hne hpath)
    (fun _ _ _ hpath => iff_of_true rfl (.inr hpath))
  exact (answeredOk_iff hres).trans hanswer

/-- A goto that is accepted found the robot neither blocked nor running. -/
theorem goto_taken (hstep : handle C r e = some (s, out))
    (h : Entry.AsksTask (e, out) "goto") (hok : Entry.AnsweredOk (e, out)) :
    ¬r.blocked ∧ r.phase ≠ .running := by
  obtain ⟨data, hcall, hcmd, htype⟩ := h
  obtain ⟨res, hres, hanswer⟩ := handle_goto (P := fun _ res =>
      res.ok = true → ¬r.blocked ∧ r.phase ≠ .running) hcall hcmd htype hstep
    (fun _ _ hok => absurd hok Bool.false_ne_true) (fun _ _ hok => absurd hok Bool.false_ne_true)
    (fun _ _ _ _ hok => absurd hok Bool.false_ne_true)
    (fun _ hadmits _ _ => ⟨hadmits.free, hadmits.still⟩)
    (fun _ _ _ _ hok => absurd hok Bool.false_ne_true)
    (fun _ hadmits _ _ _ => ⟨hadmits.free, hadmits.still⟩)
  exact hanswer ((answeredOk_iff hres).mp hok)

/-- A resume that is accepted found a goto and no emergency stop. -/
theorem resume_taken (hstep : handle C r e = some (s, out))
    (h : Entry.AsksTask (e, out) "resume") (hok : Entry.AnsweredOk (e, out)) :
    r.taskType = .goto ∧ r.estop = false := by
  obtain ⟨q, hready, htype, hcmd⟩ := handle_task hstep h
  have hout : out = (cmdTask C q r).2 := (congrArg Prod.snd hcmd).symm
  -- A robot that takes no motion refuses before it looks at the type.
  by_cases hblocked : r.blocked
  · have hne : taskType? q ≠ ascii "pause" ∧ taskType? q ≠ ascii "cancel" := by
      rw [htype]
      decide
    rw [cmdTask_blocked hne.1 hne.2 hblocked] at hout
    subst hout
    exact absurd ((answeredOk_iff (results_reply hready _)).mp hok) Bool.false_ne_true
  · rw [cmdTask_resume htype hblocked] at hout
    subst hout
    obtain ⟨res, hres, hanswer⟩ := taskResume_answer (q := q) (taskId? q) hready
    exact hanswer ((answeredOk_iff hres).mp hok)

/-- A pause is accepted exactly while a task runs. -/
theorem pause_answered (hstep : handle C r e = some (s, out))
    (h : Entry.AsksTask (e, out) "pause") :
    Entry.AnsweredOk (e, out) ↔ r.phase = .running := by
  obtain ⟨q, hready, htype, hcmd⟩ := handle_task hstep h
  rw [cmdTask_pause htype] at hcmd
  obtain rfl : (taskPause q (taskId? q) r).2 = out := congrArg Prod.snd hcmd
  obtain ⟨res, hres, hanswer⟩ := taskPause_answer (q := q) (taskId? q) hready
  exact (answeredOk_iff hres).trans hanswer

/-- A cancel is always accepted. -/
theorem cancel_answered (hstep : handle C r e = some (s, out))
    (h : Entry.AsksTask (e, out) "cancel") : Entry.AnsweredOk (e, out) := by
  obtain ⟨q, hready, htype, hcmd⟩ := handle_task hstep h
  rw [cmdTask_cancel htype] at hcmd
  obtain rfl : (taskCancel q r).2 = out := congrArg Prod.snd hcmd
  obtain ⟨res, hres, hok⟩ := taskCancel_answer (q := q) hready
  exact (answeredOk_iff hres).mpr hok

/-- A change of mode is accepted; to AUTO, when nothing blocks. -/
theorem mode_answered (hstep : handle C r e = some (s, out)) {mode : String}
    (hmode : mode ∈ ["TELEOP", "AUTO", "REMOTE"]) (h : Entry.AsksMode (e, out) mode)
    (hfree : mode = "AUTO" → ¬r.blocked) : Entry.AnsweredOk (e, out) := by
  obtain ⟨data, hcall, hcmd, htext⟩ := h
  obtain ⟨hready, hdispatch⟩ := handle_request hstep hcall hcmd
  rw [dispatch_mode rfl] at hdispatch
  -- The text names a mode, and only `AUTO` names the one that may be refused.
  obtain ⟨m, hm, hauto⟩ : ∃ m, modeOf (ascii mode) = some m ∧ (m = .auto → mode = "AUTO") := by
    simp only [List.mem_cons, List.not_mem_nil, or_false] at hmode
    rcases hmode with rfl | rfl | rfl
    · exact ⟨.teleop, by decide, fun h => by cases h⟩
    · exact ⟨.auto, by decide, fun _ => rfl⟩
    · exact ⟨.remote, by decide, fun h => by cases h⟩
  have hbind : (Sim.extractString data "mode").bind modeOf = some m := by
    rw [htext]
    exact hm
  have htaken : ¬(m = .auto ∧ r.blocked) := fun h => hfree (hauto h.1) h.2
  have hout := congrArg Prod.snd hdispatch
  unfold cmdMode at hout
  simp only [hbind, htaken, if_false] at hout
  subst hout
  exact (answeredOk_iff (results_replyAndPublish (r := { r with mode := m }) hready _)).mpr rfl

/-- An emergency stop is always accepted. -/
theorem estop_answered (hstep : handle C r e = some (s, out))
    (h : Entry.Asks (e, out) "CMD_ESTOP") : Entry.AnsweredOk (e, out) := by
  obtain ⟨data, hcall, hcmd⟩ := h
  obtain ⟨hready, hdispatch⟩ := handle_request hstep hcall hcmd
  have hout := congrArg Prod.snd hdispatch
  unfold dispatch at hout
  rw [if_pos (.inr rfl)] at hout
  obtain ⟨res, hres, hok⟩ := cmdEstop_answer (q := ⟨e.nowMs, data, _, Sim.extractSeq F data⟩) hready
  rw [hout] at hres
  exact (answeredOk_iff hres).mpr hok

end Buttons

/-- On the state that the page shows, the page and the robot decide alike. -/
theorem agrees_applyState [QVariants F] {C : Type} [CFloat C] (hle : ∀ a b : F, a ≤ b → ¬b < a)
    {h : Sim.Node.History F} {n m : Sim.Node F} {e : Sim.Event} {out : List (Sim.Output F)}
    (hrun : Sim.Node.Runs C h n) (hstep : Sim.Node.step C n e = some (m, out))
    {u : RobotState F} (hlink : u.connected = true) (nowMs : UInt64) :
    Agrees C (applyState (n.robot.stateJson nowMs) u) n.robot (e, out) := by
  have hhandle := Sim.Node.step_handle hstep
  have hshows := shows_applyState nowMs n.robot u
  have hconnected : (applyState (n.robot.stateJson nowMs) u).connected = true :=
    (connected_applyState _ u).trans hlink
  -- The page's test for driving is the robot's own, on the state that is shown.
  have hdrive : ∀ data, e.call = .cmd data →
      ((applyState (n.robot.stateJson nowMs) u).canDrive ↔
        ¬n.robot.blocked ∧ n.robot.phase ≠ .running) := fun data hcall =>
    canDrive_iff (hrun.inv.consistent (handle_cmd hcall hhandle).1) hlink nowMs
  constructor
  case goto =>
    intro data hcall hasks henabled
    exact goto_answered hhandle hcall hasks ((hdrive data hcall).mp henabled.1)
      (goalInRange_inside hle henabled.2)
  case gotoTaken =>
    intro hasks hok
    obtain ⟨data, hcall, -⟩ := id hasks
    exact (hdrive data hcall).mpr (goto_taken hhandle hasks hok)
  case resumeTaken =>
    intro hasks hok
    obtain ⟨htype, hestop⟩ := resume_taken hhandle hasks hok
    refine ⟨hconnected, hshows.estop.trans hestop, hshows.taskType.trans ?_⟩
    rw [htype]
    rfl
  case pause =>
    intro hasks
    -- The page compares the name of the phase.
    have hrunning : ascii n.robot.phase.text = ascii "RUNNING" ↔ n.robot.phase = .running := by
      cases n.robot.phase <;> simp [Phase.text] <;> decide
    rw [pause_answered hhandle hasks, pauseEnabled, hshows.phase, hrunning]
    exact ⟨fun hphase => ⟨hconnected, hphase⟩, And.right⟩
  case cancel =>
    exact fun hasks => iff_of_true (cancel_answered hhandle hasks) hconnected
  case auto =>
    intro hasks henabled
    obtain ⟨data, hcall, -⟩ := id hasks
    exact mode_answered hhandle (by decide) hasks fun _ => ((hdrive data hcall).mp henabled).1
  case mode =>
    intro mode hmode hasks henabled
    refine mode_answered hhandle ?_ hasks fun hauto => ?_
    · simp only [List.mem_cons] at hmode ⊢
      tauto
    · subst hauto
      exact absurd hmode (by decide)
  case estop =>
    exact fun hasks => iff_of_true (estop_answered hhandle hasks) hconnected

/-- **The page offers what the robot takes.** In every run of the robot, on a page that shows its
state over a live link: a goal of an enabled button is taken unless there is no path to it, Pause,
Cancel and the emergency stop are taken exactly when they are enabled, an enabled mode is taken, and
the robot takes no goal and no Resume that the page would not have sent. -/
theorem buttons_agree [QVariants F] {C : Type} [CFloat C] (hle : ∀ a b : F, a ≤ b → ¬b < a)
    {h : Sim.Node.History F} {n m : Sim.Node F} {e : Sim.Event} {out : List (Sim.Output F)}
    (hrun : Sim.Node.Runs C h n) (hstep : Sim.Node.step C n e = some (m, out))
    {u : RobotState F} (hlink : u.connected = true) (nowMs : UInt64) :
    Agrees C (applyState (n.robot.stateJson nowMs) u) n.robot (e, out) :=
  agrees_applyState hle hrun hstep hlink nowMs

/-- The same on a page that has heard the text of the state, when that is legible. -/
theorem buttons_agree_heard [Qt F] (hread : ReadsStates F) (hprint : PrintsDoubles F) {C : Type}
    [CFloat C] (hle : ∀ a b : F, a ≤ b → ¬b < a) {h : Sim.Node.History F} {n m : Sim.Node F}
    {e : Sim.Event} {out : List (Sim.Output F)} (hrun : Sim.Node.Runs C h n)
    (hstep : Sim.Node.step C n e = some (m, out)) (hlegible : Legible n.robot)
    {u : RobotState F} (hlink : u.connected = true) (nowMs : UInt64) :
    Agrees C (hear (n.robot.buildStateJson nowMs) u) n.robot (e, out) := by
  rw [hear_buildStateJson hread hprint hlegible]
  exact agrees_applyState hle hrun hstep hlink nowMs

/-- The robot drives, and the operator pauses it. -/
theorem buttons_agree_pause :
    Agrees Exact.Cost (applyState (Sim.movingNode.robot.stateJson 5) { connected := true })
      Sim.movingNode.robot (Sim.pauseEvent, Sim.pausedStep.2) :=
  buttons_agree (fun _ _ hle => Rat.not_lt.mpr hle) Sim.runs_moving (Option.some_get _).symm rfl 5

end BotCockpit.Ui.RobotState
