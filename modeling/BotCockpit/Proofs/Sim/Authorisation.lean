import BotCockpit.Proofs.Sim.EstopLatch
import BotCockpit.Proofs.Sim.Nav

/-!
# `BotCockpit.Proofs.Sim.Authorisation`: motion needs a live console and a standing order

`History` is the invariant over histories: a robot that is online heard an online message at
`last_console_ms_` and none after it, and a robot that runs has accepted a goto or a resume that
nothing has halted since. `dispatch_running` is the step lemma for commands. With the freshness
check at the motion point it gives `motion_authorised`.
-/

set_option autoImplicit false

namespace BotCockpit.Sim

open BotCockpit.Lib

variable {F : Type} [CDouble F] {C : Type} [CFloat C]

namespace FakeRobot

/-- The commands that halt a motion when they are accepted. -/
def HaltsCmd (q : Request) : Prop :=
  q.cmd = ascii "CMD_ESTOP" ∨ q.cmd = ascii "CMD_ESTART" ∨ q.cmd = ascii "CMD_RESET" ∨
    q.cmd = ascii "CMD_TASK" ∧ (taskType? q = ascii "pause" ∨ taskType? q = ascii "cancel")

/-- The commands that can halt the robot are four. -/
theorem not_haltsCmd {q : Request}
    (h : ∀ s ∈ ["CMD_ESTOP", "CMD_ESTART", "CMD_RESET", "CMD_TASK"], q.cmd ≠ ascii s) :
    ¬HaltsCmd q := by
  rintro (hcmd | hcmd | hcmd | ⟨hcmd, -⟩)
  · exact h "CMD_ESTOP" (by simp) hcmd
  · exact h "CMD_ESTART" (by simp) hcmd
  · exact h "CMD_RESET" (by simp) hcmd
  · exact h "CMD_TASK" (by simp) hcmd

/-- The commands that start a motion when they are accepted. -/
def StartsCmd (q : Request) : Prop :=
  q.cmd = ascii "CMD_TASK" ∧ (taskType? q = ascii "goto" ∨ taskType? q = ascii "resume")

/-- A robot that runs after a command was running before it or has accepted a start, and the
command was no accepted halt. -/
theorem dispatch_running (q : Request) (r : FakeRobot F) :
    ∃ s res, Answers q r (dispatch C q r) s res ∧ (s.phase = .running →
      (r.phase = .running ∨ StartsCmd q ∧ res.ok = true ∧ res.status = .accepted) ∧
        (res.ok = true → ¬HaltsCmd q)) := by
  refine dispatch_cases (P := fun h => ∃ s res, Answers q r h s res ∧ (s.phase = .running →
      (r.phase = .running ∨ StartsCmd q ∧ res.ok = true ∧ res.status = .accepted) ∧
        (res.ok = true → ¬HaltsCmd q)))
    -- One case for each command: ESTOP, RESET, MODE, TASK, the faults, and the unknown ones.
    (fun _ => ?_) (fun _ => ?_) (fun hcmd => ?_) (fun hcmd => ?_) (fun hcmd => ?_)
    (fun hcmd => ?_) (fun _ => ?_)
  · obtain ⟨s, res, ha, -, -, hphase, -⟩ := cmdEstop_spec q r
    exact ⟨s, res, ha, fun h => by rw [hphase] at h; cases h⟩
  · obtain ⟨s, res, ha, ⟨hno, rfl⟩ | ⟨-, -, hphase, -⟩⟩ := cmdReset_spec q r
    · exact ⟨s, res, ha, fun h => ⟨Or.inl h, fun hok => by rw [hno] at hok; cases hok⟩⟩
    · exact ⟨s, res, ha, fun h => absurd h hphase⟩
  · obtain ⟨s, res, ha, -, hphase, -, -⟩ := cmdMode_spec q r
    refine ⟨s, res, ha, fun h => ⟨Or.inl (hphase ▸ h), fun _ => not_haltsCmd ?_⟩⟩
    rw [hcmd]
    decide
  · -- Of the tasks only a goto and a resume can start the robot.
    refine cmdTask_cases (P := fun h => ∃ s res, Answers q r h s res ∧ (s.phase = .running →
      (r.phase = .running ∨ StartsCmd q ∧ res.ok = true ∧ res.status = .accepted) ∧
        (res.ok = true → ¬HaltsCmd q)))
      (fun taskId _ => ?_) (fun _ => ?_) (fun taskId htype hb => ?_)
      (fun taskId htype _ => ?_) (fun reason taskId _ _ => ?_)
    · obtain ⟨s, res, ha, -, -, hphase⟩ := taskPause_spec q taskId r
      exact ⟨s, res, ha, fun h => absurd h hphase⟩
    · obtain ⟨s, res, ha, -, -, hphase⟩ := taskCancel_spec q r
      exact ⟨s, res, ha, fun h => absurd h hphase⟩
    · obtain ⟨s, res, ha, -, -, hcase⟩ := taskGoto_spec C q taskId r hb
      refine ⟨s, res, ha, fun h => ⟨?_, fun _ => ?_⟩⟩
      · rcases hcase with ⟨hrun, -⟩ | ⟨-, ⟨hok, hacc⟩ | ⟨-, hnot⟩⟩
        · exact Or.inl hrun
        · exact Or.inr ⟨⟨hcmd, Or.inl htype⟩, hok, hacc⟩
        · exact absurd h hnot
      · simp only [HaltsCmd, hcmd, htype]
        decide
    · obtain ⟨s, res, ha, -, -, hcase⟩ := taskResume_spec q taskId r
      refine ⟨s, res, ha, fun h => ⟨?_, fun _ => ?_⟩⟩
      · rcases hcase with ⟨-, rfl⟩ | ⟨hok, hacc, -⟩
        · exact Or.inl h
        · exact Or.inr ⟨⟨hcmd, Or.inr htype⟩, hok, hacc⟩
      · simp only [HaltsCmd, hcmd, htype]
        decide
    · exact ⟨_, _, answers_reject q r reason taskId,
        fun h => ⟨Or.inl h, fun hok => Bool.noConfusion hok⟩⟩
  · obtain ⟨s, res, ha, -, -, hphase⟩ := cmdInjectFault_spec q r
    refine ⟨s, res, ha, fun h => ⟨Or.inl (hphase h), fun _ => not_haltsCmd ?_⟩⟩
    rcases hcmd with hcmd | hcmd <;> rw [hcmd] <;> decide
  · obtain ⟨s, res, ha, -, -, hphase⟩ := cmdClearFault_spec q r
    refine ⟨s, res, ha, fun h => ⟨Or.inl (hphase h), fun _ => not_haltsCmd ?_⟩⟩
    rcases hcmd with hcmd | hcmd <;> rw [hcmd] <;> decide
  · exact ⟨_, _, answers_reject q r .notImplemented [],
      fun h => ⟨Or.inl h, fun hok => Bool.noConfusion hok⟩⟩

/-! ### The entry of a command -/

/-- The command of an entry is the command of its request. -/
theorem cmd_of_asks {x : Entry F} {data : Bytes} {q : Request} {cmd : String}
    (hcall : x.1.call = .cmd data) (hq : request? F x.1.nowMs data = some q)
    (h : x.Asks cmd) : q.cmd = ascii cmd := by
  obtain ⟨data', hcall', hcmd⟩ := h
  obtain rfl : data = data' := by
    rw [hcall] at hcall'
    exact Call.cmd.inj hcall'
  rw [(request?_eq hq).1] at hcmd
  exact Option.some.inj hcmd

/-- An entry that asks for a task carries the command and the type. -/
theorem type_of_asksTask {x : Entry F} {data : Bytes} {q : Request} {type : String}
    (hcall : x.1.call = .cmd data) (hq : request? F x.1.nowMs data = some q)
    (h : x.AsksTask type) : q.cmd = ascii "CMD_TASK" ∧ taskType? q = ascii type := by
  obtain ⟨data', hcall', hcmd, htype⟩ := h
  obtain rfl : data = data' := by
    rw [hcall] at hcall'
    exact Call.cmd.inj hcall'
  obtain ⟨hcmd', hdata, -⟩ := request?_eq hq
  rw [hcmd'] at hcmd
  refine ⟨Option.some.inj hcmd, ?_⟩
  rw [taskType?, hdata, htype]
  rfl

/-- And the other way round. -/
theorem asksTask_of_type {x : Entry F} {data : Bytes} {q : Request} {type : String}
    (hcall : x.1.call = .cmd data) (hq : request? F x.1.nowMs data = some q)
    (hcmd : q.cmd = ascii "CMD_TASK") (htype : taskType? q = ascii type)
    (hne : ascii type ≠ []) : x.AsksTask type := by
  obtain ⟨hcmd', hdata, -⟩ := request?_eq hq
  refine ⟨data, hcall, hcmd ▸ hcmd', ?_⟩
  rw [taskType?, hdata] at htype
  cases hread : extractString data "type" with
  | none =>
      rw [hread] at htype
      exact absurd htype.symm hne
  | some t =>
      rw [hread] at htype
      exact congrArg some htype

/-- A halting entry with a command message has an accepted command that halts. -/
theorem haltsCmd_of_halts {x : Entry F} {data : Bytes} {q : Request}
    (hcall : x.1.call = .cmd data) (hq : request? F x.1.nowMs data = some q)
    (h : x.Halts) : HaltsCmd q ∧ x.Accepted := by
  rcases h with ⟨hasks, hacc⟩ | ⟨_, hconsole, -⟩ | hdeactivate
  · refine ⟨?_, hacc⟩
    rcases hasks with h | h | h | h | h
    · obtain ⟨hcmd, htype⟩ := type_of_asksTask hcall hq h
      exact Or.inr (Or.inr (Or.inr ⟨hcmd, Or.inl htype⟩))
    · obtain ⟨hcmd, htype⟩ := type_of_asksTask hcall hq h
      exact Or.inr (Or.inr (Or.inr ⟨hcmd, Or.inr htype⟩))
    · exact Or.inl (cmd_of_asks hcall hq h)
    · exact Or.inr (Or.inl (cmd_of_asks hcall hq h))
    · exact Or.inr (Or.inr (Or.inl (cmd_of_asks hcall hq h)))
  · rw [hcall] at hconsole
    cases hconsole
  · rw [hcall] at hdeactivate
    cases hdeactivate

/-- An entry without a command message neither starts a motion nor halts it by a command. -/
theorem quiet_of_call {x : Entry F} (hcall : ∀ data, x.1.call ≠ .cmd data) :
    ¬x.Starts ∧ (x.Halts → x.Console false ∨ x.1.call = .deactivate) := by
  constructor
  · rintro ⟨⟨data, h, -⟩ | ⟨data, h, -⟩, -⟩
    · exact hcall data h
    · exact hcall data h
  · rintro (⟨⟨data, h, -⟩ | ⟨data, h, -⟩ | ⟨data, h, -⟩ | ⟨data, h, -⟩ | ⟨data, h, -⟩, -⟩ | h)
    · exact absurd h (hcall data)
    · exact absurd h (hcall data)
    · exact absurd h (hcall data)
    · exact absurd h (hcall data)
    · exact absurd h (hcall data)
    · exact h

/-! ### One callback -/

/-- A callback that leaves the robot running was a start, or it found the robot running and was
neither a start nor a halt. -/
theorem handle_running {r s : FakeRobot F} {e : Event} {out : List (Output F)} (hinv : Inv r)
    (h : handle C r e = some (s, out)) (hphase : s.phase = .running) :
    Entry.Starts (e, out) ∨
      r.phase = .running ∧ ¬Entry.Starts (e, out) ∧ ¬Entry.Halts (e, out) := by
  cases handle_cases h with
  | configure hcall | activate now hcall | deactivate hcall | cleanup hcall | shutdown hcall =>
      -- A lifecycle callback leaves `INITIALIZING` or `BOOT`.
      exact Phase.noConfusion hphase
  | console data hcall hready =>
      obtain ⟨hrun, honline⟩ := (onConsole_spec e.nowMs data r).running hphase
      obtain ⟨hstart, hhalt⟩ := quiet_of_call (x := (e, (onConsole e.nowMs data r).2))
        fun d hd => by
          rw [hcall] at hd
          cases hd
      refine Or.inr ⟨hrun, hstart, fun hh => ?_⟩
      rcases hhalt hh with ⟨data', hcall', hoff⟩ | hdeact
      · obtain rfl : data = data' := by
          rw [hcall] at hcall'
          exact Call.console.inj hcall'
        exact Bool.noConfusion (hoff.mp honline)
      · rw [hcall] at hdeact
        cases hdeact
  | noCmd data hcall hready hq =>
      refine Or.inr ⟨hphase, ?_, ?_⟩
      · rintro ⟨-, res, hres, -⟩
        exact absurd hres List.not_mem_nil
      · rintro (⟨-, res, hres, -⟩ | ⟨_, hconsole, -⟩ | hdeactivate)
        · exact absurd hres List.not_mem_nil
        · exact Call.noConfusion (hcall.symm.trans hconsole)
        · exact Call.noConfusion (hcall.symm.trans hdeactivate)
  | cmd data q hcall hready hq =>
      obtain ⟨t, res, ha, hcase⟩ := dispatch_running (C := C) q r
      obtain ⟨hbefore, hhalt⟩ := hcase (ha.state ▸ hphase)
      rcases hbefore with hrun | ⟨⟨hcmd, htype⟩, hok, hacc⟩
      · -- A robot that was running has no control, so it accepts no start.
        refine Or.inr ⟨hrun, fun hstart => ?_, fun hh => ?_⟩
        · have hcontrol := handle_start hinv h hstart
          rw [((hinv.consistent hready).control.mp hcontrol).1] at hrun
          cases hrun
        · obtain ⟨hcmd, res', hres', hok', -⟩ := haltsCmd_of_halts hcall hq hh
          obtain ⟨-, rfl⟩ := ha.mem_result.mp hres'
          exact hhalt hok' hcmd
      · refine Or.inl ⟨?_, res, ha.mem_result.mpr ⟨hready, rfl⟩, hok, hacc⟩
        rcases htype with htype | htype
        · exact Or.inl (asksTask_of_type hcall hq hcmd htype (by decide))
        · exact Or.inr (asksTask_of_type hcall hq hcmd htype (by decide))
  | tick now fuel s out hcall htick =>
      obtain ⟨hstart, -⟩ := tick_spec hinv.running htick
      obtain ⟨hno, hhalt⟩ := quiet_of_call (x := (e, out)) fun d hd => by
        rw [hcall] at hd
        cases hd
      refine Or.inr ⟨hstart.running hphase, hno, fun hh => ?_⟩
      rcases hhalt hh with ⟨_, hconsole, -⟩ | hdeact
      · exact Call.noConfusion (hcall.symm.trans hconsole)
      · exact Call.noConfusion (hcall.symm.trans hdeact)

/-- A callback that leaves the robot online was an online message, which set the time, or it
was no online message and found the robot online with the same time. -/
theorem handle_online {r s : FakeRobot F} {e : Event} {out : List (Output F)} (hinv : Inv r)
    (h : handle C r e = some (s, out)) (honline : s.consoleOnline = true) :
    Entry.Console (e, out) true ∧ s.lastConsoleMs = e.nowMs ∨
      ¬Entry.Console (e, out) true ∧ r.consoleOnline = true ∧
        s.lastConsoleMs = r.lastConsoleMs := by
  -- Only a message of the console is one.
  have hother : (∀ data, e.call ≠ .console data) → ¬Entry.Console (e, out) true :=
    fun hcall h => h.elim fun data hc => hcall data hc.1
  cases handle_cases h with
  | configure hcall => exact Bool.noConfusion honline
  | activate now hcall => exact Or.inr ⟨hother (by simp [hcall]), honline, rfl⟩
  | deactivate hcall | cleanup hcall | shutdown hcall =>
      exact Or.inr ⟨hother (by simp [hcall]), honline, rfl⟩
  | console data hcall hready =>
      -- It says that the console is there, and its time is noted.
      obtain ⟨hread, hlast⟩ := (onConsole_spec e.nowMs data r).online honline
      exact Or.inl ⟨⟨data, hcall, by simp [hread]⟩, hlast⟩
  | noCmd data hcall hready hq => exact Or.inr ⟨hother (by simp [hcall]), honline, rfl⟩
  | cmd data q hcall hready hq =>
      obtain ⟨t, res, ha⟩ := dispatch_answers C q r
      rw [ha.state] at honline ⊢
      exact Or.inr ⟨hother (by simp [hcall]), ha.safe.online ▸ honline, ha.safe.lastConsole⟩
  | tick now fuel s out hcall htick =>
      obtain ⟨hstart, -⟩ := tick_spec hinv.running htick
      exact Or.inr ⟨hother (by simp [hcall]), hstart.online honline, hstart.lastConsole⟩

end FakeRobot

open FakeRobot

/-! ### Runs -/

/-- The invariant over histories. -/
structure Recorded (h : Node.History F) (r : FakeRobot F) : Prop where
  inv : Inv r
  order : r.phase = .running → StandingOrder h
  online : r.consoleOnline = true → LastOnline r.lastConsoleMs h

/-- **A run records the order and the heartbeat** of a robot that runs and is online. -/
theorem Node.Runs.recorded {h : Node.History F} {n : Node F} (hrun : Node.Runs C h n) :
    Recorded h n.robot := by
  refine hrun.invariant_history (P := fun h n => Recorded h n.robot)
    ⟨inv_init, fun h => Phase.noConfusion h, fun h => Bool.noConfusion h⟩ ?_
  intro h n e m out hrec _ hstep
  have hhandle := Node.step_handle hstep
  refine ⟨(handle_inv hrec.inv hhandle).1, fun hphase => ?_, fun honline => ?_⟩
  · rcases handle_running hrec.inv hhandle hphase with hstart | ⟨hbefore, hquiet⟩
    · exact Since.start h hstart
    · exact (hrec.order hbefore).extend hquiet
  · rcases handle_online hrec.inv hhandle honline with ⟨hmsg, hlast⟩ | ⟨hno, hbefore, hlast⟩
    · exact Since.start h ⟨hmsg, hlast.symm⟩
    · rw [hlast]
      exact (hrec.online hbefore).extend hno

/-- **Motion authorisation.** In every run, a tick that changes the pose finds at its motion
point an active robot that is not stopped, lists no active ERROR, and is online. The last online
message came at most 3000 ms before the tick, and since the last accepted goto or resume nothing
has halted the motion. -/
theorem motion_authorised {h : Node.History F} {n m : Node F} {e : Event} {now : Int}
    {fuel : Nat} {out : List (Output F)} (hrun : Node.Runs C h n) (hclock : ClockOk h e)
    (hcall : e.call = .tick now fuel) (hstep : Node.step C n e = some (m, out))
    (hmoved : m.robot.pose ≠ n.robot.pose) :
    (motionPoint now e.nowMs n.robot).1.active = true ∧
      (motionPoint now e.nowMs n.robot).1.estop = false ∧
      ¬(motionPoint now e.nowMs n.robot).1.ActiveFault .error ∧
      (motionPoint now e.nowMs n.robot).1.consoleOnline = true ∧
      (∃ ms : UInt64, LastOnline ms h ∧ ms ≤ e.nowMs ∧ e.nowMs.toNat ≤ ms.toNat + 3000) ∧
      StandingOrder h := by
  obtain ⟨hinv, horder, honline⟩ := hrun.recorded
  have htick := Node.step_handle hstep
  simp only [handle, hcall] at htick
  obtain ⟨-, -, ⟨-, hsame, -⟩ | ⟨hactive, -, hstill⟩⟩ := tick_spec hinv.running htick
  · exact absurd (congrArg pose hsame) hmoved
  obtain ⟨hcons, hpoint, hfresh, -⟩ := motionPoint_spec now e.nowMs n.robot hinv.running
  have hmoving : (motionPoint now e.nowMs n.robot).1.moving := by
    by_contra hnot
    exact hmoved (hstill hnot)
  obtain ⟨hestop, hon, herr⟩ := hcons.1.running hmoving.2.1
  refine ⟨hpoint.active.trans hactive, hestop, (not_activeFault_error herr).1, hon, ?_,
    horder (hpoint.running hmoving.2.1)⟩
  -- The heartbeat was not lost, and the clock has not gone back since it was noted.
  have hlast := honline (hpoint.online hon)
  obtain ⟨x, hx, -, hms⟩ := hlast.exists_mem
  have hpos : 0 < n.robot.lastConsoleMs := hms ▸ hclock.2 x hx
  have hle : n.robot.lastConsoleMs ≤ e.nowMs := by
    rw [← hms]
    exact (List.pairwise_append.mp hclock.1).2.2 _ (List.mem_map_of_mem hx) _ (by simp)
  have hnotlost := hfresh hon
  refine ⟨_, hlast, hle, ?_⟩
  simp only [heartbeatLost, not_and, UInt64.not_lt] at hnotlost
  have hdiff := hnotlost (hpoint.online hon) hpos
  rw [UInt64.le_iff_toNat_le, UInt64.toNat_sub_of_le _ _ hle] at hdiff
  have hle' := UInt64.le_iff_toNat_le.mp hle
  simp only [UInt64.reduceToNat] at hdiff
  omega

/-! ### A run that moves -/

/-- A message to a configured node. -/
theorem step_cmd {n : Node F} (hready : n.robot.topicsReady = true) (nowMs : UInt64)
    (data : Bytes) :
    Node.step C n ⟨nowMs, .cmd data⟩ = some ({ n with robot := (onCmd C nowMs data n.robot).1 },
      (onCmd C nowMs data n.robot).2) := by
  have hlife : n.lifecycle.after (.cmd data) = some n.lifecycle := by
    cases n.lifecycle <;> rfl
  simp only [Node.step, hlife, handle, hready, if_true]

/-- An accepted goto, at a node that has not had a task. -/
theorem step_goto {n : Node F} {nowMs : UInt64} {data taskId : Bytes} {seq : UInt16} {x y : F}
    {path : List (F × F)} (hready : n.robot.topicsReady = true)
    (hcmd : extractString data "cmd" = some (ascii "CMD_TASK"))
    (htype : extractString data "type" = some (ascii "goto"))
    (hid : extractString data "task_id" = some taskId) (hne : taskId ≠ [])
    (hseq : extractSeq F data = seq)
    (hfree : ¬n.robot.blocked) (hrun : n.robot.phase ≠ .running) (hnew : n.robot.taskId = [])
    (hx : (extractNumber data "x" n.robot.poseX).2 = x)
    (hy : (extractNumber data "y" n.robot.poseY).2 = y) (hin : ¬outside x y)
    (hpath : Nav.astar C (Nav.GridMap.makeCorridorDemo.inflate 1) n.robot.poseX n.robot.poseY x y
      = path)
    (hsome : path ≠ []) :
    let r := startGoto (Nav.GridMap.makeCorridorDemo.inflate 1) path x y taskId n.robot
    Node.step C n ⟨nowMs, .cmd data⟩ = some ({ n with robot := r },
      [.result (.accepted seq (ascii "CMD_TASK") taskId), .state nowMs r]) := by
  intro r
  have hready' : r.topicsReady = true := hready
  have hpause : ascii "goto" ≠ ascii "pause" := by decide
  have hcancel : ascii "goto" ≠ ascii "cancel" := by decide
  have honcmd : onCmd C nowMs data n.robot =
      (r, [.result (.accepted seq (ascii "CMD_TASK") taskId), .state nowMs r]) := by
    unfold onCmd
    simp only [hcmd]
    rw [dispatch_task rfl]
    unfold cmdTask
    simp only [htype, hid, Option.getD_some]
    rw [if_neg hpause, if_neg hcancel, if_neg hfree, if_pos trivial]
    unfold taskGoto
    rw [if_neg hrun]
    simp only [hx, hy]
    rw [if_neg hin]
    simp only [assignTaskId, if_neg hne, hnew, ne_eq, not_true_eq_false, false_and, if_false]
    rw [hpath, if_neg hsome, hseq]
    show (r, r.publishCmdResult _ ++ r.publishState nowMs) = _
    simp only [publishCmdResult, publishState, hready', if_true]
    rfl
  rw [step_cmd hready, honcmd]

/-- The cell of the start pose is free on the map the robot plans on. -/
theorem start_cell_free :
    ((Nav.GridMap.makeCorridorDemo (F := F)).inflate 1).cellAt 2 10 = false := by
  have hmarks := Nav.GridMap.inflate_marks (Nav.GridMap.makeCorridorDemo (F := F)) 1
  have hdemo := Nav.GridMap.makeCorridorDemo_marks (F := F)
  have hinside : ∀ x y, Nav.GridMap.makeCorridorDemo.Inside x y →
      ({} : Nav.GridMap F).Inside x y := fun x y => (hdemo.grid.inside x y).mp
  by_contra hocc
  simp only [Bool.not_eq_false] at hocc
  have hin : (Nav.GridMap.makeCorridorDemo (F := F)).Inside 2 10 := by
    rw [hdemo.grid.inside]
    have hwidth : (2 : Int) < 40 := by decide
    have hheight : (10 : Int) < 20 := by decide
    exact ⟨by decide, by decide, hwidth, hheight⟩
  rcases hmarks.occupied 2 10 hocc hin with hold | ⟨dx, dy, hx, hx', hy, hy', -, hin', hold⟩
  · have := hdemo.occupied 2 10 hold (hinside _ _ hin)
    omega
  · have := hdemo.occupied _ _ hold (hinside _ _ hin')
    omega

/-- A goto to a point close by. -/
def gotoData : Bytes := ascii ("\x7b\"seq\":7,\"cmd\":\"CMD_TASK\",\"type\":\"goto\"," ++
  "\"task_id\":\"A\",\"x\":1.3,\"y\":0\x7d")

/-- The node after the goto. -/
def movingNode : Node ℚ :=
  { readyNode with
    robot := startGoto (Nav.GridMap.makeCorridorDemo.inflate 1) [(13 / 10, 0)] (13 / 10) 0
      (ascii "A") readyNode.robot }

example : movingNode.robot.moving := by decide +kernel

/-- The history of the goto. -/
def movingHistory : Node.History ℚ :=
  readyHistory ++ [(⟨5, .cmd gotoData⟩,
    [.result (.accepted 7 (ascii "CMD_TASK") (ascii "A")), .state 5 movingNode.robot])]

/-- A path within the start cell is its goal. -/
theorem goto_path {x y : ℚ} (hgoal : ({} : Nav.GridMap ℚ).worldToCell x y = some (2, 10)) :
    Nav.astar Exact.Cost (Nav.GridMap.makeCorridorDemo.inflate 1) readyNode.robot.poseX
      readyNode.robot.poseY x y = [(x, y)] := by
  have hx : readyNode.robot.poseX = 5 / 4 := by decide +kernel
  have hy : readyNode.robot.poseY = 0 := by decide +kernel
  have hgrid : Nav.GridMap.SameGrid ({} : Nav.GridMap ℚ)
      (Nav.GridMap.makeCorridorDemo.inflate 1) :=
    Nav.GridMap.makeCorridorDemo_marks.grid.trans (Nav.GridMap.inflate_marks _ 1).grid
  have hstart : ({} : Nav.GridMap ℚ).worldToCell (5 / 4) 0 = some (2, 10) := by decide +kernel
  rw [hx, hy]
  rw [← hgrid.worldToCell] at hstart hgoal
  exact Nav.astar_sameCell hstart hgoal start_cell_free

/-- The goto of the run is accepted. -/
theorem step_moving : Node.step Exact.Cost readyNode ⟨5, .cmd gotoData⟩ = some (movingNode,
    [.result (.accepted 7 (ascii "CMD_TASK") (ascii "A")), .state 5 movingNode.robot]) :=
  step_goto (by decide +kernel) (by decide +kernel) (by decide +kernel) (by decide +kernel)
    (by decide +kernel) (by decide +kernel) (by decide +kernel) (by decide +kernel)
    (by decide +kernel) (by decide +kernel) (by decide +kernel) (by decide +kernel)
    (goto_path (by decide +kernel)) (by decide +kernel)

/-- The run with the goto is a run of the node. -/
theorem runs_moving : Node.Runs Exact.Cost movingHistory movingNode :=
  Run.snoc runs_ready trivial step_moving

/-- The tick after the goto. -/
def drivingEvent : Event := ⟨6, .tick 800000000 4⟩

/-- The tick after it is handled. -/
theorem step_driving : (Node.step Exact.Cost movingNode drivingEvent).isSome = true := by
  decide +kernel

/-- A robot that drives after an accepted goto was told to: its motion is authorised. -/
theorem motion_authorised_goto :
    (∃ ms : UInt64, LastOnline ms movingHistory ∧ ms ≤ drivingEvent.nowMs ∧
      drivingEvent.nowMs.toNat ≤ ms.toNat + 3000) ∧ StandingOrder movingHistory :=
  (motion_authorised runs_moving ⟨by decide +kernel, by decide +kernel⟩ rfl
    (Option.some_get step_driving).symm (by decide +kernel)).2.2.2.2

end BotCockpit.Sim
