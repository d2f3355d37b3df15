import BotCockpit.Proofs.Sim.Navigation
import BotCockpit.Proofs.Sim.Resume

/-!
# `BotCockpit.Proofs.Sim.NavStatus`: the navigation status follows the phase

`nav_status_` is written by hand next to `phase_`. A start writes both, and so do a pause, a cancel,
an arrival and a failure on the way. Whatever else ends the motion leaves `TRACKING` behind:
`Interrupts` lists it. Without an interruption the two fields agree (`Aligned`) after every callback
(`handle_aligned`), and so in every published state (`navigation_status`).
-/

set_option autoImplicit false

namespace BotCockpit.Sim

open BotCockpit.Lib

variable {F : Type} [CDouble F] {C : Type} [CFloat C]

namespace FakeRobot

/-- The status is `TRACKING` exactly while the robot runs. -/
def Aligned (r : FakeRobot F) : Prop := r.navStatus = .tracking ↔ r.phase = .running

/-- The robot stands, and the navigation says so. -/
theorem Aligned.of_still {r : FakeRobot F} (hstatus : r.navStatus ≠ .tracking)
    (hphase : r.phase ≠ .running) : Aligned r :=
  iff_of_false hstatus hphase

/-- The robot stood, and it stands. -/
theorem Aligned.still {r s : FakeRobot F} (h : Aligned r) (hr : r.phase ≠ .running)
    (hstatus : s.navStatus = r.navStatus) (hs : s.phase ≠ .running) : Aligned s := by
  refine Aligned.of_still ?_ hs
  rw [hstatus]
  exact fun htracking => hr (h.mp htracking)

/-- The alignment reads the navigation's state and the phase. -/
theorem Aligned.of_same {r s : FakeRobot F} (h : Aligned r) (hstatus : s.navStatus = r.navStatus)
    (hphase : s.phase = r.phase) : Aligned s := by
  show s.navStatus = .tracking ↔ s.phase = .running
  rw [hstatus, hphase]
  exact h

/-- The recomputation leaves the navigation's state alone. -/
@[simp] theorem recompute_navStatus (r : FakeRobot F) :
    (recomputePhaseAndControl r).navStatus = r.navStatus := by
  obtain ⟨_, _, _, _, h⟩ := recompute_frame r
  rw [h]

/-- A robot that runs without an error and without an emergency stop goes on. -/
theorem recompute_running {r : FakeRobot F} (hrun : r.phase = .running) (hestop : r.estop = false)
    (herr : r.hasErrorCondition = false) : (recomputePhaseAndControl r).phase = .running := by
  rcases recompute_cases r with ⟨he, -⟩ | ⟨-, hstart | hstart, -⟩ | ⟨-, he, -⟩ | ⟨-, -, -, hr⟩ |
    ⟨-, -, -, -, hr⟩ | ⟨-, -, -, hnot, -⟩
  · rw [hestop] at he
    cases he
  · rw [hrun] at hstart
    cases hstart
  · rw [hrun] at hstart
    cases hstart
  · rw [herr] at he
    cases he
  · rw [hr]
    exact if_pos hrun
  · rw [hr]
    exact hrun
  · exact absurd hrun hnot

/-- It keeps the alignment as long as it does not end the running phase. -/
theorem Aligned.recomputed {r : FakeRobot F} (h : Aligned r)
    (hrun : r.phase = .running → r.estop = false ∧ r.hasErrorCondition = false) :
    Aligned (recomputePhaseAndControl r) := by
  by_cases hphase : r.phase = .running
  · obtain ⟨hestop, herr⟩ := hrun hphase
    show (recomputePhaseAndControl r).navStatus = .tracking ↔ _
    rw [recompute_navStatus]
    exact iff_of_true (h.mpr hphase) (recompute_running hphase hestop herr)
  · exact h.still hphase (recompute_navStatus r) fun hr => hphase (recompute_phase_running hr)

/-- The recomputation of a robot that stands. -/
theorem Aligned.recomputed_still {r : FakeRobot F} (hstatus : r.navStatus ≠ .tracking)
    (hphase : r.phase ≠ .running) : Aligned (recomputePhaseAndControl r) :=
  (Aligned.of_still hstatus hphase).recomputed fun hrun => absurd hrun hphase

/-- A state is published only while the topics are there. -/
theorem ready_of_mem_publishState {nowMs t : UInt64} {r u : FakeRobot F}
    (h : Output.state t u ∈ publishState nowMs r) : r.topicsReady = true := by
  by_contra hdown
  rw [publishState, if_neg hdown] at h
  cases h

/-! ### The console and the tick -/

/-- The console is heard, or it is lost while the robot stands. -/
theorem onConsole_aligned (nowMs : UInt64) (data : Bytes) {r : FakeRobot F}
    (hcons : Consistent r) (h : Aligned r)
    (hguard : r.phase = .running → extractBool data "online" = some true) :
    Aligned (onConsole nowMs data r).1 ∧
      ∀ t u, Output.state t u ∈ (onConsole nowMs data r).2 → u = (onConsole nowMs data r).1 := by
  have hsettle : ∀ t : FakeRobot F, Aligned t →
      (t.phase = .running → t.estop = false ∧ t.hasErrorCondition = false) → Aligned
      (let s := recomputePhaseAndControl t
       if s.consoleOnline then s else { s with controlEnabled := false }) := by
    intro t ht hrun
    have hs := ht.recomputed hrun
    dsimp only
    split
    · exact hs
    · exact hs.of_same rfl rfl
  have hrunning : r.phase = .running → r.estop = false ∧ r.hasErrorCondition = false :=
    fun hrun => ⟨(hcons.running hrun).1, (hcons.running hrun).2.2⟩
  unfold onConsole
  dsimp only
  by_cases honline : (extractBool data "online").getD false = true
  · rw [if_pos honline]
    exact ⟨hsettle _ (h.of_same rfl rfl) hrunning, fun t u hu => mem_publishState hu⟩
  · rw [if_neg honline]
    have hstill : r.phase ≠ .running := by
      intro hrun
      rw [hguard hrun] at honline
      exact honline rfl
    rw [if_neg hstill]
    exact ⟨hsettle _ (h.of_same rfl rfl) hrunning, fun t u hu => mem_publishState hu⟩

/-- The heartbeat is there, or the robot stands: no safety stop is made. -/
theorem checkHeartbeat_quiet (nowMs : UInt64) {r : FakeRobot F}
    (hguard : r.phase = .running → ¬r.heartbeatLost nowMs) :
    ∃ t, checkHeartbeat nowMs r = (t, []) ∧ t.navStatus = r.navStatus ∧
      t.phase = r.phase ∧ t.estop = r.estop ∧ t.hasErrorCondition = r.hasErrorCondition := by
  unfold checkHeartbeat
  dsimp only
  by_cases hlost : r.heartbeatLost nowMs
  · rw [if_pos hlost, if_neg fun hrun => hguard hrun hlost]
    exact ⟨_, rfl, rfl, rfl, rfl, rfl⟩
  · rw [if_neg hlost]
    exact ⟨_, rfl, rfl, rfl, rfl, rfl⟩

/-- Up to its motion point a tick keeps the alignment while the heartbeat is there. -/
theorem motionPoint_aligned {now : Int} {nowMs : UInt64} {r : FakeRobot F} (hcons : Consistent r)
    (h : Aligned r) (hguard : r.phase = .running → ¬r.heartbeatLost nowMs) :
    Aligned (motionPoint now nowMs r).1 := by
  let ticked : FakeRobot F := { r with lastTickTp := now }
  obtain ⟨t, ht, hstatus, hphase, hestop, herr⟩ := checkHeartbeat_quiet nowMs (r := ticked) hguard
  have hpoint : (motionPoint now nowMs r).1 =
      recomputePhaseAndControl (leaveInitializing now t) := by
    unfold motionPoint
    rw [ht]
  have haligned : Aligned t := h.of_same hstatus hphase
  rw [hpoint]
  unfold leaveInitializing
  split
  · rename_i hstart
    have hstill : t.phase ≠ .running := by simp [hstart.1]
    have hidle : Aligned { t with phase := .idle } := haligned.still hstill rfl Phase.noConfusion
    exact hidle.recomputed fun hrun => Phase.noConfusion hrun
  · refine haligned.recomputed fun hrun => ?_
    obtain ⟨hno, -, hnone⟩ := hcons.running (hphase.symm.trans hrun)
    exact ⟨hestop.trans hno, herr.trans hnone⟩

/-- A replan goes on with the tracking. -/
theorem replan_tracking {r : FakeRobot F} (h : r.navStatus = .tracking) :
    (replan C r).navStatus = .tracking := by
  unfold replan
  by_cases hstuck : 1.2 < r.stuckS
  · rw [if_pos hstuck]
    dsimp only
    generalize Nav.astar C _ r.poseX r.poseY r.goalX r.goalY = replanned
    split
    · exact h
    · rfl
  · rw [if_neg hstuck]
    exact h

/-- The robot follows its path, and the navigation says so. -/
theorem steered_aligned {fuel : Nat} {dt w : F} {r s : FakeRobot F} {collided : Bool}
    (hrun : r.phase = .running) (h : drive fuel dt r = some (s, collided, w)) :
    Aligned (steered C dt r.poseX r.poseY collided w s) := by
  have hphase : (steered C dt r.poseX r.poseY collided w s).phase = .running :=
    (steered_same C _ _ _ _ _ s).phase.trans ((drive_same h).phase.trans hrun)
  exact iff_of_true (replan_tracking rfl) hphase

/-- A tracking error ends both together. -/
theorem trackError_aligned {r : FakeRobot F} (h : Aligned r) : Aligned (trackError r) := by
  rcases trackError_frame r with ⟨err, errMax, herr⟩ | ⟨err, errMax, herr⟩
  · rw [herr]
    exact h.of_same rfl rfl
  · rw [herr]
    exact Aligned.recomputed_still NavStatus.noConfusion Phase.noConfusion

/-- So does the arrival. -/
theorem arrive_aligned {r : FakeRobot F} (h : Aligned r) : Aligned (arrive r) := by
  rcases arrive_frame r with harrive | ⟨-, trail, harrive, -⟩
  · rw [harrive]
    exact h
  · rw [harrive]
    exact Aligned.recomputed_still NavStatus.noConfusion Phase.noConfusion

/-- The motion keeps the alignment. -/
theorem move_aligned {fuel : Nat} {dt : F} {r s : FakeRobot F} (h : Aligned r)
    (hmove : move C fuel dt r = some s) : Aligned s := by
  rcases move_cases hmove with ⟨hmoving, moved, rfl, hmoved⟩ | ⟨-, rfl | rfl⟩
  · have haligned : Aligned moved := by
      rcases hmoved with ⟨-, hfollow⟩ | ⟨-, rfl⟩
      · obtain ⟨driven, collided, w, hdrive, rfl⟩ := follow_cases hfollow
        have hsteered : Aligned (steered C dt r.poseX r.poseY collided w driven) :=
          steered_aligned hmoving.2.1 hdrive
        exact arrive_aligned (trackError_aligned hsteered)
      · exact Aligned.recomputed_still NavStatus.noConfusion Phase.noConfusion
    exact haligned.of_same rfl rfl
  · exact h.of_same rfl rfl
  · exact h

/-- A low battery warns, and a warning does not stop a running robot. -/
theorem checkBattery_aligned {r : FakeRobot F} (hcons : Consistent r) (h : Aligned r) :
    Aligned (checkBattery r) := by
  obtain ⟨b, -, hcheck | ⟨-, hcheck⟩⟩ := checkBattery_frame r
  · rw [hcheck]
    exact h.of_same rfl rfl
  · have hwarned : Aligned { r with battery := b, faults := r.faults ++
        [{ code := .batteryLow, level := .warn, detail := ascii "battery below 15%" }] } :=
      h.of_same rfl rfl
    rw [hcheck]
    refine hwarned.recomputed fun hrun => ?_
    obtain ⟨hestop, -, herr⟩ := hcons.running hrun
    refine ⟨hestop, ?_⟩
    simp only [hasErrorCondition, List.any_append, Bool.or_eq_false_iff] at herr ⊢
    exact ⟨⟨herr.1, rfl⟩, herr.2⟩

/-- A tick keeps the alignment unless it finds the heartbeat lost while running. -/
theorem tick_aligned {now : Int} {nowMs : UInt64} {fuel : Nat} {r s : FakeRobot F}
    {out : List (Output F)} (hcons : Consistent r) (h : Aligned r)
    (hguard : r.phase = .running → ¬(r.active = true ∧ r.heartbeatLost nowMs))
    (htick : tick C now nowMs fuel r = some (s, out)) : Aligned s := by
  rcases tick_cases htick with ⟨-, rfl, -⟩ | ⟨hactive, moved, hmoved, rfl, -⟩
  · exact h
  · have hhere : Aligned (motionPoint now nowMs r).1 :=
      motionPoint_aligned hcons h fun hrun hlost => hguard hrun ⟨hactive, hlost⟩
    obtain ⟨hthere, -⟩ := motionPoint_spec now nowMs r fun hrun => (hcons.running hrun).2.1
    exact checkBattery_aligned (move_spec hthere.1 hmoved).1 (move_aligned hhere hmoved)

/-- Without a safety stop a tick publishes only the state that it leaves. -/
theorem tick_published {now : Int} {nowMs : UInt64} {fuel : Nat} {r s : FakeRobot F}
    {out : List (Output F)}
    (hguard : r.phase = .running → ¬(r.active = true ∧ r.heartbeatLost nowMs))
    (htick : tick C now nowMs fuel r = some (s, out)) {t : UInt64} {u : FakeRobot F}
    (hu : Output.state t u ∈ out) : u = s ∧ s.topicsReady = true := by
  rcases tick_cases htick with ⟨-, rfl, rfl⟩ | ⟨hactive, moved, -, rfl, rfl⟩
  · cases hu
  · have hquiet : (motionPoint now nowMs r).2 = [] := by
      obtain ⟨t, ht, -⟩ := checkHeartbeat_quiet nowMs (r := { r with lastTickTp := now })
        fun hrun hlost => hguard hrun ⟨hactive, hlost⟩
      unfold motionPoint
      rw [ht]
    rw [hquiet] at hu
    exact ⟨mem_publishState hu, ready_of_mem_publishState hu⟩

/-! ### The commands -/

/-- A cancel ends both together. -/
theorem taskCancel_aligned (q : Request) (r : FakeRobot F) : Aligned (taskCancel q r).1 := by
  refine Aligned.recomputed_still NavStatus.noConfusion ?_
  show (if r.phase = .running then Phase.idle else r.phase) ≠ .running
  split
  · exact Phase.noConfusion
  · assumption

/-- A goto starts both together. -/
theorem taskGoto_aligned {q : Request} {taskId : Bytes} {r : FakeRobot F} (h : Aligned r) :
    Aligned (taskGoto C q taskId r).1 := by
  have hassigned : ∀ {id t}, assignTaskId taskId r = (id, t) →
      t.navStatus = r.navStatus ∧ t.phase = r.phase := by
    intro id t hassign
    obtain ⟨_, rfl⟩ := assignTaskId_counter hassign
    exact ⟨rfl, rfl⟩
  refine taskGoto_cases (P := fun x => Aligned x.1) (fun _ => h) (fun _ _ => h)
    (fun id t hassign _ _ _ => ?_) (fun id t hassign hstill _ _ _ => ?_) (fun id t _ _ _ _ _ => ?_)
  · exact h.of_same (hassigned hassign).1 (hassigned hassign).2
  · refine Aligned.recomputed_still NavStatus.noConfusion ?_
    rw [← (hassigned hassign).2] at hstill
    exact hstill
  · exact iff_of_true rfl rfl

/-- Clearing faults leaves the alignment alone. -/
theorem cmdClearFault_aligned {q : Request} {r : FakeRobot F} (hcons : Consistent r)
    (h : Aligned r) : Aligned (cmdClearFault q r).1 := by
  have hcleared : Aligned (clearedState r) := h.of_same rfl rfl
  have hrecomputed : Aligned (recomputePhaseAndControl (clearedState r)) := by
    refine hcleared.recomputed fun hrun => ⟨(hcons.running hrun).1, ?_⟩
    have hnode : (clearedState r).robotNode = .ok := clearFaults_robotNode r
    have hfaults : (clearedState r).faults = [] := rfl
    simp [hasErrorCondition, hnode, hfaults]
  rw [cmdClearFault_state]
  exact hrecomputed.of_same rfl rfl

/-- The commands that stop a running robot and leave its navigation status alone. -/
theorem dispatch_aligned {q : Request} {r : FakeRobot F} (hcons : Consistent r) (h : Aligned r)
    (hguard : r.phase = .running → ¬(q.cmd = ascii "CMD_ESTART" ∨ q.cmd = ascii "CMD_ESTOP" ∨
      (q.cmd = ascii "CMD_RESET" ∧ extractBool q.data "confirm" = some true) ∨
      q.cmd = ascii "INJECT_FAULT" ∨ q.cmd = ascii "CMD_INJECT_FAULT")) :
    Aligned (dispatch C q r).1 := by
  refine dispatch_cases (P := fun x => Aligned x.1) (fun hcmd => ?_) (fun hcmd => ?_) (fun _ => ?_)
    -- The four that stop the robot are excluded while it runs.
    (fun _ => ?_) (fun hcmd => ?_) (fun _ => cmdClearFault_aligned hcons h) (fun _ => h)
  · have hstill : r.phase ≠ .running := by
      intro hrun
      exact hguard hrun (hcmd.elim Or.inl fun hstop => Or.inr (Or.inl hstop))
    -- A robot that does not run is not tracking either, and that is left as it is.
    unfold cmdEstop
    dsimp only
    split <;> exact h.still hstill rfl Phase.noConfusion
  · by_cases hconfirm : extractBool q.data "confirm" = some true
    · have hstill : r.phase ≠ .running := by
        intro hrun
        exact hguard hrun (Or.inr (Or.inr (Or.inl ⟨hcmd, hconfirm⟩)))
      cases hblock : r.hasBlocking with
      | true =>
          rw [cmdReset_blocked hconfirm hblock]
          exact h
      | false =>
          rw [cmdReset_accepted hconfirm hblock]
          exact h.still hstill rfl Phase.noConfusion
    · rw [cmdReset_unconfirmed r hconfirm]
      exact h
  · rw [cmdMode_state]
    split
    · exact h
    · split
      · exact h
      · exact h.of_same rfl rfl
  · refine cmdTask_cases (P := fun x => Aligned x.1) (fun taskId _ => ?_)
      (fun _ => taskCancel_aligned q r) (fun _ _ _ => taskGoto_aligned h) (fun taskId _ _ => ?_)
      (fun _ _ _ _ => h)
    · unfold taskPause
      split
      · exact Aligned.recomputed_still NavStatus.noConfusion Phase.noConfusion
      · exact h
    · unfold taskResume
      split
      · exact iff_of_true rfl rfl
      · exact h
  · have hstill : r.phase ≠ .running := by
      intro hrun
      exact hguard hrun (Or.inr (Or.inr (Or.inr hcmd)))
    unfold cmdInjectFault injectFault
    exact Aligned.recomputed (h.of_same rfl rfl) fun hrun => absurd hrun hstill

/-! ### One callback -/

/-- **Every callback that does not interrupt keeps status and phase aligned**, and publishes only
the state that it leaves. -/
theorem handle_aligned {r s : FakeRobot F} {e : Event} {out : List (Output F)} (hinv : Inv r)
    (h : r.topicsReady = true → Aligned r) (hguard : r.phase = .running → ¬r.Interrupts e)
    (hstep : handle C r e = some (s, out)) :
    (s.topicsReady = true → Aligned s) ∧ ∀ t u, Output.state t u ∈ out → Aligned u := by
  cases handle_cases hstep with
  | configure hc =>
      have haligned : Aligned (onConfigure e.nowMs r).1 :=
        Aligned.of_still NavStatus.noConfusion Phase.noConfusion
      have hspec : Throughout Aligned (onConfigure e.nowMs r) := throughout_published haligned
      exact ⟨fun _ => haligned, hspec.2⟩
  | activate now hc =>
      have hstill : r.phase ≠ .running := fun hrun => hguard hrun (by simp [Interrupts, hc])
      have haligned : (onActivate now e.nowMs r).1.topicsReady = true →
          Aligned (onActivate now e.nowMs r).1 :=
        fun hup => (h hup).still hstill rfl Phase.noConfusion
      refine ⟨haligned, fun t u hu => ?_⟩
      rw [mem_publishState hu]
      exact haligned (ready_of_mem_publishState hu)
  | deactivate hc =>
      have hstill : r.phase ≠ .running := fun hrun => hguard hrun (by simp [Interrupts, hc])
      exact ⟨fun hup => (h hup).still hstill rfl Phase.noConfusion,
        fun t u hu => absurd hu List.not_mem_nil⟩
  | cleanup hc | shutdown hc =>
      exact ⟨fun hup => absurd hup Bool.false_ne_true, fun t u hu => absurd hu List.not_mem_nil⟩
  | console data hc hup =>
      obtain ⟨haligned, hout⟩ := onConsole_aligned e.nowMs data
        (hinv.consistent hup) (h hup) fun hrun => by
          simpa [Interrupts, hc] using hguard hrun
      exact ⟨fun _ => haligned, fun t u hu => hout t u hu ▸ haligned⟩
  | noCmd data hc hup hq => exact ⟨h, fun t u hu => absurd hu List.not_mem_nil⟩
  | cmd data q hc hup hq =>
      obtain ⟨hcmd, rfl, -⟩ := request?_eq hq
      have haligned : Aligned (dispatch C q r).1 := by
        refine dispatch_aligned (hinv.consistent hup) (h hup) fun hrun hbad => hguard hrun ?_
        simp only [Interrupts, hc, hcmd]
        exact hbad
      obtain ⟨t, res, ha⟩ := dispatch_answers C q r
      exact ⟨fun _ => haligned, fun _ u hu => (ha.mem_state hu).symm ▸ haligned⟩
  | tick now fuel s out hc htick =>
      have hguard' : r.phase = .running → ¬(r.active = true ∧ r.heartbeatLost e.nowMs) :=
        fun hrun hlost => hguard hrun (by simpa [Interrupts, hc] using hlost)
      have haligned : s.topicsReady = true → Aligned s := by
        intro hup
        rw [(tick_spec hinv.running htick).1.ready] at hup
        exact tick_aligned (hinv.consistent hup) (h hup) hguard' htick
      refine ⟨haligned, fun t u hu => ?_⟩
      obtain ⟨rfl, hup⟩ := tick_published hguard' htick hu
      exact haligned hup

end FakeRobot

open FakeRobot

/-! ### Runs -/

/-- **The navigation status follows the phase.** In every run in which nothing interrupts a running
robot, every published state shows `TRACKING` exactly when it shows `RUNNING`. -/
theorem navigation_status {h : Node.History F} {n : Node F}
    (hrun : Run (Node.step C) Uninterrupted Node.init h n) :
    ∀ x ∈ h, ∀ t r, Output.state t r ∈ x.2 → (r.navStatus = .tracking ↔ r.phase = .running) := by
  -- The invariant of the run, and what was published on the way.
  have hall : (Inv n.robot ∧ (n.robot.topicsReady = true → Aligned n.robot)) ∧
      ∀ x ∈ h, ∀ t r, Output.state t r ∈ x.2 → Aligned r := by
    refine hrun.invariant_history
      (P := fun h n => (Inv n.robot ∧ (n.robot.topicsReady = true → Aligned n.robot)) ∧
        ∀ x ∈ h, ∀ t r, Output.state t r ∈ x.2 → Aligned r)
      ⟨⟨inv_init, fun hup => absurd hup Bool.false_ne_true⟩,
        fun x hx => absurd hx List.not_mem_nil⟩ ?_
    intro h n e m out hpre hguard hstep
    obtain ⟨⟨hinv, haligned⟩, hpub⟩ := hpre
    have hhandle := Node.step_handle hstep
    obtain ⟨haligned', hout⟩ := handle_aligned hinv haligned hguard hhandle
    refine ⟨⟨(handle_inv hinv hhandle).1, haligned'⟩, fun x hx => ?_⟩
    rcases List.mem_append.mp hx with hx | hx
    · exact hpub x hx
    · rw [List.mem_singleton.mp hx]
      exact hout
  exact hall.2

/-- Driving to the goal does not interrupt. -/
theorem driven_uninterrupted :
    Run (Node.step (F := ℚ) Exact.Cost) Uninterrupted Node.init drivenHistory drivenStep.1 := by
  have hready : Run (Node.step (F := ℚ) Exact.Cost) Uninterrupted Node.init readyHistory
      readyNode := runs_ready.guard fun pre x u hx hpre =>
    Run.of_checkAll (P := fun _ => Uninterrupted) (by decide +kernel) hx hpre
  have hmoving : Run (Node.step (F := ℚ) Exact.Cost) Uninterrupted Node.init movingHistory
      movingNode := Run.snoc hready (by decide +kernel) step_moving
  exact Run.snoc hmoving (by decide +kernel) (Option.some_get step_driving).symm

/-- The run that drives along a path: tracking and running in each state it publishes. -/
theorem navigation_status_driven :
    drivenHistory ≠ [] ∧ ∀ x ∈ drivenHistory, ∀ t r, Output.state t r ∈ x.2 →
      (r.navStatus = .tracking ↔ r.phase = .running) :=
  ⟨List.append_ne_nil_of_right_ne_nil _ (List.cons_ne_nil _ _),
    navigation_status driven_uninterrupted⟩

/-- The emergency stop. -/
def haltEvent : Event := ⟨6, .cmd (ascii "\x7b\"cmd\":\"CMD_ESTOP\"\x7d")⟩

/-- The robot is stopped on its way. -/
def haltedStep : Node ℚ × List (Output ℚ) :=
  (Node.step Exact.Cost movingNode haltEvent).get (by decide +kernel)

/-- After an emergency stop the robot shows `TRACKING` in the phase `ESTOP`. -/
theorem tracking_when_stopped :
    ∃ (h : Node.History ℚ) (n : Node ℚ), Node.Runs Exact.Cost h n ∧ ∃ x ∈ h, ∃ t r,
      Output.state t r ∈ x.2 ∧ r.navStatus = .tracking ∧ r.phase = .estop := by
  have hrun : Node.Runs Exact.Cost (movingHistory ++ [(haltEvent, haltedStep.2)]) haltedStep.1 :=
    Run.snoc runs_moving trivial (Option.some_get _).symm
  have hshown : (haltedStep.2.filterMap Output.state?).map (fun r => (r.navStatus, r.phase)) =
      [(.tracking, .estop)] := by decide +kernel
  obtain ⟨r, hr, hfields⟩ := List.mem_map.mp (hshown ▸ List.mem_singleton_self _)
  obtain ⟨t, ht⟩ := exists_state hr
  obtain ⟨hstatus, hphase⟩ := Prod.mk.inj hfields
  exact ⟨_, _, hrun, _, List.mem_append_right _ (List.mem_singleton_self _), t, r, ht, hstatus,
    hphase⟩

end BotCockpit.Sim
