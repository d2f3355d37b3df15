import BotCockpit.Proofs.Sim.Phase
import BotCockpit.Spec.Navigation

/-!
# `BotCockpit.Proofs.Sim.Tick`: what a tick can do

One specification for each block of `tick`, and `tick_spec` for the whole. A tick keeps the
safety flags (`NoStart`), ends in a consistent state, and changes the pose only when the state
at its motion point is `moving`.
-/

set_option autoImplicit false

namespace BotCockpit.Sim.FakeRobot

open BotCockpit.Lib

variable {F : Type} [CDouble F]

/-! ### Before the motion -/

/-- The heartbeat check: what it leaves online has a fresh heartbeat, and what it leaves
running is online. -/
theorem checkHeartbeat_spec (nowMs : UInt64) (r : FakeRobot F) :
    NoStart r (checkHeartbeat nowMs r).1 ∧
      ((checkHeartbeat nowMs r).1.consoleOnline = true → ¬r.heartbeatLost nowMs) ∧
      ((r.phase = .running → r.consoleOnline = true) →
        (checkHeartbeat nowMs r).1.phase = .running →
          (checkHeartbeat nowMs r).1.consoleOnline = true) ∧
      (∀ t s, Output.state t s ∈ (checkHeartbeat nowMs r).2 → Consistent s) ∧
      (checkHeartbeat nowMs r).1.pose = r.pose := by
  by_cases hlost : r.heartbeatLost nowMs
  · -- The heartbeat is lost: the console counts as offline.
    let offline : FakeRobot F := { r with consoleOnline := false, bridgeNode := .warn }
    have hoffline : ¬offline.consoleOnline = true := Bool.false_ne_true
    have hoff : NoStart r offline :=
      ⟨rfl, rfl, rfl, rfl, rfl, fun h => absurd h hoffline, id⟩
    by_cases hrun : r.phase = .running
    · -- A running robot makes a safety stop.
      have hcheck : checkHeartbeat nowMs r = applySafetyStop nowMs offline := by
        unfold checkHeartbeat
        rw [if_pos hlost]
        exact if_pos hrun
      obtain ⟨hcons, hstop, hphase, hpose⟩ := applySafetyStop_spec nowMs offline
      rw [hcheck]
      refine ⟨hoff.trans hstop, fun h => ?_, fun _ h => absurd h hphase, hcons.2, ?_⟩
      · exact absurd (hstop.online h) hoffline
      · rw [hpose]
        rfl
    · have hcheck : checkHeartbeat nowMs r = (offline, []) := by
        unfold checkHeartbeat
        rw [if_pos hlost]
        exact if_neg hrun
      rw [hcheck]
      exact ⟨hoff, fun h => absurd h hoffline, fun _ h => absurd h hrun,
        fun _ _ h => absurd h List.not_mem_nil, rfl⟩
  · have hcheck : checkHeartbeat nowMs r = (r, []) := by
      unfold checkHeartbeat
      rw [if_neg hlost]
    rw [hcheck]
    exact ⟨(SameSafety.refl r).noStart, fun _ => hlost, fun hrun h => hrun h,
      fun _ _ h => absurd h List.not_mem_nil, rfl⟩

/-- The check of the heartbeat answers no command. -/
theorem result_not_mem_checkHeartbeat {nowMs : UInt64} {r : FakeRobot F} {res : CmdResult} :
    Output.result res ∉ (checkHeartbeat nowMs r).2 := by
  unfold checkHeartbeat
  dsimp only
  split
  · split
    · exact result_not_mem_publishState
    · exact List.not_mem_nil
  · exact List.not_mem_nil

/-- The end of the initialisation starts no motion and keeps console and pose. -/
theorem leaveInitializing_spec (now : Int) (r : FakeRobot F) :
    NoStart r (leaveInitializing now r) ∧
      (leaveInitializing now r).consoleOnline = r.consoleOnline ∧
      (leaveInitializing now r).pose = r.pose := by
  unfold leaveInitializing
  split
  · exact ⟨⟨rfl, rfl, rfl, rfl, rfl, id, fun h => Phase.noConfusion h⟩, rfl, rfl⟩
  · exact ⟨(SameSafety.refl r).noStart, rfl, rfl⟩

/-- The state at the motion point is consistent, and its console heartbeat is fresh when it is
online. -/
theorem motionPoint_spec (now : Int) (nowMs : UInt64) (r : FakeRobot F)
    (hrun : r.phase = .running → r.consoleOnline = true) :
    Throughout Consistent (motionPoint now nowMs r) ∧ NoStart r (motionPoint now nowMs r).1 ∧
      ((motionPoint now nowMs r).1.consoleOnline = true → ¬r.heartbeatLost nowMs) ∧
      (motionPoint now nowMs r).1.pose = r.pose := by
  let ticked : FakeRobot F := { r with lastTickTp := now }
  obtain ⟨hstart, hfresh, honline, hout, hpose⟩ := checkHeartbeat_spec nowMs ticked
  obtain ⟨hleave, hsame, hpose'⟩ := leaveInitializing_spec now (checkHeartbeat nowMs ticked).1
  have hticked : NoStart r ticked := ⟨rfl, rfl, rfl, rfl, rfl, id, id⟩
  have hpoint : motionPoint now nowMs r =
      (recomputePhaseAndControl (leaveInitializing now (checkHeartbeat nowMs ticked).1),
        (checkHeartbeat nowMs ticked).2) := rfl
  rw [hpoint]
  refine ⟨⟨recompute_consistent fun h => ?_, hout⟩, ?_, fun h => ?_, ?_⟩
  · rw [hsame]
    exact honline hrun (hleave.running h)
  · exact hticked.trans (hstart.trans (hleave.trans (recompute_noStart _)))
  · rw [recompute_consoleOnline, hsame] at h
    exact hfresh h
  · rw [pose_recompute, hpose', hpose]
    rfl

/-! ### What the blocks of the motion write -/

/-- The pursuit of the path of the robot: the velocities and the new path index. -/
def pursuit (r : FakeRobot F) : F × F × Nat :=
  Nav.purePursuit r.navMap r.poseX r.poseY r.poseYaw r.navPath r.navIdx 0.45

/-- The drive writes the path index and the pose. The heading was wrapped, and the position is the
old one or the point ahead. The point ahead is free, or a step nearer to a goal close by. -/
theorem drive_frame {fuel : Nat} {dt w : F} {r s : FakeRobot F} {collided : Bool}
    (h : drive fuel dt r = some (s, collided, w)) :
    ∃ x y yaw, s = { r with navIdx := r.pursuit.2.2, poseX := x, poseY := y, poseYaw := yaw } ∧
      (∃ a, Nav.wrapAngle fuel a = some yaw) ∧
      (x = r.poseX ∧ y = r.poseY ∨
        x = r.poseX + r.pursuit.1 * CDouble.cos r.poseYaw * dt ∧
          y = r.poseY + r.pursuit.1 * CDouble.sin r.poseYaw * dt ∧
          (dist r.poseX r.poseY r.goalX r.goalY < 0.55 ∧
              dist x y r.goalX r.goalY < dist r.poseX r.poseY r.goalX r.goalY ∨
            Nav.isFree r.navMap x y = true)) := by
  unfold drive at h
  dsimp only at h
  split at h
  · -- The way is blocked, and the robot turns on the spot.
    simp only [Option.bind_eq_some_iff, Option.map_eq_some_iff, Prod.mk.injEq] at h
    obtain ⟨_, -, yaw, hyaw, rfl, -, -⟩ := h
    exact ⟨_, _, yaw, rfl, ⟨_, hyaw⟩, .inl ⟨rfl, rfl⟩⟩
  · rename_i hfree
    simp only [Option.map_eq_some_iff, Prod.mk.injEq] at h
    obtain ⟨yaw, hyaw, rfl, -, -⟩ := h
    refine ⟨_, _, yaw, rfl, ⟨_, hyaw⟩, .inr ⟨rfl, rfl, ?_⟩⟩
    exact (Decidable.not_and_iff_not_or_not.mp hfree).imp Decidable.not_not.mp Decidable.not_not.mp

/-- `leaveCrumb` writes the trail and nothing else. -/
theorem leaveCrumb_frame (r : FakeRobot F) : ∃ trail, leaveCrumb r = { r with trail := trail } := by
  unfold leaveCrumb
  split
  · exact ⟨_, rfl⟩
  · exact ⟨r.trail, rfl⟩

/-- `replan` writes the two counters, the map, the path and the navigation's state. -/
theorem replan_frame (C : Type) [CFloat C] (r : FakeRobot F) :
    ∃ stuckS count map path idx status, replan C r = { r with
      stuckS := stuckS, stuckCount := count, navMap := map, navPath := path, navIdx := idx,
      navStatus := status } := by
  unfold replan
  by_cases hstuck : 1.2 < r.stuckS
  · rw [if_pos hstuck]
    dsimp only
    generalize Nav.astar C _ r.poseX r.poseY r.goalX r.goalY = replanned
    split
    · exact ⟨_, _, _, _, _, _, rfl⟩
    · exact ⟨_, _, _, _, _, _, rfl⟩
  · rw [if_neg hstuck]
    exact ⟨r.stuckS, r.stuckCount, r.navMap, r.navPath, r.navIdx, r.navStatus, rfl⟩

/-- Between the drive and the tracking error, the tick writes the trail, the stuck timer and what
belongs to the path, and says that the task is being carried out. -/
theorem steered_frame (C : Type) [CFloat C] (dt x y w : F) (collided : Bool) (r : FakeRobot F) :
    ∃ trail stuckS count map path idx status, steered C dt x y collided w r = { r with
      trail := trail, stuckS := stuckS, stuckCount := count, navMap := map, navPath := path,
      navIdx := idx, taskStatus := .executing, navStatus := status } := by
  obtain ⟨trail, htrail⟩ := leaveCrumb_frame r
  obtain ⟨stuckS, count, map, path, idx, status, hreplan⟩ :=
    replan_frame C (stuckTimer dt x y collided w
      { r with trail := trail, taskStatus := .executing, navStatus := .tracking })
  unfold steered
  rw [htrail, hreplan]
  exact ⟨trail, stuckS, count, map, path, idx, status, rfl⟩

/-- The tracking error is noted, or it is too large and the task fails. -/
theorem trackError_frame (r : FakeRobot F) :
    (∃ err errMax, trackError r = { r with trackErr := err, trackErrMax := errMax }) ∨
      ∃ err errMax, trackError r = recomputePhaseAndControl { r with
        trackErr := err, trackErrMax := errMax, taskStatus := .failed, phase := .idle,
        navStatus := .failed,
        faults := r.faults ++ [{ code := .taskFailed, level := .error,
                                 detail := ascii "tracking error too large" }] } := by
  unfold trackError
  dsimp only
  split
  · split
    · exact .inr ⟨_, _, rfl⟩
    · exact .inl ⟨_, _, rfl⟩
  · exact .inl ⟨r.trackErr, r.trackErrMax, rfl⟩

/-- Nothing happens, or the goal is nearer than 0.22 and the task is done. Then there is a crumb at
the goal, unless the last one is not stale. -/
theorem arrive_frame (r : FakeRobot F) :
    arrive r = r ∨ dist r.poseX r.poseY r.goalX r.goalY < 0.22 ∧
      ∃ trail, arrive r = recomputePhaseAndControl { r with
          poseX := r.goalX, poseY := r.goalY, trail := trail, trackErr := 0.0,
          taskStatus := .done, phase := .idle, navStatus := .idle, stuckS := 0.0,
          stuckCount := 0 } ∧
        (trail = r.trail ∨ trail = r.trail ++ [(r.goalX, r.goalY)] ∧
          trailStale 0.02 { r with poseX := r.goalX, poseY := r.goalY }) := by
  unfold arrive
  dsimp only
  split
  · rename_i hnear
    refine .inr ⟨hnear, ?_⟩
    split
    · rename_i hstale
      exact ⟨_, rfl, .inr ⟨rfl, hstale⟩⟩
    · exact ⟨_, rfl, .inl rfl⟩
  · exact .inl rfl

/-- The battery is not negative, and a low one is on the list of faults. -/
theorem checkBattery_frame (r : FakeRobot F) :
    ∃ b, b = (if r.battery < 0.0 then 0.0 else r.battery) ∧
      (checkBattery r = { r with battery := b } ∨
        r.faults.any (fun f => f.code = .batteryLow && f.active) = false ∧
          checkBattery r = recomputePhaseAndControl { r with
            battery := b,
            faults := r.faults ++ [{ code := .batteryLow, level := .warn,
                                     detail := ascii "battery below 15%" }] }) := by
  have hclamp : (if r.battery < 0.0 then { r with battery := 0.0 } else r) =
      { r with battery := if r.battery < 0.0 then 0.0 else r.battery } := by
    split <;> rfl
  refine ⟨_, rfl, ?_⟩
  unfold checkBattery
  dsimp only
  rw [hclamp]
  generalize (if r.battery < 0.0 then 0.0 else r.battery) = b
  split
  · split
    · exact .inl rfl
    · rename_i hnone
      exact .inr ⟨Bool.not_eq_true _ ▸ hnone, rfl⟩
  · exact .inl rfl

/-- Following the path is the loop over the waypoints and then its three blocks. -/
theorem follow_cases {C : Type} [CFloat C] {fuel : Nat} {dt : F} {r s : FakeRobot F}
    (h : follow C fuel dt r = some s) :
    ∃ driven collided w, drive fuel dt r = some (driven, collided, w) ∧
      s = arrive (trackError (steered C dt r.poseX r.poseY collided w driven)) := by
  unfold follow at h
  simp only [Option.map_eq_some_iff] at h
  obtain ⟨⟨driven, collided, w⟩, hdrive, rfl⟩ := h
  exact ⟨driven, collided, w, hdrive, rfl⟩

/-- A robot that moves follows its path, or gives the task up when there is none. Any other stands,
and an idle one uses a little battery. -/
theorem move_cases {C : Type} [CFloat C] {fuel : Nat} {dt : F} {r s : FakeRobot F}
    (h : move C fuel dt r = some s) :
    (r.moving ∧ ∃ moved, s = { moved with battery := moved.battery - 0.05 * dt } ∧
        (r.navPath ≠ [] ∧ follow C fuel dt r = some moved ∨ r.navPath = [] ∧ moved = abandon r)) ∨
      ¬r.moving ∧ (s = { r with battery := r.battery - 0.02 * dt } ∨ s = r) := by
  unfold move at h
  by_cases hmoving : r.moving
  · rw [if_pos hmoving] at h
    simp only [Option.map_eq_some_iff] at h
    obtain ⟨moved, hmoved, rfl⟩ := h
    refine .inl ⟨hmoving, moved, rfl, ?_⟩
    by_cases hpath : r.navPath ≠ []
    · rw [if_pos hpath] at hmoved
      exact .inl ⟨hpath, hmoved⟩
    · rw [if_neg hpath] at hmoved
      exact .inr ⟨Decidable.not_not.mp hpath, (Option.some.inj hmoved).symm⟩
  · rw [if_neg hmoving] at h
    refine .inr ⟨hmoving, ?_⟩
    split at h
    · exact .inl (Option.some.inj h).symm
    · exact .inr (Option.some.inj h).symm

/-- A tick is skipped while the robot is inactive. Else it moves from its motion point on. -/
theorem tick_cases {C : Type} [CFloat C] {now : Int} {nowMs : UInt64} {fuel : Nat}
    {r s : FakeRobot F} {out : List (Output F)} (h : tick C now nowMs fuel r = some (s, out)) :
    r.active = false ∧ s = r ∧ out = [] ∨
      r.active = true ∧ ∃ moved,
        move C fuel (tickDt now r) (motionPoint now nowMs r).1 = some moved ∧
        s = checkBattery moved ∧ out = (motionPoint now nowMs r).2 ++ s.publishState nowMs := by
  unfold tick at h
  split at h
  · rename_i hactive
    obtain ⟨rfl, rfl⟩ := Prod.mk.inj (Option.some.inj h)
    exact .inl ⟨Bool.not_eq_true _ ▸ hactive, rfl, rfl⟩
  · rename_i hactive
    simp only [Option.map_eq_some_iff, Prod.mk.injEq] at h
    obtain ⟨moved, hmoved, rfl, rfl⟩ := h
    exact .inr ⟨Decidable.not_not.mp hactive, moved, hmoved, rfl, rfl⟩

/-! ### The motion -/

/-- The loop over the waypoints leaves the safety fields alone. -/
theorem drive_same {fuel : Nat} {dt w : F} {r s : FakeRobot F} {collided : Bool}
    (h : drive fuel dt r = some (s, collided, w)) : SameSafety r s := by
  obtain ⟨x, y, yaw, rfl, -⟩ := drive_frame h
  exact ⟨rfl, rfl, rfl, rfl, rfl, rfl, rfl, rfl, rfl, rfl⟩

/-- Steering and replanning leave the safety fields alone. -/
theorem steered_same (C : Type) [CFloat C] (dt x y w : F) (collided : Bool) (r : FakeRobot F) :
    SameSafety r (steered C dt x y collided w r) := by
  obtain ⟨_, _, _, _, _, _, _, h⟩ := steered_frame C dt x y w collided r
  rw [h]
  exact ⟨rfl, rfl, rfl, rfl, rfl, rfl, rfl, rfl, rfl, rfl⟩

/-- A block of the motion either keeps the safety fields or stops the task and recomputes. -/
theorem stop_spec {r s : FakeRobot F} (hphase : s.phase = .idle)
    (hframe : s.estop = r.estop ∧ s.mode = r.mode ∧ s.active = r.active ∧
      s.topicsReady = r.topicsReady ∧ s.lastConsoleMs = r.lastConsoleMs ∧
      s.consoleOnline = r.consoleOnline) :
    Consistent (recomputePhaseAndControl s) ∧ NoStart r (recomputePhaseAndControl s) := by
  obtain ⟨hestop, hmode, hactive, hready, hlast, honline⟩ := hframe
  have hnot : s.phase ≠ .running := by simp [hphase]
  have hstart : NoStart r s :=
    ⟨hestop, hmode, hactive, hready, hlast, fun h => honline ▸ h, fun h => absurd h hnot⟩
  exact ⟨recompute_consistent fun h => absurd h hnot, hstart.trans (recompute_noStart s)⟩

/-- The tracking error keeps the state consistent and starts no motion. -/
theorem trackError_spec {r : FakeRobot F} (hcons : Consistent r) :
    Consistent (trackError r) ∧ NoStart r (trackError r) := by
  rcases trackError_frame r with ⟨err, errMax, h⟩ | ⟨err, errMax, h⟩
  · have hsame : SameSafety r { r with trackErr := err, trackErrMax := errMax } :=
      ⟨rfl, rfl, rfl, rfl, rfl, rfl, rfl, rfl, rfl, rfl⟩
    rw [h]
    exact ⟨hcons.of_same hsame, hsame.noStart⟩
  · rw [h]
    exact stop_spec rfl ⟨rfl, rfl, rfl, rfl, rfl, rfl⟩

/-- So does the arrival. -/
theorem arrive_spec {r : FakeRobot F} (hcons : Consistent r) :
    Consistent (arrive r) ∧ NoStart r (arrive r) := by
  rcases arrive_frame r with h | ⟨-, trail, h, -⟩
  · rw [h]
    exact ⟨hcons, (SameSafety.refl r).noStart⟩
  · rw [h]
    exact stop_spec rfl ⟨rfl, rfl, rfl, rfl, rfl, rfl⟩

/-- So does following the path as a whole. -/
theorem follow_spec {C : Type} [CFloat C] {fuel : Nat} {dt : F} {r s : FakeRobot F}
    (hcons : Consistent r) (h : follow C fuel dt r = some s) :
    Consistent s ∧ NoStart r s := by
  obtain ⟨driven, collided, w, hdrive, rfl⟩ := follow_cases h
  -- Up to the replanning no safety field changes.
  have hsame := (drive_same hdrive).trans (steered_same C dt r.poseX r.poseY w collided driven)
  obtain ⟨hcons₁, hstart₁⟩ := trackError_spec (hcons.of_same hsame)
  obtain ⟨hcons₂, hstart₂⟩ := arrive_spec hcons₁
  exact ⟨hcons₂, hsame.noStart.trans (hstart₁.trans hstart₂)⟩

/-- The motion keeps the invariant, and leaves the pose alone unless the robot is `moving`. -/
theorem move_spec {C : Type} [CFloat C] {fuel : Nat} {dt : F} {r s : FakeRobot F}
    (hcons : Consistent r) (h : move C fuel dt r = some s) :
    Consistent s ∧ NoStart r s ∧ (¬r.moving → s.pose = r.pose) := by
  have hbattery (t : FakeRobot F) (b : F) : SameSafety t { t with battery := b } :=
    ⟨rfl, rfl, rfl, rfl, rfl, rfl, rfl, rfl, rfl, rfl⟩
  rcases move_cases h with ⟨hmoving, moved, rfl, hmoved⟩ | ⟨-, rfl | rfl⟩
  · have hspec : Consistent moved ∧ NoStart r moved := by
      rcases hmoved with ⟨-, hfollow⟩ | ⟨-, rfl⟩
      · exact follow_spec hcons hfollow
      · exact stop_spec rfl ⟨rfl, rfl, rfl, rfl, rfl, rfl⟩
    exact ⟨hspec.1.of_same (hbattery moved _), hspec.2.trans (hbattery moved _).noStart,
      fun hno => absurd hmoving hno⟩
  · exact ⟨hcons.of_same (hbattery r _), (hbattery r _).noStart, fun _ => rfl⟩
  · exact ⟨hcons, (SameSafety.refl _).noStart, fun _ => rfl⟩

/-! ### The whole tick -/

/-- So does the battery, which does not move the robot either. -/
theorem checkBattery_spec {r : FakeRobot F} (hcons : Consistent r) :
    Consistent (checkBattery r) ∧ NoStart r (checkBattery r) ∧
      (checkBattery r).pose = r.pose := by
  obtain ⟨b, -, h | ⟨-, h⟩⟩ := checkBattery_frame r
  · have hsame : SameSafety r { r with battery := b } :=
      ⟨rfl, rfl, rfl, rfl, rfl, rfl, rfl, rfl, rfl, rfl⟩
    rw [h]
    exact ⟨hcons.of_same hsame, hsame.noStart, rfl⟩
  · -- A new warning: recompute.
    let warned : FakeRobot F := { r with battery := b, faults := r.faults ++
      [{ code := .batteryLow, level := .warn, detail := ascii "battery below 15%" }] }
    have hwarned : NoStart r warned := ⟨rfl, rfl, rfl, rfl, rfl, id, id⟩
    rw [h]
    refine ⟨recompute_consistent fun hrun => (hcons.running hrun).2.1, ?_, ?_⟩
    · exact hwarned.trans (recompute_noStart warned)
    · rw [pose_recompute]
      rfl

/-- **What a tick can do.** It is skipped while the robot is inactive. Else it keeps the safety
flags, ends consistent, publishes only consistent states, and leaves the pose alone unless the
robot is `moving` at the motion point. -/
theorem tick_spec {C : Type} [CFloat C] {now : Int} {nowMs : UInt64} {fuel : Nat}
    {r s : FakeRobot F} {out : List (Output F)}
    (hrun : r.phase = .running → r.consoleOnline = true)
    (h : tick C now nowMs fuel r = some (s, out)) :
    NoStart r s ∧ (∀ res, Output.result res ∉ out) ∧
      (r.active = false ∧ s = r ∧ out = [] ∨
        r.active = true ∧ Throughout Consistent (s, out) ∧
          (¬(motionPoint now nowMs r).1.moving → s.pose = r.pose)) := by
  rcases tick_cases h with ⟨hactive, rfl, rfl⟩ | ⟨hactive, moved, hmoved, rfl, rfl⟩
  · exact ⟨(SameSafety.refl _).noStart, fun _ => List.not_mem_nil, Or.inl ⟨hactive, rfl, rfl⟩⟩
  · obtain ⟨hpoint, hstart, -, hpose⟩ := motionPoint_spec now nowMs r hrun
    obtain ⟨hcons, hstart', hpose'⟩ := move_spec hpoint.1 hmoved
    obtain ⟨hcons', hstart'', hpose''⟩ := checkBattery_spec hcons
    refine ⟨hstart.trans (hstart'.trans hstart''), fun res hres => ?_, Or.inr ⟨hactive, ?_, ?_⟩⟩
    · rcases List.mem_append.mp hres with hres | hres
      · exact result_not_mem_checkHeartbeat hres
      · exact result_not_mem_publishState hres
    · refine ⟨hcons', fun t s hs => ?_⟩
      rcases List.mem_append.mp hs with hs | hs
      · exact hpoint.2 t s hs
      · rw [mem_publishState hs]
        exact hcons'
    · intro hnot
      rw [hpose'', hpose' hnot, hpose]

end BotCockpit.Sim.FakeRobot
