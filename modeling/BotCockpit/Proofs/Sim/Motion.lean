import BotCockpit.Proofs.Sim.Clearance
import BotCockpit.Proofs.Sim.Resume

/-!
# `BotCockpit.Proofs.Sim.Motion`: how the robot moves

Whatever the arithmetic of `double` rounds to. A tick of an active robot leaves the position as it
is, or puts it straight ahead, as far as one of the four speeds of the pursuit takes it in the time
since the last tick. When the point that the robot has come to is nearer than 0.22 to the goal, the
tick may put the robot there, and ends the task (`strides`). The other callbacks do not move the
robot, but for the configuration.

The heading stays within one turn, if rounding is monotone (`heading_bounded`).
-/

set_option autoImplicit false

namespace BotCockpit.Sim

open BotCockpit.Lib

variable {F : Type} [CDouble F] {C : Type} [CFloat C]

namespace Nav

/-- The speeds of the pursuit. -/
def speeds : List F := [0.0, 0.10, 0.12, 0.28]

/-- The pursuit drives forwards, at one of four speeds. -/
theorem purePursuit_speed (map : GridMap F) (x y yaw : F) (path : List (F × F)) (idx : Nat)
    (lookahead : F) : (purePursuit map x y yaw path idx lookahead).1 ∈ (speeds : List F) := by
  have hspeed : ∀ i : Fin 4, speeds.get i ∈ (speeds : List F) := fun i => List.get_mem _ _
  unfold purePursuit
  split
  · exact hspeed 0
  · -- Each branch after the bearing to the aim point has its speed.
    extract_lets +lift idx' ld aim dx dy localX localY d alpha v w w' w''
    split
    · exact hspeed 0
    · split
      · exact hspeed 1
      · split
        · show v ∈ speeds
          unfold v
          split
          · exact hspeed 2
          · exact hspeed 3
        · exact hspeed 1

end Nav

namespace FakeRobot

variable {r s t : FakeRobot F}

/-! ### One tick -/

/-- Where the robot is. -/
def position (r : FakeRobot F) : F × F := (r.poseX, r.poseY)

/-- Where the robot goes. -/
def goal (r : FakeRobot F) : F × F := (r.goalX, r.goalY)

/-- The point that the robot comes to in `dt` seconds at speed `v`, straight ahead. -/
def ahead (v dt : F) (r : FakeRobot F) : F × F :=
  (r.poseX + v * CDouble.cos r.poseYaw * dt, r.poseY + v * CDouble.sin r.poseYaw * dt)

/-- The robot stands, or drives straight ahead at a speed of the pursuit. -/
def Drives (dt : F) (r : FakeRobot F) (p : F × F) : Prop :=
  p = r.position ∨ ∃ v ∈ Nav.speeds, p = r.ahead v dt

/-- What a tick may do to the position: the robot drives, and when it has come near to its goal, the
tick may put it there and end the task. -/
def Strides (dt : F) (r s : FakeRobot F) : Prop :=
  Drives dt r s.position ∨
    ∃ p, Drives dt r p ∧ dist p.1 p.2 r.goal.1 r.goal.2 < 0.22 ∧ s.position = r.goal ∧
      r.taskStatus ≠ .done ∧ s.taskStatus = .done

/-- The position is a part of the pose. -/
theorem position_of_pose (h : s.pose = r.pose) : s.position = r.position := by
  obtain ⟨hx, hrest⟩ := Prod.mk.inj h
  exact Prod.ext hx (Prod.mk.inj hrest).1

/-- A drive starts from the pose, and from nothing else of the state. -/
theorem Drives.of_pose {dt : F} {p : F × F} (h : Drives dt s p) (hpose : s.pose = r.pose) :
    Drives dt r p := by
  obtain ⟨hx, hrest⟩ := Prod.mk.inj hpose
  obtain ⟨hy, hyaw⟩ := Prod.mk.inj hrest
  unfold Drives position ahead at *
  rw [← hx, ← hy, ← hyaw]
  exact h

/-- What neither the replanning nor the tracking error changes. -/
def still (r : FakeRobot F) : (F × F × F) × (F × F) × F := (r.pose, r.goal, r.battery)

/-- The recomputation does not move the robot. -/
theorem recompute_still (r : FakeRobot F) : (recomputePhaseAndControl r).still = r.still := by
  obtain ⟨_, _, _, _, h⟩ := recompute_frame r
  rw [h]
  rfl

/-- What follows the loop over the waypoints does not move the robot. -/
theorem tracked_still (dt x y w : F) (collided : Bool) (r : FakeRobot F) :
    (trackError (steered C dt x y collided w r)).still = r.still := by
  obtain ⟨_, _, _, _, _, _, _, hsteered⟩ := steered_frame C dt x y w collided r
  have hstill : (steered C dt x y collided w r).still = r.still := by
    rw [hsteered]
    rfl
  rw [← hstill]
  rcases trackError_frame (steered C dt x y collided w r) with ⟨err, errMax, h⟩ | ⟨err, errMax, h⟩
  · rw [h]
    rfl
  · rw [h]
    exact recompute_still _

/-- The loop over the waypoints makes one drive: it ends at the pose it computes. -/
theorem drive_drives {fuel : Nat} {dt w : F} {collided : Bool}
    (h : drive fuel dt r = some (s, collided, w)) :
    Drives dt r s.position ∧ s.goal = r.goal := by
  obtain ⟨x, y, yaw, rfl, -, ⟨rfl, rfl⟩ | ⟨rfl, rfl, -⟩⟩ := drive_frame h
  · exact ⟨.inl rfl, rfl⟩
  · exact ⟨.inr ⟨_, Nav.purePursuit_speed _ _ _ _ _ _ _, rfl⟩, rfl⟩

/-- A robot that follows its path drives, and arrives when it has come near to its goal. -/
theorem follow_strides {fuel : Nat} {dt : F} (h : follow C fuel dt r = some s) :
    Drives dt r s.position ∨
      ∃ p, Drives dt r p ∧ dist p.1 p.2 r.goal.1 r.goal.2 < 0.22 ∧ s.position = r.goal ∧
        s.taskStatus = .done ∧ s.phase ≠ .running := by
  obtain ⟨driven, collided, w, hdrive, rfl⟩ := follow_cases h
  obtain ⟨hdrives, hgoal⟩ := drive_drives hdrive
  have hstill := tracked_still (C := C) dt r.poseX r.poseY w collided driven
  generalize trackError (steered C dt r.poseX r.poseY collided w driven) = going at hstill ⊢
  obtain ⟨hpose, hrest⟩ := Prod.mk.inj hstill
  have hgoal' : going.goal = r.goal := (Prod.mk.inj hrest).1.trans hgoal
  rw [← position_of_pose hpose] at hdrives
  rcases arrive_frame going with harrive | ⟨hnear, trail, harrive, -⟩
  · rw [harrive]
    exact .inl hdrives
  · -- The pose is put on the goal, and the recomputation leaves both alone.
    refine .inr ⟨going.position, hdrives, ?_, ?_, ?_, ?_⟩
    · rw [← hgoal']
      exact hnear
    · rw [harrive, ← hgoal']
      exact position_of_pose (pose_recompute _)
    · rw [harrive]
      exact recompute_taskStatus Phase.noConfusion
    · rw [harrive]
      exact fun hrun => Phase.noConfusion (recompute_phase_running hrun)

/-- A low battery does not end a task, nor start one. -/
theorem checkBattery_taskStatus (h : r.phase ≠ .running) :
    (checkBattery r).taskStatus = r.taskStatus := by
  obtain ⟨b, -, hcheck | ⟨-, hcheck⟩⟩ := checkBattery_frame r
  · rw [hcheck]
  · rw [hcheck]
    exact recompute_taskStatus h

/-- **What a tick does to the position.** -/
theorem tick_strides {now : Int} {nowMs : UInt64} {fuel : Nat} {out : List (Output F)}
    (hinv : Inv r) (hgoing : Going r) (h : tick C now nowMs fuel r = some (s, out)) :
    s.position = r.position ∨ r.active = true ∧ Strides (tickDt now r) r s := by
  rcases tick_cases h with ⟨-, rfl, -⟩ | ⟨hactive, moved, hmoved, rfl, -⟩
  · exact .inl rfl
  · refine .inr ⟨hactive, ?_⟩
    obtain ⟨hpoint, -, -, hpose⟩ := motionPoint_spec now nowMs r hinv.running
    obtain ⟨hcons, -⟩ := move_spec hpoint.1 hmoved
    have hbattery := position_of_pose (checkBattery_spec hcons).2.2
    -- Up to the motion point nothing of the plan is touched.
    have hgoal : (motionPoint now nowMs r).1.goal = r.goal := by
      have hguide := (motionPoint_follows now nowMs r).guide
      exact congrArg (fun g => g.2.2.2) hguide
    have hkept := motionPoint_kept now nowMs r
    generalize (motionPoint now nowMs r).1 = here at hmoved hpose hgoal hkept
    -- A block that does not move the robot.
    have hstands (hsame : moved.pose = here.pose) : Strides (tickDt now r) r (checkBattery moved) :=
      .inl (.inl (hbattery.trans (position_of_pose (hsame.trans hpose))))
    rcases move_cases hmoved with ⟨hmoving, t, rfl, ⟨-, hfollow⟩ | ⟨-, rfl⟩⟩ | ⟨-, rfl | rfl⟩
    · rcases follow_strides hfollow with hdrives | ⟨p, hdrives, hnear, harrived, hdone, hphase⟩
      · refine .inl ?_
        rw [hbattery]
        exact hdrives.of_pose hpose
      · -- The robot ran before the tick, so its task was ongoing.
        have hstatus : r.taskStatus ≠ .done := by
          intro hdone
          rcases (hgoing (hkept.run hmoving.2.1)).2 with hacc | hexec
          · exact TaskStatus.noConfusion (hdone.symm.trans hacc)
          · exact TaskStatus.noConfusion (hdone.symm.trans hexec)
        refine .inr ⟨p, hdrives.of_pose hpose, hgoal ▸ hnear, ?_, hstatus, ?_⟩
        · rw [hbattery]
          exact harrived.trans hgoal
        · rw [checkBattery_taskStatus]
          · exact hdone
          · exact hphase
    · exact hstands (pose_recompute _)
    · exact hstands rfl
    · exact hstands rfl

/-- The other callbacks leave the robot where it is, but for the configuration. -/
theorem handle_pose {e : Event} {out : List (Output F)} (hconf : e.call ≠ .configure)
    (htick : ∀ now fuel, e.call ≠ .tick now fuel) (hstep : handle C r e = some (s, out)) :
    s.pose = r.pose := by
  cases handle_cases hstep with
  | configure hc => exact absurd hc hconf
  | tick now fuel s out hc _ => exact absurd hc (htick now fuel)
  | activate now hc => rfl
  | deactivate hc | cleanup hc | shutdown hc => rfl
  | console data hc hready => exact (onConsole_spec e.nowMs data r).pose
  | noCmd data hc hready hq => rfl
  | cmd data q hc hready hq =>
      obtain ⟨t, res, ha⟩ := dispatch_answers C q r
      rw [ha.state]
      exact ha.safe.pose

end FakeRobot

open FakeRobot

/-- **The robot keeps to its speed.** In every reachable state, a callback other than the
configuration leaves the position as it is, or it is a tick of an active robot. Then the robot
drives straight ahead at one of the four speeds for the time since the last tick, or it arrives:
from less than 0.22 away it is put on its goal, and its task, which was not done, is done. -/
theorem strides {h : Node.History F} {n m : Node F} {e : Event} {out : List (Output F)}
    (hrun : Node.Runs C h n) (hstep : n.step C e = some (m, out)) (hconf : e.call ≠ .configure) :
    m.robot.position = n.robot.position ∨
      n.robot.active = true ∧ ∃ now fuel, e.call = .tick now fuel ∧
        Strides (tickDt now n.robot) n.robot m.robot := by
  have hhandle := Node.step_handle hstep
  cases hc : e.call with
  | tick now fuel =>
      simp only [handle, hc] at hhandle
      rcases tick_strides (Node.Runs.inv hrun) (Node.Runs.going hrun) hhandle with hsame | hstrides
      · exact .inl hsame
      · exact .inr ⟨hstrides.1, now, fuel, rfl, hstrides.2⟩
  | _ => exact .inl (position_of_pose (handle_pose hconf (fun _ _ => by rw [hc]; simp) hhandle))

/-- The tick after the goto takes the robot to its goal. -/
theorem strides_driving :
    drivenStep.1.robot.position ≠ movingNode.robot.position ∧ movingNode.robot.active = true ∧
      ∃ now fuel, drivingEvent.call = .tick now fuel ∧
        Strides (tickDt now movingNode.robot) movingNode.robot drivenStep.1.robot := by
  have hmoved : drivenStep.1.robot.position ≠ movingNode.robot.position := by decide +kernel
  have hstep : movingNode.step Exact.Cost drivingEvent = some (drivenStep.1, drivenStep.2) :=
    (Option.some_get step_driving).symm
  exact ⟨hmoved, (strides runs_moving hstep Call.noConfusion).resolve_left hmoved⟩

/-! ### The heading -/

namespace FakeRobot

variable {r s : FakeRobot F}

/-- The heading is within one turn. -/
def Heads (yaw : F) : Prop := ¬(Nav.pi : F) < yaw ∧ ¬yaw < -Nav.pi

/-- The heading is a part of the pose. -/
theorem poseYaw_of_pose (h : s.pose = r.pose) : s.poseYaw = r.poseYaw :=
  (Prod.mk.inj (Prod.mk.inj h).2).2

/-- The arrival changes the position only. -/
theorem arrive_poseYaw (r : FakeRobot F) : (arrive r).poseYaw = r.poseYaw := by
  rcases arrive_frame r with h | ⟨-, trail, h, -⟩
  · rw [h]
  · rw [h, poseYaw_of_pose (pose_recompute _)]

/-- Where the first loop of `wrapAngle` ends, the angle is not above π. -/
theorem wrapDown_le {fuel : Nat} {a b : F} (h : Nav.wrapDown fuel a = some b) :
    ¬(Nav.pi : F) < b := by
  -- The fuel counts the turns, so the angle is free.
  induction fuel generalizing a with
  | zero =>
      unfold Nav.wrapDown at h
      split at h
      · cases h
      · rename_i hle
        exact Option.some.inj h ▸ hle
  | succ fuel ih =>
      unfold Nav.wrapDown at h
      split at h
      · exact ih h
      · rename_i hle
        exact Option.some.inj h ▸ hle

variable [LawfulDouble F]

/-- A turn is added only below `-pi`, so the result does not leave the range at the top. -/
theorem wrapUp_range (hturn : -(Nav.pi : F) + 2.0 * Nav.pi = Nav.pi) {fuel : Nat} {a b : F}
    (h : Nav.wrapUp fuel a = some b) (ha : ¬(Nav.pi : F) < a) : Heads b := by
  induction fuel generalizing a with
  | zero =>
      unfold Nav.wrapUp at h
      split at h
      · cases h
      · rename_i hge
        exact Option.some.inj h ▸ ⟨ha, hge⟩
  | succ fuel ih =>
      unfold Nav.wrapUp at h
      split at h
      · rename_i hlt
        have hle := LawfulDouble.add_mono a (-Nav.pi) (2.0 * Nav.pi) hlt
        rw [hturn] at hle
        exact ih h hle
      · rename_i hge
        exact Option.some.inj h ▸ ⟨ha, hge⟩

/-- So `wrapAngle` ends in its range; the second loop does not leave it at the top. -/
theorem wrapAngle_range (hturn : -(Nav.pi : F) + 2.0 * Nav.pi = Nav.pi) {fuel : Nat} {a b : F}
    (h : Nav.wrapAngle fuel a = some b) : Heads b := by
  obtain ⟨c, hdown, hup⟩ := Option.bind_eq_some_iff.mp h
  exact wrapUp_range hturn hup (wrapDown_le hdown)

/-- A heading of zero is within one turn. -/
theorem heads_zero : Heads (0.0 : F) :=
  have hpi : ¬(Nav.pi : F) < 0.0 := LawfulDouble.literal_nonneg _ _ _
  ⟨hpi, LawfulDouble.neg_nonpos _ hpi⟩

/-- The motion stores a wrapped heading, or the one it found. -/
theorem move_heading (hturn : -(Nav.pi : F) + 2.0 * Nav.pi = Nav.pi) {fuel : Nat} {dt : F}
    (hr : Heads r.poseYaw) (h : move C fuel dt r = some s) : Heads s.poseYaw := by
  rcases move_cases h with ⟨-, moved, rfl, ⟨-, hfollow⟩ | ⟨-, rfl⟩⟩ | ⟨-, rfl | rfl⟩
  · obtain ⟨driven, collided, w, hdrive, rfl⟩ := follow_cases hfollow
    have hstill := tracked_still (C := C) dt r.poseX r.poseY w collided driven
    show Heads (arrive _).poseYaw
    rw [arrive_poseYaw, poseYaw_of_pose (Prod.mk.inj hstill).1]
    obtain ⟨x, y, yaw, rfl, ⟨a, hwrap⟩, -⟩ := drive_frame hdrive
    exact wrapAngle_range hturn hwrap
  · have hsame : (abandon r).poseYaw = r.poseYaw := poseYaw_of_pose (pose_recompute _)
    show Heads (abandon r).poseYaw
    rw [hsame]
    exact hr
  · exact hr
  · exact hr

/-- So does every callback of the robot. -/
theorem handle_heading (hturn : -(Nav.pi : F) + 2.0 * Nav.pi = Nav.pi) {e : Event}
    {out : List (Output F)} (hinv : Inv r) (hr : Heads r.poseYaw)
    (hstep : handle C r e = some (s, out)) : Heads s.poseYaw := by
  cases hc : e.call with
  | configure =>
      simp only [handle, hc, Option.some.injEq] at hstep
      obtain ⟨rfl, -⟩ := Prod.mk.inj hstep
      exact heads_zero
  | tick now fuel =>
      simp only [handle, hc] at hstep
      rcases tick_cases hstep with ⟨-, rfl, -⟩ | ⟨-, moved, hmoved, rfl, -⟩
      · exact hr
      · obtain ⟨hpoint, -, -, hpose⟩ := motionPoint_spec now e.nowMs r hinv.running
        obtain ⟨hcons, -⟩ := move_spec hpoint.1 hmoved
        rw [poseYaw_of_pose (checkBattery_spec hcons).2.2]
        exact move_heading hturn (poseYaw_of_pose hpose ▸ hr) hmoved
  | _ =>
      have hpose := handle_pose (by rw [hc]; simp) (fun _ _ => by rw [hc]; simp) hstep
      exact poseYaw_of_pose hpose ▸ hr

end FakeRobot

/-- **The heading is within one turn**, in every reachable state. Rounding is monotone, and the
double of `M_PI` is exact. -/
theorem heading_bounded [LawfulDouble F] (hturn : -(Nav.pi : F) + 2.0 * Nav.pi = Nav.pi)
    {h : Node.History F} {n : Node F} (hrun : Node.Runs C h n) :
    ¬(Nav.pi : F) < n.robot.poseYaw ∧ ¬n.robot.poseYaw < -Nav.pi := by
  induction hrun with
  | nil => exact heads_zero
  | snoc hrun _ hstep ih =>
      exact handle_heading hturn (Node.Runs.inv hrun) ih (Node.step_handle hstep)

/-- A goto ahead of the robot, to the left. -/
def leftData : Bytes := ascii ("\x7b\"seq\":7,\"cmd\":\"CMD_TASK\",\"type\":\"goto\"," ++
  "\"task_id\":\"A\",\"x\":1.45,\"y\":0.1\x7d")

/-- The node after this goto. -/
def leftNode : Node ℚ :=
  { readyNode with
    robot := startGoto (Nav.GridMap.makeCorridorDemo.inflate 1) [(29 / 20, 1 / 10)] (29 / 20)
      (1 / 10) (ascii "A") readyNode.robot }

/-- The goto to a goal on the left is accepted. -/
theorem step_left : Node.step Exact.Cost readyNode ⟨5, .cmd leftData⟩ = some (leftNode,
    [.result (.accepted 7 (ascii "CMD_TASK") (ascii "A")), .state 5 leftNode.robot]) :=
  step_goto (by decide +kernel) (by decide +kernel) (by decide +kernel) (by decide +kernel)
    (by decide +kernel) (by decide +kernel) (by decide +kernel) (by decide +kernel)
    (by decide +kernel) (by decide +kernel) (by decide +kernel) (by decide +kernel)
    (goto_path (by decide +kernel)) (by decide +kernel)

/-- The robot turns to its goal. -/
def turnedStep : Node ℚ × List (Output ℚ) :=
  (Node.step Exact.Cost leftNode drivingEvent).get (by decide +kernel)

/-- The bound in a state whose robot has turned towards that goal. -/
theorem heading_bounded_turned :
    0 < turnedStep.1.robot.poseYaw ∧ ¬(Nav.pi : ℚ) < turnedStep.1.robot.poseYaw ∧
      ¬turnedStep.1.robot.poseYaw < -Nav.pi := by
  have hrun : Node.Runs Exact.Cost _ leftNode := Run.snoc runs_ready trivial step_left
  have hstep : leftNode.step Exact.Cost drivingEvent = some (turnedStep.1, turnedStep.2) :=
    (Option.some_get _).symm
  exact ⟨by decide +kernel, heading_bounded (by decide +kernel) (Run.snoc hrun trivial hstep)⟩

end BotCockpit.Sim
