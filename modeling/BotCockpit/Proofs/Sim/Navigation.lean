import BotCockpit.Proofs.Sim.Nav
import BotCockpit.Proofs.Sim.TaskStep

/-!
# `BotCockpit.Proofs.Sim.Navigation`: the robot follows a path that is there

Path, index, goal, map and task of the robot are written by different callbacks. Most of them leave
the path alone and at most stop the robot: `Follows` says so, composes, and keeps the invariant
`Guided`. What is left are the callbacks that plan (`taskGoto`, `replan`), that drop the path
(`onConfigure`, `taskCancel`) and that start the robot (`startGoto`, `taskResume`).

`navigation` puts the invariant into the terms of `Spec.Navigation`, with the indices of a tick.
-/

set_option autoImplicit false

namespace BotCockpit.Sim

open BotCockpit.Lib

variable {F : Type} [CDouble F] {C : Type} [CFloat C]

namespace FakeRobot

/-- What the robot follows. -/
def guide (r : FakeRobot F) : Nav.GridMap F × List (F × F) × Nat × F × F :=
  (r.navMap, r.navPath, r.navIdx, r.goalX, r.goalY)

/-- The invariant: a path has an index, ends in the goal and lies on a drawn map, and a running
robot has a goto and a path. -/
structure Guided (r : FakeRobot F) : Prop where
  path : r.navPath ≠ [] → r.navIdx < r.navPath.length ∧
    r.navPath.getLast? = some (r.goalX, r.goalY) ∧ r.navMap.Drawn
  running : r.phase = .running → r.taskType = .goto ∧ r.taskId ≠ [] ∧ r.navPath ≠ []

/-- The path is the same, and the robot runs only if it ran before, on the same task. -/
structure Follows (r s : FakeRobot F) : Prop where
  guide : s.guide = r.guide
  running : s.phase = .running →
    r.phase = .running ∧ s.taskType = r.taskType ∧ s.taskId = r.taskId

/-- A state follows itself. -/
theorem Follows.refl (r : FakeRobot F) : Follows r r := ⟨rfl, fun h => ⟨h, rfl, rfl⟩⟩

/-- What follows a follower follows the first. -/
theorem Follows.trans {r s t : FakeRobot F} (h₁ : Follows r s) (h₂ : Follows s t) :
    Follows r t := by
  refine ⟨h₂.guide.trans h₁.guide, fun h => ?_⟩
  obtain ⟨hs, htype, hid⟩ := h₂.running h
  obtain ⟨hr, htype', hid'⟩ := h₁.running hs
  exact ⟨hr, htype.trans htype', hid.trans hid'⟩

/-- The robot stands. -/
theorem Follows.of_still {r s : FakeRobot F} (hguide : s.guide = r.guide)
    (hstill : s.phase ≠ .running) : Follows r s :=
  ⟨hguide, fun h => absurd h hstill⟩

/-- A state that follows a guided one is guided. -/
theorem Guided.follow {r s : FakeRobot F} (h : Guided r) (hf : Follows r s) : Guided s := by
  obtain ⟨hmap, hguide⟩ := Prod.mk.inj hf.guide
  obtain ⟨hpath, hguide⟩ := Prod.mk.inj hguide
  obtain ⟨hidx, hguide⟩ := Prod.mk.inj hguide
  obtain ⟨hx, hy⟩ := Prod.mk.inj hguide
  constructor
  · rw [hmap, hpath, hidx, hx, hy]
    exact h.path
  · intro hrun
    obtain ⟨hr, htype, hid⟩ := hf.running hrun
    rw [htype, hid, hpath]
    exact h.running hr

/-- Without a path the robot only has to stand. -/
theorem Guided.of_nil {r : FakeRobot F} (hpath : r.navPath = []) (hstill : r.phase ≠ .running) :
    Guided r :=
  ⟨fun h => absurd hpath h, fun h => absurd h hstill⟩

/-! ### The recomputation, the console and the motion -/

/-- The recomputation leaves the navigation alone. -/
theorem Follows.recompute (r : FakeRobot F) : Follows r (recomputePhaseAndControl r) := by
  obtain ⟨phase, control, status, node, hr⟩ := recompute_frame r
  refine ⟨by rw [hr]; rfl, fun h => ⟨recompute_phase_running h, ?_⟩⟩
  rw [hr]
  exact ⟨rfl, rfl⟩

/-- So does a block that ends with it. -/
theorem Follows.recomputed {r t : FakeRobot F} (h : Follows r t) :
    Follows r (recomputePhaseAndControl t) :=
  h.trans (Follows.recompute t)

/-- A step that writes none of these fields. -/
theorem Follows.of_same {r s : FakeRobot F} (hguide : s.guide = r.guide)
    (hphase : s.phase = r.phase) (htype : s.taskType = r.taskType) (hid : s.taskId = r.taskId) :
    Follows r s :=
  ⟨hguide, fun h => ⟨hphase.symm.trans h, htype, hid⟩⟩

/-- A safety stop leaves the navigation alone. -/
theorem applySafetyStop_follows (nowMs : UInt64) (r : FakeRobot F) :
    Follows r (applySafetyStop nowMs r).1 := by
  let stopped : FakeRobot F := { r with
    taskStatus := r.taskStatus.failOngoing
    phase := if r.phase = .running then .idle else r.phase
    taskType := .none }
  have hstopped : Follows r stopped := by
    refine Follows.of_still rfl ?_
    show (if r.phase = .running then Phase.idle else r.phase) ≠ .running
    split
    · exact Phase.noConfusion
    · assumption
  refine hstopped.recomputed.trans ?_
  show Follows (recomputePhaseAndControl stopped)
    (if (recomputePhaseAndControl stopped).consoleOnline = true then
      recomputePhaseAndControl stopped
      else { recomputePhaseAndControl stopped with controlEnabled := false })
  split <;> exact Follows.of_same rfl rfl rfl rfl

/-- Up to its motion point a tick leaves the navigation alone. -/
theorem motionPoint_follows (now : Int) (nowMs : UInt64) (r : FakeRobot F) :
    Follows r (motionPoint now nowMs r).1 := by
  let ticked : FakeRobot F := { r with lastTickTp := now }
  have hcheck : Follows r (checkHeartbeat nowMs ticked).1 := by
    have hticked : Follows r ticked := Follows.of_same rfl rfl rfl rfl
    refine hticked.trans ?_
    unfold checkHeartbeat
    dsimp only
    split
    · have hgone : Follows ticked { ticked with consoleOnline := false, bridgeNode := .warn } :=
        Follows.of_same rfl rfl rfl rfl
      split
      · exact hgone.trans (applySafetyStop_follows nowMs _)
      · exact hgone
    · exact Follows.refl ticked
  have hleave : Follows r (leaveInitializing now (checkHeartbeat nowMs ticked).1) := by
    refine hcheck.trans ?_
    unfold leaveInitializing
    split
    · exact Follows.of_still rfl Phase.noConfusion
    · exact Follows.refl _
  exact hleave.recomputed

/-- A message of the console leaves the navigation alone. -/
theorem onConsole_follows (nowMs : UInt64) (data : Bytes) (r : FakeRobot F) :
    Follows r (onConsole nowMs data r).1 := by
  have hsettle : ∀ t : FakeRobot F, Follows r t → Follows r
      (let s := recomputePhaseAndControl t
       if s.consoleOnline then s else { s with controlEnabled := false }) := fun t ht => by
    refine ht.recomputed.trans ?_
    dsimp only
    split <;> exact Follows.of_same rfl rfl rfl rfl
  unfold onConsole
  dsimp only
  by_cases honline : (extractBool data "online").getD false = true
  · rw [if_pos honline]
    exact hsettle _ (Follows.of_same rfl rfl rfl rfl)
  · rw [if_neg honline]
    have hgone : Follows r { r with
        consoleOnline := (extractBool data "online").getD false, bridgeNode := .warn } :=
      Follows.of_same rfl rfl rfl rfl
    split
    · exact hsettle _ (hgone.trans (applySafetyStop_follows nowMs _))
    · exact hsettle _ hgone

/-- The loop over the waypoints moves the index up to the last point and no further. -/
theorem Guided.drive {fuel : Nat} {dt w : F} {r s : FakeRobot F} {collided : Bool}
    (hguided : Guided r) (h : drive fuel dt r = some (s, collided, w)) : Guided s := by
  obtain ⟨_, _, _, rfl, -⟩ := drive_frame h
  refine ⟨fun hpath => ?_, hguided.running⟩
  obtain ⟨hidx, hlast, hdrawn⟩ := hguided.path hpath
  exact ⟨Nav.purePursuit_idx hidx, hlast, hdrawn⟩

/-- The trail is no part of the plan. -/
theorem leaveCrumb_follows (r : FakeRobot F) : Follows r (leaveCrumb r) := by
  obtain ⟨trail, h⟩ := leaveCrumb_frame r
  rw [h]
  exact Follows.of_same rfl rfl rfl rfl

/-- Planning again gives a path from its start on, or keeps the old one on the new map. -/
theorem Guided.replan {r : FakeRobot F} (hguided : Guided r) : Guided (replan C r) := by
  unfold FakeRobot.replan
  by_cases hstuck : 1.2 < r.stuckS
  · rw [if_pos hstuck]
    dsimp only
    generalize (if 3 ≤ r.stuckCount + 1 then (0 : Int) else 1) = k
    have hdrawn : (Nav.GridMap.makeCorridorDemo.inflate k : Nav.GridMap F).Drawn :=
      Nav.GridMap.makeCorridorDemo_drawn.inflate k
    split
    · exact ⟨fun hpath => ⟨(hguided.path hpath).1, (hguided.path hpath).2.1, hdrawn⟩,
        hguided.running⟩
    · rename_i hsome
      refine ⟨fun _ => ⟨?_, Nav.astar_getLast? hsome, hdrawn⟩, fun hrun => ?_⟩
      · exact (Nav.advanceIdx_bounds _ 0 _ _).2 (List.length_pos_iff.mpr hsome)
      · obtain ⟨htype, hid, -⟩ := hguided.running hrun
        exact ⟨htype, hid, hsome⟩
  · rw [if_neg hstuck]
    exact hguided

/-- A replan puts a path with its end at the goal, or keeps the old one. -/
theorem Guided.steered {dt x y w : F} {collided : Bool} {r : FakeRobot F} (hguided : Guided r) :
    Guided (steered C dt x y collided w r) := by
  refine Guided.replan (hguided.follow ((leaveCrumb_follows r).trans ?_))
  exact Follows.of_same rfl rfl rfl rfl

/-- The tracking error leaves the navigation alone, or drops the task. -/
theorem trackError_follows (r : FakeRobot F) : Follows r (trackError r) := by
  rcases trackError_frame r with ⟨err, errMax, h⟩ | ⟨err, errMax, h⟩
  · rw [h]
    exact Follows.of_same rfl rfl rfl rfl
  · rw [h]
    exact Follows.recomputed (Follows.of_still rfl Phase.noConfusion)

/-- The arrival empties the path or leaves it. -/
theorem arrive_follows (r : FakeRobot F) : Follows r (arrive r) := by
  rcases arrive_frame r with h | ⟨-, trail, h, -⟩
  · rw [h]
    exact Follows.refl r
  · rw [h]
    exact Follows.recomputed (Follows.of_still rfl Phase.noConfusion)

/-- The battery leaves the navigation alone. -/
theorem checkBattery_follows (r : FakeRobot F) : Follows r (checkBattery r) := by
  obtain ⟨b, -, h | ⟨-, h⟩⟩ := checkBattery_frame r
  · rw [h]
    exact Follows.of_same rfl rfl rfl rfl
  · rw [h]
    exact Follows.recomputed (Follows.of_same rfl rfl rfl rfl)

/-- The motion keeps the robot guided. -/
theorem Guided.move {fuel : Nat} {dt : F} {r s : FakeRobot F} (hguided : Guided r)
    (h : move C fuel dt r = some s) : Guided s := by
  rcases move_cases h with ⟨-, moved, rfl, hmoved⟩ | ⟨-, rfl | rfl⟩
  · have hmove : Guided moved := by
      rcases hmoved with ⟨-, hfollow⟩ | ⟨-, rfl⟩
      · obtain ⟨driven, collided, w, hdrive, rfl⟩ := follow_cases hfollow
        have hsteered : Guided (FakeRobot.steered C dt r.poseX r.poseY collided w driven) :=
          (hguided.drive hdrive).steered
        exact hsteered.follow ((trackError_follows _).trans (arrive_follows _))
      · exact hguided.follow (Follows.recomputed (Follows.of_still rfl Phase.noConfusion))
    exact hmove.follow (Follows.of_same rfl rfl rfl rfl)
  · exact hguided.follow (Follows.of_same rfl rfl rfl rfl)
  · exact hguided

/-- A whole tick keeps the robot guided. -/
theorem Guided.tick {now : Int} {nowMs : UInt64} {fuel : Nat} {r s : FakeRobot F}
    {out : List (Output F)} (hguided : Guided r) (h : tick C now nowMs fuel r = some (s, out)) :
    Guided s := by
  rcases tick_cases h with ⟨-, rfl, -⟩ | ⟨-, moved, hmoved, rfl, -⟩
  · exact hguided
  · have hhere : Guided (motionPoint now nowMs r).1 :=
      hguided.follow (motionPoint_follows now nowMs r)
    exact (hhere.move hmoved).follow (checkBattery_follows moved)

/-! ### The commands -/

/-- Cancelling drops the path and stops the robot. -/
theorem Guided.taskCancel (q : Request) (r : FakeRobot F) : Guided (taskCancel q r).1 := by
  let cancelled : FakeRobot F := { r with
    taskStatus := .none
    taskId := []
    taskType := .none
    navPath := []
    navStatus := .idle
    stuckS := 0.0
    stuckCount := 0
    phase := if r.phase = .running then .idle else r.phase }
  have hcancelled : Guided cancelled := by
    refine Guided.of_nil rfl ?_
    show (if r.phase = .running then Phase.idle else r.phase) ≠ .running
    split
    · exact Phase.noConfusion
    · assumption
  exact hcancelled.follow (Follows.recompute cancelled)

/-- The id that a goto runs under is not empty. -/
theorem assignTaskId_ne_nil {taskId id : Bytes} {r t : FakeRobot F}
    (h : assignTaskId taskId r = (id, t)) : id ≠ [] := by
  unfold assignTaskId at h
  split at h
  · obtain ⟨rfl, -⟩ := Prod.mk.inj h
    exact List.append_ne_nil_of_left_ne_nil (by decide) _
  · obtain ⟨rfl, -⟩ := Prod.mk.inj h
    assumption

/-- Assigning an id leaves the navigation alone. -/
theorem assignTaskId_follows {taskId id : Bytes} {r t : FakeRobot F}
    (h : assignTaskId taskId r = (id, t)) : Follows r t := by
  obtain ⟨_, rfl⟩ := assignTaskId_counter h
  exact Follows.of_same rfl rfl rfl rfl

/-- A goto that starts puts a path to its goal on a map that is drawn. -/
theorem Guided.startGoto {map : Nav.GridMap F} {path : List (F × F)} {x y : F} {id : Bytes}
    (hpath : path ≠ []) (hlast : path.getLast? = some (x, y)) (hdrawn : map.Drawn) (hid : id ≠ [])
    (r : FakeRobot F) : Guided (startGoto map path x y id r) :=
  ⟨fun _ => ⟨List.length_pos_iff.mpr hpath, hlast, hdrawn⟩, fun _ => ⟨rfl, hid, hpath⟩⟩

/-- A goto that starts has a path to its goal. -/
theorem Guided.taskGoto {q : Request} {taskId : Bytes} {r : FakeRobot F} (hguided : Guided r) :
    Guided (taskGoto C q taskId r).1 := by
  refine taskGoto_cases (P := fun h => Guided h.1) (fun _ => hguided) (fun _ _ => hguided)
    (fun id t hassign _ _ _ => hguided.follow (assignTaskId_follows hassign))
    (fun id t hassign hrun _ _ _ => ?_) (fun id t hassign _ _ _ hpath => ?_)
  · refine Guided.follow (Guided.of_nil rfl ?_) (Follows.recompute _)
    exact fun h => hrun ((assignTaskId_follows hassign).running h).1
  · exact Guided.startGoto hpath (Nav.astar_getLast? hpath)
      (Nav.GridMap.makeCorridorDemo_drawn.inflate 1) (assignTaskId_ne_nil hassign) t

/-- A robot is resumed only with a task and a path. -/
theorem Guided.taskResume {q : Request} {taskId : Bytes} {r : FakeRobot F} (hguided : Guided r) :
    Guided (taskResume q taskId r).1 := by
  unfold FakeRobot.taskResume
  by_cases hcan : r.taskId ≠ [] ∧ r.taskType = .goto ∧ ¬r.estop ∧ r.phase = .idle ∧
      r.consoleOnline ∧ ¬r.hasErrorCondition ∧ r.navPath ≠ []
  · rw [if_pos hcan]
    obtain ⟨hid, htype, -, -, -, -, hpath⟩ := hcan
    exact ⟨hguided.path, fun _ => ⟨htype, hid, hpath⟩⟩
  · rw [if_neg hcan]
    exact hguided

/-- RESET leaves the navigation alone, or drops the task with its path. -/
theorem cmdReset_follows (q : Request) (r : FakeRobot F) : Follows r (cmdReset q r).1 := by
  by_cases hconfirm : extractBool q.data "confirm" = some true
  · cases hblock : r.hasBlocking with
    | true =>
        rw [cmdReset_blocked hconfirm hblock]
        exact Follows.refl r
    | false =>
        rw [cmdReset_accepted hconfirm hblock]
        exact Follows.of_still rfl Phase.noConfusion
  · rw [cmdReset_unconfirmed r hconfirm]
    exact Follows.refl r

/-- A change of mode leaves the navigation alone. -/
theorem cmdMode_follows (q : Request) (r : FakeRobot F) : Follows r (cmdMode q r).1 := by
  rw [cmdMode_state]
  split
  · exact Follows.refl r
  · split
    · exact Follows.refl r
    · exact Follows.of_same rfl rfl rfl rfl

/-- A pause leaves the navigation alone. -/
theorem taskPause_follows (q : Request) (taskId : Bytes) (r : FakeRobot F) :
    Follows r (taskPause q taskId r).1 := by
  unfold taskPause
  split
  · exact Follows.recomputed (Follows.of_still rfl Phase.noConfusion)
  · exact Follows.refl r

/-- Every command keeps the robot guided. -/
theorem Guided.dispatch {q : Request} {r : FakeRobot F} (hguided : Guided r) :
    Guided (dispatch C q r).1 := by
  refine dispatch_cases (P := fun h => Guided h.1) (fun _ => ?_)
    (fun _ => hguided.follow (cmdReset_follows q r))
    (fun _ => hguided.follow (cmdMode_follows q r)) (fun _ => ?_) (fun _ => ?_) (fun _ => ?_)
    (fun _ => hguided)
  · refine hguided.follow ?_
    unfold cmdEstop
    dsimp only
    split <;> exact Follows.of_still rfl Phase.noConfusion
  · exact cmdTask_cases (P := fun h => Guided h.1)
      (fun taskId _ => hguided.follow (taskPause_follows q taskId r))
      (fun _ => Guided.taskCancel q r) (fun _ _ _ => hguided.taskGoto)
      (fun _ _ _ => hguided.taskResume) (fun _ _ _ _ => hguided)
  · exact hguided.follow (Follows.recomputed (Follows.of_same rfl rfl rfl rfl))
  · have hcleared : Follows r (clearedState r) := Follows.of_same rfl rfl rfl rfl
    rw [cmdClearFault_state]
    exact hguided.follow (hcleared.recomputed.trans (Follows.of_same rfl rfl rfl rfl))

/-- **Every callback keeps the robot guided.** -/
theorem Guided.handle {e : Event} {r s : FakeRobot F} {out : List (Output F)} (hguided : Guided r)
    (h : handle C r e = some (s, out)) : Guided s := by
  cases handle_cases h with
  | configure hc =>
      -- The configuration starts without a path.
      exact Guided.of_nil rfl Phase.noConfusion
  | activate now hc => exact hguided.follow (Follows.of_still rfl Phase.noConfusion)
  | deactivate hc | cleanup hc | shutdown hc =>
      exact hguided.follow (Follows.of_still rfl Phase.noConfusion)
  | console data hc hready => exact hguided.follow (onConsole_follows e.nowMs data r)
  | noCmd data hc hready hq => exact hguided
  | cmd data q hc hready hq => exact hguided.dispatch
  | tick now fuel s out hc htick => exact hguided.tick htick

/-! ### Runs -/

/-- The invariant gives what is said of the navigation. -/
theorem Guided.navigates {r : FakeRobot F} (h : Guided r) : Navigates r := by
  refine ⟨fun hpath => ⟨(h.path hpath).1, (h.path hpath).2.1⟩, fun hrun => ?_⟩
  obtain ⟨htype, hid, hpath⟩ := h.running hrun
  exact ⟨htype, hid, hpath, (h.path hpath).2.2.inRange.size⟩

/-- A guided robot indexes only what is there. -/
theorem Guided.tickInRange (now : Int) (nowMs : UInt64) (fuel : Nat) (r : FakeRobot F)
    {here : FakeRobot F} (h : Guided here) : TickInRange C now nowMs fuel r here := by
  have hpath : here.moving → here.navPath ≠ [] := fun hmoving => (h.running hmoving.2.1).2.2
  refine ⟨hpath, fun hmoving => (h.path (hpath hmoving)).1,
    fun hmoving => (h.path (hpath hmoving)).2.2.inRange, fun path idx x y hidx => ?_,
    fun hmoving s collided w hdrive => ?_, fun m hm => hm.inRange,
    fun k => Nav.GridMap.makeCorridorDemo_drawn.inflate k⟩
  · obtain ⟨hle, hlt⟩ := Nav.advanceIdx_bounds path idx x y
    exact ⟨hle, hlt hidx⟩
  · -- The robot still runs after the drive, so it still has a path.
    have hdriven := h.drive hdrive
    have hrun := (drive_same hdrive).phase.trans hmoving.2.1
    have hpath₁ := (hdriven.running hrun).2.2
    have hsteered : Guided
        (FakeRobot.steered C (tickDt now r) here.poseX here.poseY collided w s) := hdriven.steered
    have hrun' : (FakeRobot.steered C (tickDt now r) here.poseX here.poseY collided w s).phase =
        .running := (steered_same C _ _ _ _ _ s).phase.trans hrun
    have hpath₂ := (hsteered.running hrun').2.2
    exact ⟨(hdriven.path hpath₁).1, (hdriven.path hpath₁).2.2.inRange, (hsteered.path hpath₂).1,
      (hsteered.path hpath₂).2.2.inRange⟩

end FakeRobot

open FakeRobot

/-- In every run of the node the robot is guided. -/
theorem Node.Runs.guided {h : Node.History F} {n : Node F} (hrun : Node.Runs C h n) :
    Guided n.robot := by
  refine hrun.invariant (P := fun n : Node F => Guided n.robot)
    (Guided.of_nil rfl Phase.noConfusion) ?_
  intro n e m out hguided _ hstep
  exact hguided.handle (Node.step_handle hstep)

/-- **The navigation state is sound.** In every reachable state the path, the index, the goal and
the map fit together and a running robot has them all, so every tick stays in range. -/
theorem navigation {r : FakeRobot F} (hreach : Reachable C r) :
    Navigates r ∧ ∀ now nowMs fuel,
      TickInRange C now nowMs fuel r (motionPoint now nowMs r).1 := by
  obtain ⟨h, n, hrun, rfl⟩ := hreach
  have hguided := hrun.guided
  exact ⟨hguided.navigates, fun now nowMs fuel =>
    (hguided.follow (motionPoint_follows now nowMs n.robot)).tickInRange now nowMs fuel n.robot⟩

/-- The robot after an accepted goto, and its next tick. -/
theorem navigation_moving :
    Navigates movingNode.robot ∧ movingNode.robot.phase = .running ∧
      TickInRange Exact.Cost 800000000 6 4 movingNode.robot
        (motionPoint 800000000 6 movingNode.robot).1 :=
  have hsound := navigation ⟨_, _, runs_moving, rfl⟩
  ⟨hsound.1, rfl, hsound.2 800000000 6 4⟩

end BotCockpit.Sim
