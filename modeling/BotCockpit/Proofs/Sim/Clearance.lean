import BotCockpit.Proofs.Sim.Corridor
import BotCockpit.Proofs.Sim.Navigation
import BotCockpit.Proofs.Sim.RefusedTask
import BotCockpit.Proofs.Sim.TaskOnce

/-!
# `BotCockpit.Proofs.Sim.Clearance`: the robot stays clear of the walls

The drive looks whether the next point is free on the map of the robot. That map may have been
drawn anew since, with a thinner body or none, and the last steps to a goal are not looked at.
`stays_clear` says what is left for a whole run: the robot is in a free cell of the corridor map, or
where the configuration has put it, or it has come there on the last half metre to a goal that was
accepted.

`Planned` is the invariant of the map and the goal, over the goals `G` that were given so far, and
`Placed` the one of the pose.
-/

set_option autoImplicit false

namespace BotCockpit.Sim

open BotCockpit.Lib

variable {F : Type} [CDouble F] {C : Type} [CFloat C]

namespace Nav.GridMap

/-- A point that is free on an inflated corridor is free on the corridor. -/
theorem isFree_of_inflate {k : Int} {x y : F}
    (h : Nav.isFree (makeCorridorDemo.inflate k) x y = true) :
    Nav.isFree makeCorridorDemo x y = true := by
  by_cases hk : 0 < k
  · have hocc := inflate_occupies (makeCorridorDemo_drawn (F := F)).inRange hk
    unfold Nav.isFree at h ⊢
    rw [hocc.grid.worldToCell] at h
    cases hcell : (makeCorridorDemo : GridMap F).worldToCell x y with
    | none => simp [hcell] at h
    | some c =>
        simp only [hcell, Bool.not_eq_eq_eq_not, Bool.not_true] at h ⊢
        by_contra hwall
        have hinflated := (hocc.occupied c.1 c.2).mpr (.inl (by simpa using hwall))
        rw [h] at hinflated
        cases hinflated
  · rw [inflate, if_pos (by omega)] at h
    exact h

end Nav.GridMap

namespace FakeRobot

/-- The point is the goal `p`, or nearer to it than some distance below 0.55. -/
def Approaches (p : F × F) (x y : F) : Prop :=
  (x = p.1 ∧ y = p.2) ∨ ∃ d : F, d < 0.55 ∧ dist x y p.1 p.2 < d

variable {G G' : F × F → Prop} {r s : FakeRobot F}

/-- A robot with a path has a goal that was given, and the map is a drawing of the corridor. -/
def Planned (G : F × F → Prop) (r : FakeRobot F) : Prop :=
  r.navPath ≠ [] →
    G (r.goalX, r.goalY) ∧ ∃ k, r.navMap = Nav.GridMap.makeCorridorDemo.inflate k

/-- The pose is in a free cell of the corridor, or where the configuration puts it, or on the last
steps to a goal that was given. -/
def Placed (G : F × F → Prop) (r : FakeRobot F) : Prop :=
  Nav.isFree (Nav.GridMap.makeCorridorDemo : Nav.GridMap F) r.poseX r.poseY = true ∨
    (r.poseX = 1.25 ∧ r.poseY = 0.0) ∨ ∃ p, G p ∧ Approaches p r.poseX r.poseY

/-- A larger set of points that are allowed as goals. -/
theorem Planned.mono (hG : ∀ p, G p → G' p) (h : Planned G r) : Planned G' r :=
  fun hpath => ⟨hG _ (h hpath).1, (h hpath).2⟩

/-- The same for the place of the robot. -/
theorem Placed.mono (hG : ∀ p, G p → G' p) (h : Placed G r) : Placed G' r :=
  h.imp id (Or.imp id fun ⟨p, hp, happ⟩ => ⟨p, hG p hp, happ⟩)

/-- Where the robot stands depends on its pose alone. -/
theorem Placed.of_pose (h : Placed G r) (hpose : s.pose = r.pose) : Placed G s := by
  obtain ⟨hx, hpose⟩ := Prod.mk.inj hpose
  obtain ⟨hy, -⟩ := Prod.mk.inj hpose
  unfold Placed
  rw [hx, hy]
  exact h

/-- Without a path nothing is planned. -/
theorem Planned.of_nil (h : r.navPath = []) : Planned G r := fun hpath => absurd h hpath

/-- A state that follows another has its path. -/
theorem Follows.navPath (h : Follows r s) : s.navPath = r.navPath :=
  congrArg (fun g => g.2.1) h.guide

/-- So it has its plan. -/
theorem Planned.follow (h : Planned G r) (hf : Follows r s) : Planned G s := by
  obtain ⟨hmap, hguide⟩ := Prod.mk.inj hf.guide
  obtain ⟨hpath, hguide⟩ := Prod.mk.inj hguide
  obtain ⟨-, hguide⟩ := Prod.mk.inj hguide
  obtain ⟨hx, hy⟩ := Prod.mk.inj hguide
  unfold Planned
  rw [hmap, hpath, hx, hy]
  exact h

/-- The recomputation leaves the plan alone. -/
theorem Planned.recomputed (h : Planned G r) : Planned G (recomputePhaseAndControl r) :=
  h.follow (Follows.recompute r)

/-! ### The motion -/

/-- The motion along the path leaves the path and its plan alone. -/
theorem Planned.drive {fuel : Nat} {dt w : F} {collided : Bool} (h : Planned G r)
    (hdrive : drive fuel dt r = some (s, collided, w)) :
    Planned G s ∧ s.navPath = r.navPath := by
  obtain ⟨_, _, _, rfl, -⟩ := drive_frame hdrive
  exact ⟨h, rfl⟩

/-- A blocked drive stays where it is. Else the next point is free, or nearer to the goal, which is
less than 0.55 away. -/
theorem Placed.drive {fuel : Nat} {dt w : F} {collided : Bool} (h : Placed G r)
    (hplan : Planned G r) (hpath : r.navPath ≠ [])
    (hdrive : drive fuel dt r = some (s, collided, w)) : Placed G s := by
  obtain ⟨hgoal, k, hmap⟩ := hplan hpath
  obtain ⟨x, y, yaw, rfl, -, ⟨rfl, rfl⟩ | ⟨-, -, ⟨hnow, hnext⟩ | hfree⟩⟩ := drive_frame hdrive
  · exact h
  · exact .inr (.inr ⟨_, hgoal, .inr ⟨_, hnow, hnext⟩⟩)
  · refine .inl (Nav.GridMap.isFree_of_inflate (k := k) ?_)
    rw [← hmap]
    exact hfree

/-- Steering and replanning do not move the robot. -/
theorem steered_pose (dt x y w : F) (collided : Bool) (r : FakeRobot F) :
    (steered C dt x y collided w r).pose = r.pose := by
  obtain ⟨_, _, _, _, _, _, _, h⟩ := steered_frame C dt x y w collided r
  rw [h]
  rfl

/-- The robot plans on a drawing of the corridor, and to the same goal. -/
theorem Planned.replan (h : Planned G r) (hpath : r.navPath ≠ []) :
    Planned G (replan C r) ∧ (replan C r).navPath ≠ [] := by
  unfold FakeRobot.replan
  by_cases hstuck : 1.2 < r.stuckS
  · rw [if_pos hstuck]
    dsimp only
    generalize (if 3 ≤ r.stuckCount + 1 then (0 : Int) else 1) = k
    split
    · exact ⟨fun _ => ⟨(h hpath).1, k, rfl⟩, hpath⟩
    · rename_i hsome
      exact ⟨fun _ => ⟨(h hpath).1, k, rfl⟩, hsome⟩
  · rw [if_neg hstuck]
    exact ⟨h, hpath⟩

/-- A replan puts a planned path in place of the old one. -/
theorem Planned.steered (dt x y w : F) (collided : Bool) (h : Planned G r)
    (hpath : r.navPath ≠ []) :
    Planned G (steered C dt x y collided w r) ∧ (steered C dt x y collided w r).navPath ≠ [] := by
  let going : FakeRobot F := stuckTimer dt x y collided w
    { leaveCrumb r with taskStatus := .executing, navStatus := .tracking }
  have hgoing : Follows r going :=
    (leaveCrumb_follows r).trans (Follows.of_same rfl rfl rfl rfl)
  have hpath' : going.navPath ≠ [] := hgoing.navPath.symm ▸ hpath
  exact (h.follow hgoing).replan hpath'

/-- The tracking error does not move the robot. -/
theorem trackError_pose (r : FakeRobot F) : (trackError r).pose = r.pose := by
  rcases trackError_frame r with ⟨err, errMax, h⟩ | ⟨err, errMax, h⟩
  · rw [h]
    rfl
  · rw [h]
    exact pose_recompute _

/-- Arrival puts the robot on its goal. -/
theorem Placed.arrive (h : Placed G r) (hgoal : G (r.goalX, r.goalY)) : Placed G (arrive r) := by
  rcases arrive_frame r with harrive | ⟨-, trail, harrive, -⟩
  · rw [harrive]
    exact h
  · have hplaced : Placed G { r with poseX := r.goalX, poseY := r.goalY } :=
      .inr (.inr ⟨_, hgoal, .inl ⟨rfl, rfl⟩⟩)
    rw [harrive]
    exact hplaced.of_pose (pose_recompute _)

/-- One step along a planned path ends on a place that is allowed. -/
theorem Placed.follow {fuel : Nat} {dt : F} (h : Placed G r) (hplan : Planned G r)
    (hpath : r.navPath ≠ []) (hfollow : follow C fuel dt r = some s) : Placed G s := by
  obtain ⟨driven, collided, w, hdrive, rfl⟩ := follow_cases hfollow
  obtain ⟨hdriven, hsame⟩ := hplan.drive hdrive
  obtain ⟨hsteered, hpath'⟩ := hdriven.steered (C := C) dt r.poseX r.poseY w collided
    (hsame.symm ▸ hpath)
  have hpose := steered_pose (C := C) dt r.poseX r.poseY w collided driven
  generalize FakeRobot.steered C dt r.poseX r.poseY collided w driven = going at *
  have htracked : Planned G (trackError going) := hsteered.follow (trackError_follows going)
  have hgoal := (htracked ((trackError_follows going).navPath.symm ▸ hpath')).1
  -- Between the drive and the arrival the pose does not change.
  exact ((h.drive hplan hpath hdrive).of_pose ((trackError_pose going).trans hpose)).arrive hgoal

/-- The path that is left after the step is planned, or there is none. -/
theorem Planned.moved {fuel : Nat} {dt : F} (h : Planned G r) (hpath : r.navPath ≠ [])
    (hfollow : FakeRobot.follow C fuel dt r = some s) : Planned G s := by
  obtain ⟨driven, collided, w, hdrive, rfl⟩ := follow_cases hfollow
  obtain ⟨hdriven, hsame⟩ := h.drive hdrive
  obtain ⟨hsteered, -⟩ := hdriven.steered (C := C) dt r.poseX r.poseY w collided
    (hsame.symm ▸ hpath)
  exact hsteered.follow ((trackError_follows _).trans (arrive_follows _))

/-- The motion keeps both invariants. `Q` is a condition under which the pose is asked for. -/
theorem Placed.move {Q : Prop} {fuel : Nat} {dt : F} (h : Q → Placed G r) (hplan : Planned G r)
    (hmove : move C fuel dt r = some s) : (Q → Placed G s) ∧ Planned G s := by
  rcases move_cases hmove with ⟨-, moved, rfl, hmoved⟩ | ⟨-, rfl | rfl⟩
  · have hboth : (Q → Placed G moved) ∧ Planned G moved := by
      rcases hmoved with ⟨hpath, hfollow⟩ | ⟨-, rfl⟩
      · exact ⟨fun hq => (h hq).follow hplan hpath hfollow, hplan.moved hpath hfollow⟩
      · exact ⟨fun hq => (h hq).of_pose (pose_recompute _),
          hplan.follow (Follows.recomputed (Follows.of_still rfl Phase.noConfusion))⟩
    exact ⟨fun hq => (hboth.1 hq).of_pose rfl,
      hboth.2.follow (Follows.of_same rfl rfl rfl rfl)⟩
  · exact ⟨fun hq => (h hq).of_pose rfl, hplan.follow (Follows.of_same rfl rfl rfl rfl)⟩
  · exact ⟨h, hplan⟩

/-- A tick keeps both: the place and the plan. -/
theorem Placed.tick {Q : Prop} {now : Int} {nowMs : UInt64} {fuel : Nat} {out : List (Output F)}
    (h : Q → Placed G r) (hplan : Planned G r) (hinv : Inv r)
    (htick : tick C now nowMs fuel r = some (s, out)) : (Q → Placed G s) ∧ Planned G s := by
  rcases tick_cases htick with ⟨-, rfl, -⟩ | ⟨-, moved, hmoved, rfl, -⟩
  · exact ⟨h, hplan⟩
  · obtain ⟨hpoint, -, -, hpose⟩ := motionPoint_spec now nowMs r hinv.running
    obtain ⟨hcons, -⟩ := move_spec hpoint.1 hmoved
    have hhere := Placed.move (fun hq => (h hq).of_pose hpose)
      (hplan.follow (motionPoint_follows now nowMs r)) hmoved
    exact ⟨fun hq => (hhere.1 hq).of_pose (checkBattery_spec hcons).2.2,
      hhere.2.follow (checkBattery_follows moved)⟩

/-! ### The commands -/

/-- The result that accepts a command. -/
def AnswersAccepted (out : List (Output F)) : Prop :=
  ∃ res, Output.result res ∈ out ∧ res.ok = true ∧ res.status = .accepted

/-- A goto whose goal is allowed starts a planned path. -/
theorem Planned.startGoto {k : Int} {path : List (F × F)} {x y : F} {id : Bytes}
    (hgoal : G (x, y)) :
    Planned G (startGoto (Nav.GridMap.makeCorridorDemo.inflate k) path x y id r) := by
  generalize hmap : (Nav.GridMap.makeCorridorDemo : Nav.GridMap F).inflate k = map
  exact fun _ => ⟨hgoal, k, hmap.symm⟩

/-- A goto that starts was accepted, so its goal is one that was given. -/
theorem Planned.taskGoto {q : Request} {taskId : Bytes} (h : Planned G r)
    (hready : r.topicsReady = true)
    (hgiven : AnswersAccepted (taskGoto C q taskId r).2 → G (r.gotoGoal q.data)) :
    Planned G (taskGoto C q taskId r).1 := by
  revert hgiven
  refine taskGoto_cases
    (P := fun h => (AnswersAccepted h.2 → G (r.gotoGoal q.data)) → Planned G h.1)
    (fun _ _ => h) (fun _ _ _ => h)
    (fun id t hassign _ _ _ _ => h.follow (assignTaskId_follows hassign))
    (fun id t hassign _ _ _ _ _ => ?_) (fun id t hassign _ _ _ _ hgiven => ?_)
  · unfold lostGoto
    exact Planned.recomputed (Planned.of_nil rfl)
  · -- The goto starts, so its answer is there and accepts it.
    obtain ⟨n, rfl⟩ := assignTaskId_counter hassign
    have hresult : Output.result (.accepted q.seq q.cmd id) ∈ ((FakeRobot.startGoto
        (Nav.GridMap.makeCorridorDemo.inflate 1) (r.gotoPath C q.data) (r.gotoGoal q.data).1
        (r.gotoGoal q.data).2 id { r with taskSeq := n }).replyAndPublish q
        (.accepted q.seq q.cmd id)).2 := by
      refine List.mem_append_left _ ?_
      simp [publishCmdResult, FakeRobot.startGoto, hready]
    exact Planned.startGoto (hgiven ⟨_, hresult, rfl, rfl⟩)

/-- Every command keeps the plan, given that the goals it accepts are allowed. -/
theorem Planned.dispatch {q : Request} (h : Planned G r) (hready : r.topicsReady = true)
    (hgiven : q.cmd = ascii "CMD_TASK" → taskType? q = ascii "goto" →
      AnswersAccepted (dispatch C q r).2 → G (r.gotoGoal q.data)) :
    Planned G (dispatch C q r).1 := by
  revert hgiven
  refine dispatch_cases (P := fun x => (q.cmd = ascii "CMD_TASK" → taskType? q = ascii "goto" →
      AnswersAccepted x.2 → G (r.gotoGoal q.data)) → Planned G x.1) (fun _ _ => ?_)
    (fun _ _ => h.follow (cmdReset_follows q r)) (fun _ _ => h.follow (cmdMode_follows q r))
    (fun hcmd hgiven => ?_) (fun _ _ => ?_) (fun _ _ => ?_) (fun _ _ => h)
  · refine h.follow ?_
    unfold cmdEstop
    dsimp only
    split <;> exact Follows.of_still rfl Phase.noConfusion
  · -- A task command, of which only the goto plans anew.
    have hgoal := hgiven hcmd
    clear hgiven
    revert hgoal
    refine cmdTask_cases (P := fun x => (taskType? q = ascii "goto" → AnswersAccepted x.2 →
        G (r.gotoGoal q.data)) → Planned G x.1)
      (fun taskId _ _ => h.follow (taskPause_follows q taskId r)) (fun _ _ => ?_)
      (fun taskId htype _ hgoal => h.taskGoto hready (hgoal htype)) (fun taskId _ _ _ => ?_)
      (fun _ _ _ _ _ => h)
    · unfold taskCancel
      exact Planned.recomputed (Planned.of_nil rfl)
    · unfold taskResume
      split <;> exact h
  · exact h.follow (Follows.recomputed (Follows.of_same rfl rfl rfl rfl))
  · have hcleared : Follows r (clearedState r) := Follows.of_same rfl rfl rfl rfl
    rw [cmdClearFault_state]
    exact h.follow (hcleared.recomputed.trans (Follows.of_same rfl rfl rfl rfl))

/-- **What a callback keeps.** `Q` says that the robot was configured before. -/
theorem Placed.handle {Q : Prop} {e : Event} {out : List (Output F)} (h : Q → Placed G r)
    (hplan : Planned G r) (hinv : Inv r) (hstep : handle C r e = some (s, out))
    (hgiven : ∀ data, e.call = .cmd data → Entry.Takes (e, out) "goto" → G (r.gotoGoal data)) :
    (Q ∨ e.call = .configure → Placed G s) ∧ Planned G s := by
  -- No other callback is the configuration, so the robot was configured before.
  have hbefore : e.call ≠ .configure → Q ∨ e.call = .configure → Placed G r :=
    fun hconf hq => h (hq.resolve_right hconf)
  cases handle_cases hstep with
  | configure hc =>
      -- The configuration puts the robot at the origin, without a path.
      exact ⟨fun _ => .inr (.inl ⟨rfl, rfl⟩), Planned.of_nil rfl⟩
  | activate now hc => exact ⟨fun hq => (hbefore (by simp [hc]) hq).of_pose rfl, hplan⟩
  | deactivate hc | cleanup hc | shutdown hc =>
      exact ⟨fun hq => (hbefore (by simp [hc]) hq).of_pose rfl, hplan⟩
  | console data hc hready =>
      have hpose := (onConsole_spec e.nowMs data r).pose
      exact ⟨fun hq => (hbefore (by simp [hc]) hq).of_pose hpose,
        hplan.follow (onConsole_follows e.nowMs data r)⟩
  | noCmd data hc hready hq => exact ⟨hbefore (by simp [hc]), hplan⟩
  | cmd data q hc hready hq =>
      obtain ⟨hcmd, rfl, -⟩ := request?_eq hq
      -- A command does not move the robot; a goto that is accepted plans to its own goal.
      obtain ⟨t, res, ha⟩ := dispatch_answers C q r
      have hplan' := hplan.dispatch (C := C) (q := q) hready fun hname htype hacc =>
        hgiven _ hc ⟨⟨_, hc, hname ▸ hcmd, goto_of_taskType htype⟩, hacc⟩
      rw [ha.state] at hplan' ⊢
      exact ⟨fun hq => (hbefore (by simp [hc]) hq).of_pose ha.safe.pose, hplan'⟩
  | tick now fuel s out hc htick =>
      -- The only callback that moves it.
      exact Placed.tick (hbefore (by simp [hc])) hplan hinv htick

end FakeRobot

open FakeRobot

/-! ### Runs -/

/-- A goto to this point was accepted in the history. -/
def GoalAccepted (C : Type) [CFloat C] (h : Node.History F) (p : F × F) : Prop :=
  ∃ pre x m data, pre ++ [x] <+: h ∧ Node.Runs C pre m ∧ x.1.call = .cmd data ∧
    Entry.Takes x "goto" ∧ m.robot.gotoGoal data = p

/-- A goal that was accepted stays one in a longer run. -/
theorem GoalAccepted.snoc {h : Node.History F} {p : F × F} (hp : GoalAccepted C h p)
    (x : Event × List (Output F)) : GoalAccepted C (h ++ [x]) p := by
  obtain ⟨pre, y, m, data, hpre, hrest⟩ := hp
  exact ⟨pre, y, m, data, hpre.trans (List.prefix_append _ _), hrest⟩

/-- **The robot stays clear of the walls.** In every run, once it was configured, the robot is in a
free cell of the corridor map, or where the configuration puts it, or on the last half metre to a
goal that was accepted in this run, or at this goal. -/
theorem stays_clear {h : Node.History F} {n : Node F} (hrun : Node.Runs C h n)
    (hconf : ∃ x ∈ h, x.1.call = .configure) : Placed (GoalAccepted C h) n.robot := by
  have hall : ((∃ x ∈ h, x.1.call = .configure) → Placed (GoalAccepted C h) n.robot) ∧
      Planned (GoalAccepted C h) n.robot := by
    clear hconf
    induction hrun with
    | nil => exact ⟨fun ⟨x, hx, _⟩ => absurd hx List.not_mem_nil, Planned.of_nil rfl⟩
    | @snoc h n m e out hrun hallow hstep ih =>
        have hmono : ∀ p, GoalAccepted C h p → GoalAccepted C (h ++ [(e, out)]) p :=
          fun p hp => hp.snoc _
        have hnext := Placed.handle (fun hconf => (ih.1 hconf).mono hmono) (ih.2.mono hmono)
          (Node.Runs.inv hrun) (Node.step_handle hstep) fun data hcall htakes =>
            ⟨h, (e, out), n, data, List.prefix_refl _, hrun, hcall, htakes, rfl⟩
        refine ⟨fun ⟨x, hx, hconf⟩ => hnext.1 ?_, hnext.2⟩
        rcases List.mem_append.mp hx with hx | hx
        · exact .inl ⟨x, hx, hconf⟩
        · rw [List.mem_singleton.mp hx] at hconf
          exact .inr hconf
  exact hall.1 hconf

/-- The robot at the end of an accepted goto. -/
theorem stays_clear_driven : Placed (GoalAccepted Exact.Cost drivenHistory) drivenStep.1.robot :=
  stays_clear runs_driven ⟨_, List.mem_cons_self, rfl⟩

end BotCockpit.Sim
