import BotCockpit.Proofs.Sim.Motion

/-!
# `BotCockpit.Proofs.Sim.Resources`: what the robot uses up

The trail and the path are the two lists of a state message that a run could let grow. A run does
not let them grow: at most 801 breadcrumbs and 800 waypoints (`trail_bounded`). The one crumb above
the 800 that `leaveCrumb` allows is the one that `arrive` adds without a look at the length, and it
is at the goal, so it is not added twice.

The battery only goes down while the clock is steady, and stays between 0 and 100
(`battery_falls`). Rounding may be of any kind that is monotone and keeps signs.

`Restocks` is what the callbacks other than the tick and the configuration do with these fields.
-/

set_option autoImplicit false

namespace BotCockpit.Sim

open BotCockpit.Lib

variable {F : Type} [CDouble F] {C : Type} [CFloat C]

namespace Nav

/-- A path has at most one waypoint for each cell: the walk back visits no cell twice. -/
theorem length_astar (map : GridMap F) (sx sy gx gy : F) :
    (astar C map sx sy gx gy).length ≤ map.cells := by
  unfold astar
  dsimp only
  split
  · split
    · split
      · rename_i gIdx _ _
        split
        · exact Nat.zero_le _
        · rename_i came hsearch
          have hwalk := (searchLoop_walkBack (searchInv_start _ _) hsearch gIdx le_rfl).2
          split
          · exact Nat.zero_le _
          · rename_i hne
            -- The last waypoint is the goal as it was commanded.
            have hpos := List.length_pos_iff.mpr hne
            simp only [List.length_map, List.length_reverse, List.length_append,
              List.length_dropLast, List.length_cons, List.length_nil] at hpos ⊢
            exact (Nat.sub_add_cancel hpos).le.trans hwalk
      · exact Nat.zero_le _
    · exact Nat.zero_le _
  · exact Nat.zero_le _

/-- Inflation does not change the number of cells: 40 columns of 20 rows. -/
theorem GridMap.cells_inflate (k : Int) :
    ((GridMap.makeCorridorDemo : GridMap F).inflate k).cells = 800 := by
  obtain ⟨hwidth, hheight, -⟩ := (GridMap.makeCorridorDemo_drawn.inflate k (F := F)).shape
  unfold GridMap.cells
  rw [hwidth, hheight]
  rfl

end Nav

namespace FakeRobot

variable {r s t : FakeRobot F}

/-! ### The callbacks other than the tick -/

/-- The fields that only the motion, the configuration and a goto write, and the path. -/
def stores (r : FakeRobot F) : F × List (F × F) × List (F × F) × F × F :=
  (r.battery, r.navPath, r.trail, r.goalX, r.goalY)

/-- The recomputation leaves the battery, the trail and the path alone. -/
@[simp] theorem recompute_stores (r : FakeRobot F) :
    (recomputePhaseAndControl r).stores = r.stores := by
  obtain ⟨_, _, _, _, h⟩ := recompute_frame r
  rw [h]
  rfl

/-- What a callback other than the tick and the configuration does with these fields. -/
inductive Restocks (r s : FakeRobot F) : Prop
  | same (h : s.stores = r.stores)
  | drop (h : s.stores = { r with navPath := [] }.stores)
  | start (path : List (F × F)) (x y : F) (hpath : path.length ≤ 800)
      (h : s.stores = { r with navPath := path, trail := [(r.poseX, r.poseY)], goalX := x,
                               goalY := y }.stores)

/-- A safety stop leaves the three stores alone. -/
theorem applySafetyStop_stores (nowMs : UInt64) (r : FakeRobot F) :
    (applySafetyStop nowMs r).1.stores = r.stores := by
  let stopped : FakeRobot F := { r with
    taskStatus := r.taskStatus.failOngoing
    phase := if r.phase = .running then .idle else r.phase
    taskType := .none }
  have hstopped : (recomputePhaseAndControl stopped).stores = r.stores := recompute_stores stopped
  rw [← hstopped]
  show (if (recomputePhaseAndControl stopped).consoleOnline = true then
      recomputePhaseAndControl stopped
      else { recomputePhaseAndControl stopped with controlEnabled := false }).stores = _
  split <;> rfl

/-- Up to its motion point a tick leaves the three stores alone. -/
theorem motionPoint_stores (now : Int) (nowMs : UInt64) (r : FakeRobot F) :
    (motionPoint now nowMs r).1.stores = r.stores := by
  have hcheck : ∀ t : FakeRobot F, (checkHeartbeat nowMs t).1.stores = t.stores := by
    intro t
    unfold checkHeartbeat
    dsimp only
    split
    · split
      · exact applySafetyStop_stores nowMs _
      · rfl
    · rfl
  have hleave : ∀ t : FakeRobot F, (leaveInitializing now t).stores = t.stores := by
    intro t
    unfold leaveInitializing
    split <;> rfl
  unfold motionPoint
  rw [recompute_stores, hleave, hcheck]
  rfl

/-- A message of the console leaves the three stores alone. -/
theorem onConsole_stores (nowMs : UInt64) (data : Bytes) (r : FakeRobot F) :
    (onConsole nowMs data r).1.stores = r.stores := by
  have hsettle : ∀ t : FakeRobot F,
      (let s := recomputePhaseAndControl t
       if s.consoleOnline then s else { s with controlEnabled := false }).stores = t.stores := by
    intro t
    rw [← recompute_stores t]
    dsimp only
    split <;> rfl
  unfold onConsole
  dsimp only
  by_cases honline : (extractBool data "online").getD false = true
  · rw [if_pos honline]
    exact hsettle _
  · rw [if_neg honline]
    -- The console is gone, and a robot that runs is stopped first.
    split
    · exact (hsettle _).trans (applySafetyStop_stores nowMs _)
    · exact hsettle _

/-- A goto puts a new path, no longer than the map has cells, and an empty trail. -/
theorem taskGoto_restocks (q : Request) (taskId : Bytes) (r : FakeRobot F) :
    Restocks r (taskGoto C q taskId r).1 := by
  refine taskGoto_cases (P := fun h => Restocks r h.1) (fun _ => .same rfl) (fun _ _ => .same rfl)
    (fun id t hassign _ _ _ => ?_) (fun id t hassign _ _ _ _ => ?_)
    (fun id t hassign _ _ _ _ => ?_)
  · obtain ⟨n, rfl⟩ := assignTaskId_counter hassign
    exact .same rfl
  · -- There is no path, and none is kept.
    obtain ⟨n, rfl⟩ := assignTaskId_counter hassign
    refine .drop ?_
    unfold lostGoto
    exact recompute_stores _
  · -- The path is the one that `astar` found, at most one waypoint for each cell.
    obtain ⟨n, rfl⟩ := assignTaskId_counter hassign
    refine .start (r.gotoPath C q.data) _ _ ?_ rfl
    rw [← Nav.GridMap.cells_inflate (F := F) 1]
    exact Nav.length_astar _ _ _ _ _

/-- So does every command, or it leaves the stores alone. -/
theorem dispatch_restocks (q : Request) (r : FakeRobot F) : Restocks r (dispatch C q r).1 := by
  refine dispatch_cases (P := fun h => Restocks r h.1) (fun _ => ?_) (fun _ => ?_) (fun _ => ?_)
    -- Of the commands only a goto and a cancel touch the path and the trail.
    (fun _ => ?_) (fun _ => .same (recompute_stores _)) (fun _ => ?_) (fun _ => .same rfl)
  · unfold cmdEstop
    dsimp only
    split <;> exact .same rfl
  · by_cases hconfirm : extractBool q.data "confirm" = some true
    · cases hblock : r.hasBlocking with
      | true =>
          rw [cmdReset_blocked hconfirm hblock]
          exact .same rfl
      | false =>
          rw [cmdReset_accepted hconfirm hblock]
          exact .same rfl
    · rw [cmdReset_unconfirmed r hconfirm]
      exact .same rfl
  · rw [cmdMode_state]
    split
    · exact .same rfl
    · split <;> exact .same rfl
  · refine cmdTask_cases (P := fun h => Restocks r h.1) (fun taskId _ => ?_) (fun _ => ?_)
      (fun taskId _ _ => taskGoto_restocks q taskId r) (fun taskId _ _ => ?_)
      (fun _ _ _ _ => .same rfl)
    · unfold taskPause
      split
      · exact .same (recompute_stores _)
      · exact .same rfl
    · exact .drop (recompute_stores _)
    · unfold taskResume
      split <;> exact .same rfl
  · have hcleared : (recomputePhaseAndControl (clearedState r)).stores = r.stores :=
      recompute_stores _
    rw [cmdClearFault_state]
    exact .same hcleared

/-- So does every callback but the configuration and the tick. -/
theorem handle_restocks {e : Event} {out : List (Output F)} (hconf : e.call ≠ .configure)
    (htick : ∀ now fuel, e.call ≠ .tick now fuel) (hstep : handle C r e = some (s, out)) :
    Restocks r s := by
  cases handle_cases hstep with
  | configure hc => exact absurd hc hconf
  | tick now fuel s out hc _ => exact absurd hc (htick now fuel)
  | activate now hc => exact .same rfl
  | deactivate hc | cleanup hc | shutdown hc => exact .same rfl
  | console data hc hready => exact .same (onConsole_stores e.nowMs data r)
  | noCmd data hc hready hq => exact .same rfl
  | cmd data q hc hready hq => exact dispatch_restocks q r

/-! ### The trail and the path -/

/-- The lists are short. A trail of 801 points ends at the goal. -/
structure Short (r : FakeRobot F) : Prop where
  trail : r.trail.length ≤ 800 ∨ r.trail.length = 801 ∧ r.trail.getLast? = some (r.goalX, r.goalY)
  path : r.navPath.length ≤ 800

/-- The battery does not matter here. -/
theorem Short.of_stores (h : Short r) (hs : s.stores.2 = r.stores.2) : Short s := by
  obtain ⟨hpath, hs⟩ := Prod.mk.inj hs
  obtain ⟨htrail, hs⟩ := Prod.mk.inj hs
  obtain ⟨hx, hy⟩ := Prod.mk.inj hs
  constructor
  · rw [htrail, hx, hy]
    exact h.trail
  · rw [hpath]
    exact h.path

/-- A restocked state is short again. -/
theorem Short.restock (h : Short r) (hs : Restocks r s) : Short s := by
  cases hs with
  | same hs => exact h.of_stores (congrArg Prod.snd hs)
  | drop hs =>
      have hdropped : Short { r with navPath := [] } := ⟨h.trail, Nat.zero_le _⟩
      exact hdropped.of_stores (congrArg Prod.snd hs)
  | start path x y hpath hs =>
      have hstarted : Short { r with navPath := path, trail := [(r.poseX, r.poseY)], goalX := x,
                                     goalY := y } := ⟨.inl (by simp), hpath⟩
      exact hstarted.of_stores (congrArg Prod.snd hs)

/-- The motion adds one point to the trail, and drops the oldest when there are too many. -/
theorem Short.drive {fuel : Nat} {dt w : F} {collided : Bool} (h : Short r)
    (hdrive : drive fuel dt r = some (s, collided, w)) : Short s := by
  obtain ⟨_, _, _, rfl, -⟩ := drive_frame hdrive
  exact h.of_stores rfl

/-- A new crumb drops the 200 oldest ones when there are more than 800. -/
theorem Short.leaveCrumb (h : Short r) : Short (leaveCrumb r) := by
  unfold FakeRobot.leaveCrumb
  split
  · refine ⟨.inl ?_, h.path⟩
    have hlen : r.trail.length ≤ 801 := by
      rcases h.trail with hlen | ⟨hlen, -⟩ <;> omega
    dsimp only
    split
    · simp only [List.length_drop, List.length_append, List.length_cons, List.length_nil]
      omega
    · rename_i hle
      exact Nat.not_lt.mp hle
  · exact h

/-- A new path has no more points than the map has cells. -/
theorem Short.replan (h : Short r) : Short (replan C r) := by
  unfold FakeRobot.replan
  by_cases hstuck : 1.2 < r.stuckS
  · rw [if_pos hstuck]
    dsimp only
    generalize (if 3 ≤ r.stuckCount + 1 then (0 : Int) else 1) = k
    split
    · exact h.of_stores rfl
    · refine ⟨h.trail, ?_⟩
      rw [← Nav.GridMap.cells_inflate (F := F) k]
      exact Nav.length_astar _ _ _ _ _
  · rw [if_neg hstuck]
    exact h

/-- The tracking error leaves the three stores alone. -/
theorem trackError_stores (r : FakeRobot F) : (trackError r).stores = r.stores := by
  rcases trackError_frame r with ⟨err, errMax, h⟩ | ⟨err, errMax, h⟩
  · rw [h]
    rfl
  · rw [h]
    exact recompute_stores _

/-- A crumb at the goal is not put there twice. -/
theorem Short.arrive (hself : ∀ x y : F, ¬(0.02 : F) < dist x y x y) (h : Short r) :
    Short (arrive r) := by
  rcases arrive_frame r with harrive | ⟨-, trail, harrive, htrail⟩
  · rw [harrive]
    exact h
  · have hshort : Short { r with trail := trail } := by
      rcases htrail with rfl | ⟨rfl, hstale⟩
      · exact h.of_stores rfl
      · rcases h.trail with hlen | ⟨-, hlast⟩
        · refine ⟨?_, h.path⟩
          simp only [List.length_append, List.length_cons, List.length_nil, List.getLast?_concat]
          rcases Nat.lt_or_eq_of_le hlen with hlt | heq
          · exact .inl hlt
          · exact .inr ⟨by rw [heq], trivial⟩
        · have hstale' : (0.02 : F) < dist r.goalX r.goalY r.goalX r.goalY := by
            unfold trailStale at hstale
            simpa only [hlast] using hstale
          exact absurd hstale' (hself _ _)
    rw [harrive]
    exact hshort.of_stores (congrArg Prod.snd (recompute_stores _))

/-- The battery's own block leaves the trail and the path alone. -/
theorem checkBattery_stores (r : FakeRobot F) : (checkBattery r).stores.2 = r.stores.2 := by
  obtain ⟨b, -, h | ⟨-, h⟩⟩ := checkBattery_frame r
  · rw [h]
    rfl
  · rw [h, recompute_stores]
    rfl

/-- Following the path keeps the stores short. -/
theorem Short.follow (hself : ∀ x y : F, ¬(0.02 : F) < dist x y x y) {fuel : Nat} {dt : F}
    (h : Short r) (hfollow : follow C fuel dt r = some s) : Short s := by
  obtain ⟨driven, collided, w, hdrive, rfl⟩ := follow_cases hfollow
  have hcrumb := (h.drive hdrive).leaveCrumb
  have hgoing : Short (stuckTimer dt r.poseX r.poseY collided w
      { FakeRobot.leaveCrumb driven with taskStatus := .executing, navStatus := .tracking }) :=
    hcrumb.of_stores rfl
  have htracked := hgoing.replan (C := C).of_stores (congrArg Prod.snd (trackError_stores _))
  exact htracked.arrive hself

/-- So does the motion as a whole. -/
theorem Short.move (hself : ∀ x y : F, ¬(0.02 : F) < dist x y x y) {fuel : Nat} {dt : F}
    (h : Short r) (hmove : move C fuel dt r = some s) : Short s := by
  rcases move_cases hmove with ⟨-, moved, rfl, hmoved⟩ | ⟨-, rfl | rfl⟩
  · have hshort : Short moved := by
      rcases hmoved with ⟨-, hfollow⟩ | ⟨-, rfl⟩
      · exact h.follow hself hfollow
      · exact h.of_stores (congrArg Prod.snd (recompute_stores _))
    exact hshort.of_stores rfl
  · exact h.of_stores rfl
  · exact h

/-- So does a tick. -/
theorem Short.tick (hself : ∀ x y : F, ¬(0.02 : F) < dist x y x y) {now : Int} {nowMs : UInt64}
    {fuel : Nat} {out : List (Output F)} (h : Short r)
    (htick : tick C now nowMs fuel r = some (s, out)) : Short s := by
  rcases tick_cases htick with ⟨-, rfl, -⟩ | ⟨-, moved, hmoved, rfl, -⟩
  · exact h
  · have hhere := h.of_stores (congrArg Prod.snd (motionPoint_stores now nowMs r))
    exact (hhere.move hself hmoved).of_stores (checkBattery_stores moved)

/-- So does every callback. -/
theorem Short.handle (hself : ∀ x y : F, ¬(0.02 : F) < dist x y x y) {e : Event}
    {out : List (Output F)} (h : Short r) (hstep : handle C r e = some (s, out)) : Short s := by
  cases hc : e.call with
  | configure =>
      simp only [FakeRobot.handle, hc, Option.some.injEq] at hstep
      obtain ⟨rfl, -⟩ := Prod.mk.inj hstep
      exact ⟨.inl (Nat.zero_le _), Nat.zero_le _⟩
  | tick now fuel =>
      simp only [FakeRobot.handle, hc] at hstep
      exact h.tick hself hstep
  | _ => exact h.restock (handle_restocks (by rw [hc]; simp) (fun _ _ => by rw [hc]; simp) hstep)

/-! ### The battery -/

/-- States with the same stores have the same battery. -/
theorem battery_of_stores (h : s.stores = r.stores) : s.battery = r.battery :=
  congrArg Prod.fst h

/-- A callback that restocks leaves the battery alone. -/
theorem Restocks.battery (h : Restocks r s) : s.battery = r.battery := by
  cases h with
  | same h => exact battery_of_stores h
  | drop h => exact congrArg Prod.fst h
  | start path x y hpath h => exact congrArg Prod.fst h

/-- The motion itself takes nothing from the battery. -/
theorem follow_battery {fuel : Nat} {dt : F} (h : follow C fuel dt r = some s) :
    s.battery = r.battery := by
  obtain ⟨driven, collided, w, hdrive, rfl⟩ := follow_cases h
  have htracked := tracked_still (C := C) dt r.poseX r.poseY w collided driven
  generalize trackError (steered C dt r.poseX r.poseY collided w driven) = going at htracked ⊢
  have hgoing : going.battery = driven.battery := congrArg (fun t => t.2.2) htracked
  obtain ⟨x, y, yaw, rfl, -⟩ := drive_frame hdrive
  rw [← hgoing]
  rcases arrive_frame going with h | ⟨-, trail, h, -⟩
  · rw [h]
  · rw [h, battery_of_stores (recompute_stores _)]

variable [LawfulDouble F]

/-- The time between two ticks is not negative on a steady clock. -/
theorem tickDt_nonneg {now : Int} (h : r.lastTickTp ≤ now) : ¬tickDt now r < 0.0 := by
  unfold tickDt
  split
  · exact LawfulDouble.seconds_nonneg _ (Int.sub_nonneg.mpr h)
  · exact LawfulDouble.literal_nonneg _ _ _

/-- The motion charges no battery above what it was. -/
theorem move_battery {fuel : Nat} {dt c : F} (hdt : ¬dt < 0.0) (hc : ¬c < r.battery)
    (hmove : move C fuel dt r = some s) : ¬c < s.battery := by
  have hrate (mant exp : Nat) :
      ¬c < r.battery - OfScientific.ofScientific mant true exp * dt :=
    LawfulDouble.sub_le _ _ _
      (LawfulDouble.mul_nonneg _ _ (LawfulDouble.literal_nonneg _ _ _) hdt) hc
  rcases move_cases hmove with ⟨-, moved, rfl, hmoved⟩ | ⟨-, rfl | rfl⟩
  · have hsame : moved.battery = r.battery := by
      rcases hmoved with ⟨-, hfollow⟩ | ⟨-, rfl⟩
      · exact follow_battery hfollow
      · exact battery_of_stores (recompute_stores _)
    show ¬c < moved.battery - 0.05 * dt
    rw [hsame]
    exact hrate _ _
  · exact hrate _ _
  · exact hc

/-- The check leaves a battery that is not negative, and charges none above what it was. -/
theorem checkBattery_battery {c : F} (hzero : ¬c < 0.0) (hc : ¬c < r.battery) :
    ¬(checkBattery r).battery < 0.0 ∧ ¬c < (checkBattery r).battery := by
  obtain ⟨b, hb, hcheck⟩ := checkBattery_frame r
  have hbattery : (checkBattery r).battery = b := by
    rcases hcheck with h | ⟨-, h⟩
    · rw [h]
    · rw [h, battery_of_stores (recompute_stores _)]
  rw [hbattery, hb]
  split
  · exact ⟨LawfulDouble.lt_irrefl _, hzero⟩
  · rename_i hge
    exact ⟨hge, hc⟩

/-- A tick does not bring the battery below zero and does not charge it. -/
theorem tick_battery {now : Int} {nowMs : UInt64} {fuel : Nat} {out : List (Output F)} {c : F}
    (hclock : r.lastTickTp ≤ now) (hpos : ¬r.battery < 0.0) (hzero : ¬c < 0.0)
    (hc : ¬c < r.battery) (htick : tick C now nowMs fuel r = some (s, out)) :
    ¬s.battery < 0.0 ∧ ¬c < s.battery := by
  rcases tick_cases htick with ⟨-, rfl, -⟩ | ⟨-, moved, hmoved, rfl, -⟩
  · exact ⟨hpos, hc⟩
  · rw [← battery_of_stores (motionPoint_stores now nowMs r)] at hc
    exact checkBattery_battery hzero (move_battery (tickDt_nonneg hclock) hc hmoved)

end FakeRobot

open FakeRobot

/-! ### Runs -/

/-- **The lists of the robot are bounded**, in every run. A point is not 0.02 away from itself. -/
theorem trail_bounded (hself : ∀ x y : F, ¬(0.02 : F) < dist x y x y) {h : Node.History F}
    {n : Node F} (hrun : Node.Runs C h n) :
    n.robot.trail.length ≤ 801 ∧ n.robot.navPath.length ≤ 800 := by
  have hshort : Short n.robot := by
    refine hrun.invariant (P := fun n : Node F => Short n.robot)
      ⟨.inl (Nat.zero_le _), Nat.zero_le _⟩ ?_
    exact fun _ _ _ _ hshort _ hstep => hshort.handle hself (Node.step_handle hstep)
  refine ⟨?_, hshort.path⟩
  rcases hshort.trail with hlen | ⟨hlen, -⟩ <;> omega

/-- The bounds in a state whose robot has moved along its path. -/
theorem trail_bounded_moving :
    movingNode.robot.trail.length ≤ 801 ∧ movingNode.robot.navPath.length ≤ 800 := by
  refine trail_bounded (fun x y => ?_) runs_moving
  have hzero : dist x y x y = 0 := by
    show Exact.sqrt ((x - x) * (x - x) + (y - y) * (y - y)) = 0
    rw [sub_self, sub_self, mul_zero, add_zero]
    decide +kernel
  rw [hzero]
  decide +kernel

/-- The steady clock does not go back: a tick does not come before the last one. -/
def SteadyClock (n : Node F) (e : Event) : Prop :=
  match e.call with
  | .tick now _ => n.robot.lastTickTp ≤ now
  | _ => True

instance (n : Node F) (e : Event) : Decidable (SteadyClock n e) :=
  match e with
  | ⟨_, .tick now _⟩ => inferInstanceAs (Decidable (n.robot.lastTickTp ≤ now))
  | ⟨_, .configure⟩ | ⟨_, .activate _⟩ | ⟨_, .deactivate⟩ | ⟨_, .cleanup⟩ | ⟨_, .shutdown⟩
  | ⟨_, .console _⟩ | ⟨_, .cmd _⟩ => inferInstanceAs (Decidable True)

section Battery

variable [LawfulDouble F] {h h' : Node.History F} {n m : Node F} {c : F}

/-- No callback but the configuration charges the battery, or brings it below zero. -/
theorem step_battery {e : Event} {out : List (Output F)} (hclock : SteadyClock n e)
    (hconf : e.call ≠ .configure) (hpos : ¬n.robot.battery < 0.0) (hzero : ¬c < 0.0)
    (hc : ¬c < n.robot.battery) (hstep : n.step C e = some (m, out)) :
    ¬m.robot.battery < 0.0 ∧ ¬c < m.robot.battery := by
  have hhandle := Node.step_handle hstep
  unfold SteadyClock at hclock
  cases hcall : e.call with
  | tick now fuel =>
      simp only [hcall] at hclock
      simp only [handle, hcall] at hhandle
      exact tick_battery hclock hpos hzero hc hhandle
  | _ =>
      have hsame := handle_restocks hconf (fun _ _ => by rw [hcall]; simp) hhandle
      rw [hsame.battery]
      exact ⟨hpos, hc⟩

/-- The battery is between empty and full, in every run on a steady clock. -/
theorem battery_range (hrun : Run (Node.step C) SteadyClock Node.init h n) :
    ¬n.robot.battery < 0.0 ∧ ¬(100.0 : F) < n.robot.battery := by
  have hfull : ¬(100.0 : F) < 0.0 ∧ ¬(100.0 : F) < 100.0 :=
    ⟨LawfulDouble.literal_nonneg _ _ _, LawfulDouble.lt_irrefl _⟩
  induction hrun with
  | nil => exact hfull
  | @snoc h n m e out _ hclock hstep ih =>
      by_cases hconf : e.call = .configure
      · -- The configuration puts a full battery in.
        have hhandle := Node.step_handle hstep
        simp only [handle, hconf, Option.some.injEq] at hhandle
        obtain ⟨hm, -⟩ := Prod.mk.inj hhandle
        rw [← hm]
        exact hfull
      · exact step_battery hclock hconf ih.1 hfull.1 ih.2 hstep

/-- **The battery only goes down.** On a steady clock, from every reachable state on and until the
next configuration, the battery never rises, and it stays between 0 and 100. -/
theorem battery_falls (hrun : Run (Node.step C) SteadyClock Node.init h n)
    (hrun' : Run (Node.step C) SteadyClock n h' m) (hconf : ∀ x ∈ h', x.1.call ≠ .configure) :
    ¬n.robot.battery < m.robot.battery ∧ ¬m.robot.battery < 0.0 ∧
      ¬(100.0 : F) < m.robot.battery := by
  have hstart := (battery_range hrun).1
  have hfalls : ¬m.robot.battery < 0.0 ∧ ¬n.robot.battery < m.robot.battery := by
    induction hrun' with
    | nil => exact ⟨hstart, LawfulDouble.lt_irrefl _⟩
    | snoc _ hclock hstep ih =>
        obtain ⟨hpos, hle⟩ := ih fun x hx => hconf x (List.mem_append_left _ hx)
        have hlast := hconf _ (List.mem_append_right _ (List.mem_singleton_self _))
        exact step_battery hclock hlast hpos hstart hle hstep
  exact ⟨hfalls.2, battery_range (hrun.trans hrun')⟩

end Battery

/-- The drive to the goal takes some of the battery. -/
theorem battery_falls_driving :
    drivenStep.1.robot.battery < movingNode.robot.battery ∧
      ¬movingNode.robot.battery < drivenStep.1.robot.battery ∧
      ¬drivenStep.1.robot.battery < 0.0 ∧ ¬(100.0 : ℚ) < drivenStep.1.robot.battery := by
  have hready : Run (Node.step (F := ℚ) Exact.Cost) SteadyClock Node.init readyHistory
      readyNode := runs_ready.guard fun pre x u hx hpre =>
    Run.of_checkAll (P := fun _ => SteadyClock) (by decide +kernel) hx hpre
  have hmoving : Run (Node.step (F := ℚ) Exact.Cost) SteadyClock Node.init movingHistory
      movingNode := Run.snoc hready (by decide +kernel) step_moving
  have hdriven : Run (Node.step (F := ℚ) Exact.Cost) SteadyClock movingNode
      [(drivingEvent, drivenStep.2)] drivenStep.1 :=
    Run.snoc Run.nil (by decide +kernel) (Option.some_get step_driving).symm
  refine ⟨by decide +kernel, battery_falls hmoving hdriven fun x hx => ?_⟩
  rw [List.mem_singleton.mp hx]
  exact Call.noConfusion

end BotCockpit.Sim
