import BotCockpit.Proofs.Sim.TaskIds

/-!
# `BotCockpit.Proofs.Sim.Goals`: which goals the robot takes

`handle_goto` lists what a goto can come to. The planner finds a path between any two points of
the map (`Nav.plan_path`), so an admitted goto is taken whenever pose and goal lie in the map: also
when the goal lies in a wall. The search ends at a free cell nearby and `astar` then puts the
commanded point in place of it (`wall_goal`).
-/

set_option autoImplicit false

namespace BotCockpit.Sim

open BotCockpit.Lib

variable {F : Type} [CDouble F] {C : Type} [CFloat C]

namespace FakeRobot

/-! ### Which gotos are accepted -/

/-- A callback with one answer accepts exactly when that answer says so. -/
theorem accepted_iff {e : Event} {out : List (Output F)} {res : CmdResult}
    (h : out.filterMap Output.result? = [res]) :
    Entry.Accepted (e, out) ↔ res.ok = true ∧ res.status = .accepted := by
  have hmem : ∀ res', Output.result res' ∈ out ↔ res' = res := by
    intro res'
    rw [← List.mem_singleton, ← h, List.mem_filterMap]
    refine ⟨fun ho => ⟨_, ho, rfl⟩, ?_⟩
    rintro ⟨o, ho, hres⟩
    cases o with
    | state t u => cases hres
    | result res'' =>
        obtain rfl := Option.some.inj hres
        exact ho
  constructor
  · rintro ⟨res', ho, hok, hstatus⟩
    obtain rfl := (hmem res').mp ho
    exact ⟨hok, hstatus⟩
  · rintro ⟨hok, hstatus⟩
    exact ⟨res, (hmem res).mpr rfl, hok, hstatus⟩

/-- A goto is accepted when it is admitted, new and has a path, and then its goal is the robot's. -/
theorem goto_accepted_iff {r s : FakeRobot F} {e : Event} {data : Bytes} {out : List (Output F)}
    (hcall : e.call = .cmd data) (hcmd : extractString data "cmd" = some (ascii "CMD_TASK"))
    (htype : extractString data "type" = some (ascii "goto"))
    (hstep : handle C r e = some (s, out)) :
    Entry.Accepted (e, out) ↔ r.AdmitsGoto data ∧ ¬r.RepeatsDone data ∧ r.gotoPath C data ≠ [] := by
  obtain ⟨res, hres, hiff⟩ :=
    handle_goto (P := fun _ res => (res.ok = true ∧ res.status = .accepted) ↔
      r.AdmitsGoto data ∧ ¬r.RepeatsDone data ∧ r.gotoPath C data ≠ []) hcall hcmd htype hstep
    (fun id hblocked => iff_of_false (fun h => Bool.false_ne_true h.1) fun h => h.1.free hblocked)
    (fun id hrun => iff_of_false (fun h => Bool.false_ne_true h.1) fun h => h.1.still hrun)
    (fun id _ _ hout => iff_of_false (fun h => Bool.false_ne_true h.1) fun h => h.1.inside hout)
    (fun k _ hdone => iff_of_false (fun h => by cases h.2) fun h => h.2.1 hdone)
    (fun k _ _ hpath => iff_of_false (fun h => Bool.false_ne_true h.1) fun h => h.2.2 hpath)
    (fun k hadmits hnew hpath => iff_of_true ⟨rfl, rfl⟩ ⟨hadmits, hnew, hpath⟩)
  exact (accepted_iff hres).trans hiff

/-- The planner finds a path when the robot and the goal are in the map. -/
theorem gotoPath_ne_nil (hfin : Nav.FiniteSteps C) (data : Bytes) (r : FakeRobot F) :
    r.gotoPath C data ≠ [] ↔
      cellOn (r.poseX, r.poseY) ≠ none ∧ cellOn (r.gotoGoal data) ≠ none := by
  rw [gotoPath, Nav.plan_path hfin, cellOn_plan (r.gotoGoal data), cellOn_plan (r.poseX, r.poseY)]

/-! ### Goals in a wall -/

/-- **When a goal in a wall is refused.** A goto to a point in a wall of the corridor map is not
accepted exactly when the robot does not get as far as the planning, or stands outside the map. -/
theorem wall_goal (hfin : Nav.FiniteSteps C) {r s : FakeRobot F} {e : Event} {data : Bytes}
    {out : List (Output F)} (hcall : e.call = .cmd data)
    (hcmd : extractString data "cmd" = some (ascii "CMD_TASK"))
    (htype : extractString data "type" = some (ascii "goto"))
    (hstep : handle C r e = some (s, out)) :
    (r.GoalInWall data → ¬Entry.Accepted (e, out)) ↔
      ¬r.GoalInWall data ∨ ¬r.AdmitsGoto data ∨ r.RepeatsDone data ∨
        cellOn (r.poseX, r.poseY) = none := by
  rw [goto_accepted_iff hcall hcmd htype hstep, gotoPath_ne_nil hfin]
  by_cases hwall : r.GoalInWall data
  · have hgoal : cellOn (r.gotoGoal data) ≠ none := by
      obtain ⟨c, hc, -⟩ := hwall
      rw [hc]
      exact Option.some_ne_none c
    simp only [hwall, hgoal, ne_eq, not_false_eq_true, true_implies, and_true, not_true_eq_false,
      false_or, not_and, not_not]
    tauto
  · exact iff_of_true (fun h => absurd h hwall) (Or.inl hwall)

end FakeRobot

open FakeRobot

/-! ### A goal that is taken in a wall -/

/-- Exact costs have only finite steps. -/
theorem finiteSteps_exact : Nav.FiniteSteps Exact.Cost := by
  refine ⟨WithTop.coe_lt_top 0, fun d a ha => ?_⟩
  lift a to ℕ using ha.ne
  rw [Nav.stepCost_exact]
  exact WithTop.coe_lt_top _

/-- A goto to a point in the border. -/
def wallData : Bytes :=
  ascii ("\x7b\"seq\":7,\"cmd\":\"CMD_TASK\",\"type\":\"goto\"," ++
    "\"task_id\":\"W\",\"x\":0.1,\"y\":0\x7d")

/-- The goto into the wall is handled. -/
theorem exists_wallStep :
    ∃ m out, Node.step Exact.Cost readyNode ⟨5, .cmd wallData⟩ = some (m, out) :=
  ⟨_, _, step_cmd (by decide +kernel) 5 wallData⟩

/-- The goto to a point in the border of the map. -/
theorem wall_goal_border :
    ∃ (m : Node ℚ) (out : List (Output ℚ)),
      Node.step Exact.Cost readyNode ⟨5, .cmd wallData⟩ = some (m, out) ∧
      ((readyNode.robot.GoalInWall wallData → ¬Entry.Accepted (⟨5, .cmd wallData⟩, out)) ↔
        ¬readyNode.robot.GoalInWall wallData ∨ ¬readyNode.robot.AdmitsGoto wallData ∨
          readyNode.robot.RepeatsDone wallData ∨
            cellOn (readyNode.robot.poseX, readyNode.robot.poseY) = none) := by
  obtain ⟨m, out, hstep⟩ := exists_wallStep
  exact ⟨m, out, hstep, wall_goal finiteSteps_exact rfl (by decide +kernel) (by decide +kernel)
    (Node.step_handle hstep)⟩

/-- Its goal lies in the wall. -/
theorem goal_in_wall : readyNode.robot.GoalInWall wallData := by
  refine ⟨(0, 10), by rw [cellOn_grid]; decide +kernel, ?_⟩
  rw [Nav.GridMap.makeCorridorDemo_cellAt (Nav.inside_makeCorridorDemo.mpr (by decide))]
  decide

/-- A reachable robot accepts a goto into a wall. -/
theorem wall_goal_accepted :
    ∃ (h : Node.History ℚ) (n m : Node ℚ) (e : Event) (out : List (Output ℚ)) (data : Bytes),
      Node.Runs Exact.Cost h n ∧ Node.step Exact.Cost n e = some (m, out) ∧
      e.call = .cmd data ∧ Entry.AsksTask ((e, out) : Entry ℚ) "goto" ∧
      n.robot.GoalInWall data ∧ Entry.Accepted (e, out) := by
  obtain ⟨m, out, hstep⟩ := exists_wallStep
  have hcmd : extractString wallData "cmd" = some (ascii "CMD_TASK") := by decide +kernel
  have htype : extractString wallData "type" = some (ascii "goto") := by decide +kernel
  refine ⟨_, _, m, _, out, wallData, runs_ready, hstep, rfl, ⟨wallData, rfl, hcmd, htype⟩,
    goal_in_wall, ?_⟩
  refine (goto_accepted_iff rfl hcmd htype (Node.step_handle hstep)).mpr
    ⟨by decide +kernel, by decide +kernel, ?_⟩
  rw [gotoPath_ne_nil finiteSteps_exact, cellOn_grid, cellOn_grid]
  exact ⟨by decide +kernel, by decide +kernel⟩

end BotCockpit.Sim
