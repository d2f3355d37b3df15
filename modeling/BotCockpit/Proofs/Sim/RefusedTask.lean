import BotCockpit.Proofs.Sim.Goto

/-!
# `BotCockpit.Proofs.Sim.RefusedTask`: what a refused command does to the task

A command that is answered with `ok:false` leaves the task, its goal and its path alone. The one
exception is a goto that the planner finds no path for: `on_cmd` has already overwritten the path
with the empty one (`lostGoto`) when it refuses. So the task survives a refusal exactly when the
command is no such goto, or there was no path to lose (`refused_keeps_task`). A task that was paused
before such a goto cannot be resumed any more (`paused_task_lost`).
-/

set_option autoImplicit false

namespace BotCockpit.Sim

open BotCockpit.Lib

variable {F : Type} [CDouble F] {C : Type} [CFloat C]

namespace FakeRobot

/-- A state has its own task. -/
theorem SameTask.refl (r : FakeRobot F) : SameTask r r := ⟨rfl, rfl, ⟨rfl, rfl⟩, rfl, rfl⟩

/-- The one result of a reply. -/
theorem result_of_reply {r : FakeRobot F} {res res' : CmdResult}
    (h : Output.result res' ∈ (r.reply res).2) : res' = res := by
  have h : Output.result res' ∈ r.publishCmdResult res := h
  unfold publishCmdResult at h
  split at h
  · exact Output.result.inj (List.mem_singleton.mp h)
  · cases h

/-- The answer of a handler is the only one it gives. -/
theorem result_of_replyAndPublish {q : Request} {r : FakeRobot F} {res res' : CmdResult}
    (h : Output.result res' ∈ (r.replyAndPublish q res).2) : res' = res := by
  have h : Output.result res' ∈ r.publishCmdResult res ++ r.publishState q.nowMs := h
  rcases List.mem_append.mp h with h | h
  · exact result_of_reply (r := r) h
  · exact absurd h result_not_mem_publishState

/-- The task is the same after every refusal. -/
def RefusesWhole (r : FakeRobot F) (h : Handled F) : Prop :=
  ∀ res, Output.result res ∈ h.2 → res.ok = false → SameTask r h.1

/-- An answer with `ok:true` is no refusal. -/
theorem RefusesWhole.of_ok {q : Request} {r s : FakeRobot F} {res : CmdResult}
    (hok : res.ok = true) : RefusesWhole r (s.replyAndPublish q res) := by
  intro res' hres hno
  rw [result_of_replyAndPublish hres, hok] at hno
  cases hno

/-- A handler that does nothing refuses nothing by halves. -/
theorem RefusesWhole.unchanged {r : FakeRobot F} {out : List (Output F)} :
    RefusesWhole r (r, out) :=
  fun _ _ _ => SameTask.refl r

/-- A goto is refused without a loss, unless it has no path. -/
theorem taskGoto_refuses {q : Request} {taskId : Bytes} {r : FakeRobot F}
    (hcmd : extractString q.data "cmd" = some (ascii "CMD_TASK"))
    (htype : extractString q.data "type" = some (ascii "goto")) (hfree : ¬r.blocked)
    (hpath : ¬(r.AdmitsGoto q.data ∧ r.gotoPath C q.data = [])) :
    RefusesWhole r (taskGoto C q taskId r) := by
  refine taskGoto_cases (P := RefusesWhole r) (fun _ => RefusesWhole.unchanged)
    (fun _ _ => RefusesWhole.unchanged) (fun id t _ _ _ _ => ?_)
    (fun id t _ hstill hin _ hnone => ?_) (fun id t _ _ _ _ _ => RefusesWhole.of_ok rfl)
  · intro res hres hno
    rw [result_of_reply hres] at hno
    cases hno
  · exact absurd ⟨⟨hcmd, htype, hfree, hstill, hin⟩, hnone⟩ hpath

/-- A task command of this type, in terms of the message. -/
theorem extractString_of_taskType? {q : Request} {type : String} (hne : ascii type ≠ [])
    (h : taskType? q = ascii type) : extractString q.data "type" = some (ascii type) := by
  unfold taskType? at h
  cases hs : extractString q.data "type" with
  | none =>
      rw [hs] at h
      exact absurd h.symm hne
  | some s =>
      rw [hs] at h
      exact congrArg some h

/-- Every command is refused as a whole, except for the goto without a path. -/
theorem dispatch_refuses {q : Request} {r : FakeRobot F}
    (hq : extractString q.data "cmd" = some q.cmd)
    (hpath : ¬(r.AdmitsGoto q.data ∧ r.gotoPath C q.data = [])) :
    RefusesWhole r (dispatch C q r) := by
  refine dispatch_cases (P := RefusesWhole r) (fun _ => ?_) (fun _ => ?_) (fun _ => ?_)
    (fun hcmd => ?_) (fun _ => RefusesWhole.of_ok rfl) (fun _ => RefusesWhole.of_ok rfl)
    (fun _ => RefusesWhole.unchanged)
  · exact RefusesWhole.of_ok rfl
  · by_cases hconfirm : extractBool q.data "confirm" = some true
    · cases hblock : r.hasBlocking with
      | true =>
          rw [cmdReset_blocked hconfirm hblock]
          exact RefusesWhole.unchanged
      | false =>
          rw [cmdReset_accepted hconfirm hblock]
          exact RefusesWhole.of_ok rfl
    · rw [cmdReset_unconfirmed r hconfirm]
      exact RefusesWhole.unchanged
  · unfold cmdMode
    split
    · exact RefusesWhole.unchanged
    · split
      · exact RefusesWhole.unchanged
      · exact RefusesWhole.of_ok rfl
  · refine cmdTask_cases (P := RefusesWhole r) (fun taskId _ => ?_)
      (fun _ => RefusesWhole.of_ok rfl) (fun taskId htype hfree => ?_) (fun taskId _ _ => ?_)
      (fun _ _ _ _ => RefusesWhole.unchanged)
    · unfold taskPause
      split
      · exact RefusesWhole.of_ok rfl
      · exact RefusesWhole.unchanged
    · -- The goto is the one command that can be refused after it has changed something.
      rw [hcmd] at hq
      exact taskGoto_refuses hq (extractString_of_taskType? (by decide) htype) hfree hpath
    · unfold taskResume
      split
      · exact RefusesWhole.of_ok rfl
      · exact RefusesWhole.unchanged

/-- A goto that gets as far as the planning is handled by `taskGoto`. -/
theorem AdmitsGoto.dispatch {q : Request} {r : FakeRobot F} (h : r.AdmitsGoto q.data)
    (hq : extractString q.data "cmd" = some q.cmd) :
    dispatch C q r = taskGoto C q (taskId? q) r := by
  have hcmd : q.cmd = ascii "CMD_TASK" := by
    rw [h.cmd] at hq
    exact (Option.some.inj hq).symm
  have htype : taskType? q = ascii "goto" := by
    rw [taskType?, h.type]
    rfl
  rw [dispatch_task hcmd, cmdTask_goto htype h.free]

/-- That goto loses the path. -/
theorem lostGoto_navPath (r : FakeRobot F) : (lostGoto r).navPath = [] := by
  unfold lostGoto
  obtain ⟨_, _, _, _, hr⟩ := recompute_frame { r with
    navMap := Nav.GridMap.makeCorridorDemo.inflate 1
    navPath := []
    navStatus := .failed
    faults := r.faults ++
      [{ code := .taskFailed, level := .error, detail := ascii "A* no path to goal" }] }
  rw [hr]

/-- A refused goto without a path has dropped the path, and nothing else of the task. -/
theorem AdmitsGoto.lost {q : Request} {r : FakeRobot F} (h : r.AdmitsGoto q.data)
    (hq : extractString q.data "cmd" = some q.cmd) (hpath : r.gotoPath C q.data = []) :
    ∀ res, Output.result res ∈ (FakeRobot.dispatch C q r).2 → res.ok = false →
      (FakeRobot.dispatch C q r).1.navPath = [] ∧
        (r.navPath = [] → SameTask r (FakeRobot.dispatch C q r).1) := by
  rw [h.dispatch hq]
  refine taskGoto_cases (P := fun x => ∀ res, Output.result res ∈ x.2 → res.ok = false →
    x.1.navPath = [] ∧ (r.navPath = [] → SameTask r x.1)) (fun hrun => absurd hrun h.still)
    (fun _ hout => absurd hout h.inside) (fun id t _ _ _ _ res hres hno => ?_)
    (fun id t hassign _ _ _ _ res _ _ => ?_) (fun id t _ _ _ _ hsome => absurd hpath hsome)
  · rw [result_of_reply hres] at hno
    cases hno
  · obtain ⟨_, rfl⟩ := assignTaskId_counter hassign
    show (lostGoto _).navPath = [] ∧ (r.navPath = [] → SameTask r (lostGoto _))
    unfold lostGoto
    obtain ⟨_, _, _, _, hr⟩ := recompute_frame { r with
      taskSeq := _
      navMap := Nav.GridMap.makeCorridorDemo.inflate 1
      navPath := []
      navStatus := .failed
      faults := r.faults ++
        [{ code := .taskFailed, level := .error, detail := ascii "A* no path to goal" }] }
    rw [hr]
    exact ⟨rfl, fun hnone => ⟨rfl, rfl, ⟨rfl, rfl⟩, hnone.symm, rfl⟩⟩

/-- **A refusal keeps the task exactly when no path is lost.** A command that is answered with
`ok:false` leaves task, goal, path and index as they were if and only if there was no path, or it
is no goto that gets as far as the planning and has no path. -/
theorem refused_keeps_task {r s : FakeRobot F} {e : Event} {data : Bytes} {out : List (Output F)}
    {res : CmdResult} (hcall : e.call = .cmd data) (hstep : handle C r e = some (s, out))
    (hres : Output.result res ∈ out) (hno : res.ok = false) :
    SameTask r s ↔ r.navPath = [] ∨ ¬(r.AdmitsGoto data ∧ r.gotoPath C data = []) := by
  obtain ⟨-, honcmd⟩ := handle_cmd hcall hstep
  rw [onCmd_eq] at honcmd
  cases hq : request? F e.nowMs data with
  | none =>
      simp only [hq, Prod.mk.injEq] at honcmd
      rw [← honcmd.2] at hres
      cases hres
  | some q =>
      simp only [hq] at honcmd
      obtain ⟨hcmd, rfl, -⟩ := request?_eq hq
      by_cases hlost : r.AdmitsGoto q.data ∧ r.gotoPath C q.data = []
      · have hdrop := hlost.1.lost hcmd hlost.2
        rw [honcmd] at hdrop
        obtain ⟨hnil, hsame⟩ := hdrop res hres hno
        constructor
        · intro h
          exact Or.inl (h.path.symm.trans hnil)
        · intro h
          exact hsame (h.resolve_right fun hnot => hnot hlost)
      · have hkeep := dispatch_refuses hcmd hlost
        rw [honcmd] at hkeep
        exact ⟨fun _ => Or.inr hlost, fun _ => hkeep res hres hno⟩

end FakeRobot

open FakeRobot

/-! ### A task that is lost -/

/-- A goto to the edge of the range, which lies off the map. -/
def edgeData : Bytes :=
  ascii ("\x7b\"seq\":8,\"cmd\":\"CMD_TASK\",\"type\":\"goto\"," ++
    "\"task_id\":\"B\",\"x\":20,\"y\":0\x7d")

/-- The goto comes while the first one is paused. -/
def edgeStep : Node ℚ × List (Output ℚ) :=
  (Node.step Exact.Cost pausedStep.1 ⟨7, .cmd edgeData⟩).get
    (by rw [step_cmd (by decide +kernel)]; rfl)

/-- The goto to the edge, while a task is paused, is handled. -/
theorem step_edge :
    Node.step Exact.Cost pausedStep.1 ⟨7, .cmd edgeData⟩ = some (edgeStep.1, edgeStep.2) := by
  rw [Prod.mk.eta]
  exact (Option.some_get _).symm

/-- The answer to it. -/
def edgeAnswer : CmdResult := .rejected 8 (ascii "CMD_TASK") .unknownTask (ascii "B")

/-- The edge is off the map, so the goto is refused and the path is gone. -/
theorem edge_lost :
    edgeStep.2.filterMap Output.result? = [edgeAnswer] ∧ edgeStep.1.robot.navPath = [] := by
  have hpath : pausedStep.1.robot.gotoPath Exact.Cost edgeData = [] :=
    gotoPath_off (by rw [cellOn_grid]; decide +kernel)
  have hadmits : pausedStep.1.robot.AdmitsGoto edgeData := by decide +kernel
  obtain ⟨res, hres, rfl, hlost⟩ := handle_goto
    (P := fun s res => res = edgeAnswer ∧ s.navPath = []) (e := ⟨7, .cmd edgeData⟩) rfl hadmits.cmd
    hadmits.type (Node.step_handle step_edge) (fun _ h => absurd h hadmits.free)
    (fun _ h => absurd h hadmits.still) (fun _ _ _ h => absurd h hadmits.inside)
    (fun _ _ h => absurd h.2.1 (by decide +kernel))
    (fun k _ _ _ => ⟨by decide +kernel, lostGoto_navPath _⟩) (fun _ _ _ h => absurd hpath h)
  exact ⟨hres, hlost⟩

/-- It is refused. -/
theorem edge_refused : Output.result edgeAnswer ∈ edgeStep.2 := by
  obtain ⟨o, ho, hres⟩ := List.mem_filterMap.mp (edge_lost.1 ▸ List.mem_singleton_self edgeAnswer)
  cases o with
  | state t r => cases hres
  | result res =>
      obtain rfl := Option.some.inj hres
      exact ho

/-- And it is the case the condition leaves out: the paused task has lost its path. -/
theorem refused_keeps_task_edge :
    SameTask pausedStep.1.robot edgeStep.1.robot ↔
      pausedStep.1.robot.navPath = [] ∨ ¬(pausedStep.1.robot.AdmitsGoto edgeData ∧
        pausedStep.1.robot.gotoPath Exact.Cost edgeData = []) :=
  refused_keeps_task rfl (Node.step_handle step_edge) edge_refused rfl

/-- A paused task has lost its path to a goto that was refused. -/
theorem paused_task_lost :
    ∃ (h : Node.History ℚ) (n m : Node ℚ) (e : Event) (out : List (Output ℚ)) (res : CmdResult),
      Node.Runs Exact.Cost h n ∧ Node.step Exact.Cost n e = some (m, out) ∧
      Output.result res ∈ out ∧ res.ok = false ∧ n.robot.navPath ≠ [] ∧ m.robot.navPath = [] :=
  ⟨_, _, _, _, _, _, runs_paused, step_edge, edge_refused, rfl, by decide +kernel, edge_lost.2⟩

end BotCockpit.Sim
