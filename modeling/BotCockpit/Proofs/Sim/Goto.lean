import BotCockpit.Proofs.Sim.Corridor
import BotCockpit.Proofs.Sim.Resume

/-!
# `BotCockpit.Proofs.Sim.Goto`: what a goto comes to

`handle_goto` goes through the six outcomes of a goto, each with its one result. A goto that the
robot admits is answered `DONE` when it repeats the one that is done, and planned otherwise
(`AdmitsGoto.planned`). The planner gets no path to a point off the map (`gotoPath_off`), and which
cell a point lies in does not depend on the walls (`cellOn_grid`).
-/

set_option autoImplicit false

namespace BotCockpit.Sim

open BotCockpit.Lib

variable {F : Type} [CDouble F] {C : Type} [CFloat C]

namespace FakeRobot

/-- The results among what a command publishes. -/
theorem results_reply {r : FakeRobot F} (hready : r.topicsReady = true) (res : CmdResult) :
    (r.reply res).2.filterMap Output.result? = [res] := by
  show (r.publishCmdResult res).filterMap Output.result? = [res]
  rw [publishCmdResult, if_pos hready]
  rfl

/-- A handler that ends with its answer and the state has that one answer. -/
theorem results_replyAndPublish {q : Request} {r : FakeRobot F} (hready : r.topicsReady = true)
    (res : CmdResult) : (r.replyAndPublish q res).2.filterMap Output.result? = [res] := by
  show (r.publishCmdResult res ++ r.publishState q.nowMs).filterMap Output.result? = [res]
  rw [publishCmdResult, publishState, if_pos hready, if_pos hready]
  rfl

/-! ### What a goto comes to -/

/-- **The six outcomes of a goto.** The result is the only one of the callback. -/
theorem handle_goto {P : FakeRobot F → CmdResult → Prop} {r s : FakeRobot F} {e : Event}
    {data : Bytes} {out : List (Output F)} (hcall : e.call = .cmd data)
    (hcmd : extractString data "cmd" = some (ascii "CMD_TASK"))
    (htype : extractString data "type" = some (ascii "goto"))
    (hstep : handle C r e = some (s, out))
    (blocked : ∀ id, r.blocked →
      P r (.rejected (extractSeq F data) (ascii "CMD_TASK") r.blockedReason id))
    (busy : ∀ id, r.phase = .running →
      P r (.rejected (extractSeq F data) (ascii "CMD_TASK") .phaseBusy id))
    (off : ∀ id, ¬r.blocked → r.phase ≠ .running →
      outside (r.gotoGoal data).1 (r.gotoGoal data).2 →
      P r (.rejected (extractSeq F data) (ascii "CMD_TASK") .invalidPayload id))
    (again : ∀ k, r.AdmitsGoto data → r.RepeatsDone data →
      P { r with taskSeq := k }
        { seq := extractSeq F data, cmd := ascii "CMD_TASK", ok := true, status := .done,
          reason := none, taskId := r.gotoId data })
    (lost : ∀ k, r.AdmitsGoto data → ¬r.RepeatsDone data → r.gotoPath C data = [] →
      P (lostGoto { r with taskSeq := k })
        (.rejected (extractSeq F data) (ascii "CMD_TASK") .unknownTask (r.gotoId data)))
    (start : ∀ k, r.AdmitsGoto data → ¬r.RepeatsDone data → r.gotoPath C data ≠ [] →
      P (startGoto (Nav.plan F) (r.gotoPath C data) (r.gotoGoal data).1 (r.gotoGoal data).2
          (r.gotoId data) { r with taskSeq := k })
        (.accepted (extractSeq F data) (ascii "CMD_TASK") (r.gotoId data))) :
    ∃ res, out.filterMap Output.result? = [res] ∧ P s res := by
  obtain ⟨hready, honcmd⟩ := handle_cmd hcall hstep
  let q : Request := ⟨e.nowMs, data, ascii "CMD_TASK", extractSeq F data⟩
  have hq : request? F e.nowMs data = some q := by simp [request?, hcmd, q]
  have hgoto : taskType? q = ascii "goto" := by
    show (extractString data "type").getD [] = ascii "goto"
    rw [htype]
    rfl
  have hpause : taskType? q ≠ ascii "pause" := by
    rw [hgoto]
    decide
  have hcancel : taskType? q ≠ ascii "cancel" := by
    rw [hgoto]
    decide
  rw [onCmd_eq, hq] at honcmd
  have honcmd : cmdTask C q r = (s, out) := (dispatch_task rfl r).symm.trans honcmd
  have hpair : s = (cmdTask C q r).1 ∧ out = (cmdTask C q r).2 := by
    rw [honcmd]
    exact ⟨rfl, rfl⟩
  rw [hpair.1, hpair.2]
  by_cases hblocked : r.blocked
  · rw [cmdTask_blocked hpause hcancel hblocked]
    exact ⟨_, results_reply hready _, blocked _ hblocked⟩
  rw [cmdTask_goto hgoto hblocked]
  have hadmits : r.phase ≠ .running → ¬outside (r.gotoGoal data).1 (r.gotoGoal data).2 →
      r.AdmitsGoto data := fun hstill hin => ⟨hcmd, htype, hblocked, hstill, hin⟩
  -- Naming the goto moves the counter and nothing else.
  have hassigned : ∀ {id t}, assignTaskId (taskId? q) r = (id, t) →
      id = r.gotoId data ∧ ∃ k, t = { r with taskSeq := k } := by
    intro id t hassign
    have hid : assignTaskId ((extractString data "task_id").getD []) r = (id, t) := hassign
    rw [gotoId, hid]
    exact ⟨rfl, assignTaskId_counter hassign⟩
  refine taskGoto_cases (P := fun x => ∃ res, x.2.filterMap Output.result? = [res] ∧ P x.1 res)
    (fun hrun => ⟨_, results_reply hready _, busy _ hrun⟩)
    (fun hstill hout => ⟨_, results_reply hready _, off _ hblocked hstill hout⟩)
    (fun id t hassign hstill hin hdone => ?_) (fun id t hassign hstill hin hdone hpath => ?_)
    (fun id t hassign hstill hin hdone hpath => ?_)
  · obtain ⟨rfl, k, rfl⟩ := hassigned hassign
    exact ⟨_, results_reply hready _, again k (hadmits hstill hin) hdone⟩
  · obtain ⟨rfl, k, rfl⟩ := hassigned hassign
    have hready' : (lostGoto { r with taskSeq := k }).topicsReady = true :=
      (recompute_topicsReady _).trans hready
    exact ⟨_, results_replyAndPublish hready' _, lost k (hadmits hstill hin) hdone hpath⟩
  · obtain ⟨rfl, k, rfl⟩ := hassigned hassign
    have hready' : (startGoto (Nav.plan F) (r.gotoPath C data) (r.gotoGoal data).1
        (r.gotoGoal data).2 (r.gotoId data) { r with taskSeq := k }).topicsReady = true := hready
    exact ⟨_, results_replyAndPublish hready' _, start k (hadmits hstill hin) hdone hpath⟩

/-- An admitted goto under an id that is not the current one is planned. -/
theorem AdmitsGoto.planned {r s : FakeRobot F} {e : Event} {data : Bytes} {out : List (Output F)}
    (h : r.AdmitsGoto data) (hcall : e.call = .cmd data) (hid : r.taskId ≠ r.gotoId data)
    (hstep : FakeRobot.handle C r e = some (s, out)) :
    out.filterMap Output.result? =
      [if r.gotoPath C data = [] then
        .rejected (extractSeq F data) (ascii "CMD_TASK") .unknownTask (r.gotoId data)
      else .accepted (extractSeq F data) (ascii "CMD_TASK") (r.gotoId data)] := by
  obtain ⟨res, hres, rfl⟩ := handle_goto (P := fun _ res => res =
      if r.gotoPath C data = [] then
        .rejected (extractSeq F data) (ascii "CMD_TASK") .unknownTask (r.gotoId data)
      else .accepted (extractSeq F data) (ascii "CMD_TASK") (r.gotoId data)) hcall h.cmd h.type
        hstep
    (fun _ hblocked => absurd hblocked h.free) (fun _ hrun => absurd hrun h.still)
    (fun _ _ _ hout => absurd hout h.inside) (fun _ _ hdone => absurd hdone.2.1 hid)
    (fun _ _ _ hpath => (if_pos hpath).symm) (fun _ _ _ hpath => (if_neg hpath).symm)
  exact hres

/-! ### Goals off the map -/

/-- The cell of a point on the inflated map. -/
theorem cellOn_plan (p : F × F) : (Nav.plan F).worldToCell p.1 p.2 = cellOn p :=
  (Nav.GridMap.inflate_marks (Nav.GridMap.makeCorridorDemo (F := F)) 1).grid.worldToCell p.1 p.2

/-- The walls do not matter for the cell of a point. -/
theorem cellOn_grid (p : F × F) : cellOn p = ({} : Nav.GridMap F).worldToCell p.1 p.2 :=
  (Nav.GridMap.makeCorridorDemo_marks (F := F)).grid.worldToCell p.1 p.2

/-- There is no path to a point off the map. -/
theorem gotoPath_off {data : Bytes} {r : FakeRobot F} (h : cellOn (r.gotoGoal data) = none) :
    r.gotoPath C data = [] := by
  rw [← cellOn_plan] at h
  unfold gotoPath Nav.astar
  rw [h]
  split <;> simp_all

end FakeRobot

end BotCockpit.Sim
