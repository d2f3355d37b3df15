import BotCockpit.Proofs.Sim.Resume

/-!
# `BotCockpit.Proofs.Sim.TaskOnce`: how often a task is executed

The robot remembers one task, and a goto with its id is answered `DONE` only while the task is
done. `executes_iff` is the inversion of the goto: it is accepted exactly when the robot can start
it and this memory does not hold it back. So an id is executed again when its task was cancelled,
has failed, is paused, or was followed by another one. `task_once` says that these are the only
ways.
-/

set_option autoImplicit false

namespace BotCockpit.Sim

open BotCockpit.Lib

variable {F : Type} [CDouble F] {C : Type} [CFloat C]

namespace FakeRobot

/-- A goto always has an id. -/
theorem gotoId_ne_nil (data : Bytes) (r : FakeRobot F) : r.gotoId data ≠ [] := by
  unfold gotoId assignTaskId
  split
  · have hne : ascii "T-" ≠ [] := by decide
    exact List.append_ne_nil_of_left_ne_nil hne _
  · assumption

/-- Assigning an id leaves the task that is remembered alone. -/
theorem assignTaskId_memory {taskId id : Bytes} {r t : FakeRobot F}
    (h : assignTaskId taskId r = (id, t)) :
    t.taskId = r.taskId ∧ t.taskStatus = r.taskStatus ∧ t.topicsReady = r.topicsReady := by
  obtain ⟨_, rfl⟩ := assignTaskId_counter h
  exact ⟨rfl, rfl, rfl⟩

/-- What an answer of `reply` says about the id. -/
theorem executes_reply {e : Event} {s : FakeRobot F} {res : CmdResult} {id : Bytes}
    (h : Entry.Executes (e, (s.reply res).2) id) : res.status = .accepted ∧ res.taskId = id := by
  obtain ⟨-, res', hres, -, hstatus, hid⟩ := h
  have hres' : Output.result res' ∈ s.publishCmdResult res := hres
  unfold publishCmdResult at hres'
  split at hres'
  · simp only [List.mem_singleton, Output.result.injEq] at hres'
    exact ⟨hres' ▸ hstatus, hres' ▸ hid⟩
  · cases hres'

/-- A handler that executes an id accepts it by its one answer. -/
theorem executes_replyAndPublish {e : Event} {q : Request} {s : FakeRobot F} {res : CmdResult}
    {id : Bytes} (h : Entry.Executes (e, (s.replyAndPublish q res).2) id) :
    res.status = .accepted ∧ res.taskId = id := by
  obtain ⟨hasks, res', hres, hrest⟩ := h
  have hres' : Output.result res' ∈ s.publishCmdResult res ++ s.publishState q.nowMs := hres
  rcases List.mem_append.mp hres' with hres | hres
  · exact executes_reply ⟨hasks, res', hres, hrest⟩
  · exact absurd hres result_not_mem_publishState

/-- **When a goto is accepted**, and under which id. -/
theorem executes_iff {e : Event} {data : Bytes} {r s : FakeRobot F} {out : List (Output F)}
    (hasks : Entry.AsksTask (e, out) "goto") (hcall : e.call = .cmd data)
    (h : handle C r e = some (s, out)) (taskId : Bytes) :
    Entry.Executes (e, out) taskId ↔
      r.CanStart C data ∧ r.gotoId data = taskId ∧ ¬(r.taskId = taskId ∧ r.taskStatus = .done) := by
  obtain ⟨hready, honcmd⟩ := handle_cmd hcall h
  have hasks' := hasks
  obtain ⟨data', hcall', hcmd, htype⟩ := hasks'
  obtain rfl : data = data' := Call.cmd.inj (hcall.symm.trans hcall')
  obtain ⟨q, hq, hqdata, hqcmd⟩ : ∃ q : Request, request? F e.nowMs data = some q ∧
      q.data = data ∧ q.cmd = ascii "CMD_TASK" := by
    exact ⟨⟨e.nowMs, data, ascii "CMD_TASK", extractSeq F data⟩, by simp [request?, hcmd], rfl, rfl⟩
  have hqtype : taskType? q = ascii "goto" := by
    unfold taskType?
    rw [hqdata, htype]
    rfl
  rw [onCmd_eq] at honcmd
  simp only [hq] at honcmd
  rw [dispatch_task hqcmd] at honcmd
  have hout : out = (cmdTask C q r).2 := by rw [honcmd]
  rw [hout] at hasks ⊢
  -- A blocked robot refuses every goto.
  by_cases hblocked : r.blocked
  · have hpause : taskType? q ≠ ascii "pause" := by rw [hqtype]; decide
    have hcancel : taskType? q ≠ ascii "cancel" := by rw [hqtype]; decide
    rw [cmdTask_blocked hpause hcancel hblocked]
    refine ⟨fun hx => ?_, fun hx => absurd hblocked hx.1.free⟩
    exact ResultStatus.noConfusion (executes_reply hx).1
  rw [cmdTask_goto hqtype hblocked] at hasks ⊢
  have hid : ∀ id t, assignTaskId (taskId? q) r = (id, t) → r.gotoId data = id := by
    intro id t hassign
    unfold taskId? at hassign
    rw [hqdata] at hassign
    unfold gotoId
    rw [hassign]
  -- The ways a goto can end, in the order of the code.
  revert hasks
  refine taskGoto_cases (P := fun h => Entry.AsksTask (e, h.2) "goto" →
      (Entry.Executes (e, h.2) taskId ↔ r.CanStart C data ∧ r.gotoId data = taskId ∧
        ¬(r.taskId = taskId ∧ r.taskStatus = .done)))
    (fun hrun _ => ?_) (fun _ hoff _ => ?_) (fun id t hassign _ _ hdone _ => ?_)
    (fun id t hassign _ _ _ hpath _ => ?_) (fun id t hassign hrun hin hnot hpath hasks => ?_)
  · exact ⟨fun hx => ResultStatus.noConfusion (executes_reply hx).1,
      fun hx => absurd hrun hx.1.still⟩
  · refine ⟨fun hx => ResultStatus.noConfusion (executes_reply hx).1, fun hx => ?_⟩
    exact absurd (hqdata ▸ hoff) hx.1.inside
  · -- The robot remembers the task as done.
    obtain ⟨htask, hstatus, -⟩ := assignTaskId_memory hassign
    refine ⟨fun hx => ResultStatus.noConfusion (executes_reply hx).1, fun hx => ?_⟩
    refine absurd ⟨?_, hstatus ▸ hdone.2.2⟩ hx.2.2
    rw [← htask, hdone.2.1, ← hx.2.1, hid id t hassign]
  · refine ⟨fun hx => ResultStatus.noConfusion (executes_replyAndPublish hx).1, fun hx => ?_⟩
    exact absurd (hqdata ▸ hpath) hx.1.path
  · -- The goto starts, under the id it asked for.
    obtain ⟨htask, hstatus, hready'⟩ := assignTaskId_memory hassign
    rw [htask, hstatus] at hnot
    have hgoto := hid id t hassign
    have hne : id ≠ [] := hgoto ▸ gotoId_ne_nil data r
    have hready'' := hready'.trans hready
    refine ⟨fun hx => ?_, fun hx => ⟨hasks, .accepted q.seq q.cmd id, ?_, rfl, rfl, ?_⟩⟩
    · obtain rfl : id = taskId := (executes_replyAndPublish hx).2
      refine ⟨⟨hblocked, hrun, hqdata ▸ hin, hqdata ▸ hpath⟩, hgoto, fun hdone => hnot ?_⟩
      exact ⟨by rw [hdone.1]; exact hne, hdone⟩
    · refine List.mem_append_left _ ?_
      simp [publishCmdResult, startGoto, hready'']
    · exact hgoto.symm.trans hx.2.1

end FakeRobot

open FakeRobot

/-- **A task id is executed once.** In a run no goto is accepted under an id that was executed
since the last accepted RESET or configuration, if and only if every goto that the robot could
start under such an id finds the task of this id done. -/
theorem task_once {h : Node.History F} {n : Node F} (hrun : Node.Runs C h n) :
    (∀ pre x taskId, pre ++ [x] <+: h →
      Since (fun y : Entry F => y.Executes taskId) (fun y => ¬y.Forgets) pre →
      ¬Entry.Executes x taskId) ↔ RemembersTasks C h := by
  constructor
  · intro honce pre x m data hpre hasks hcall hm hstart hbefore
    obtain ⟨u, hu⟩ := hrun.of_prefix hpre
    obtain ⟨m', hm', -, hstep⟩ := Run.snoc_inv (e := x.1) (o := x.2) hu
    obtain rfl := hm.det hm'
    by_contra hnot
    exact honce pre x _ hpre hbefore
      ((executes_iff hasks hcall (Node.step_handle hstep) _).mpr ⟨hstart, rfl, hnot⟩)
  · intro hgood pre x taskId hpre hbefore hx
    obtain ⟨u, hu⟩ := hrun.of_prefix hpre
    obtain ⟨m, hm, -, hstep⟩ := Run.snoc_inv (e := x.1) (o := x.2) hu
    obtain ⟨data, hcall, -⟩ := id hx.1
    obtain ⟨hstart, rfl, hnot⟩ := (executes_iff hx.1 hcall (Node.step_handle hstep) _).mp hx
    exact hnot (hgood pre x m data hpre hx.1 hcall hm hstart hbefore)

/-! ### The same id twice -/

/-- The task is cancelled. -/
def cancelEvent : Event :=
  ⟨6, .cmd (ascii "\x7b\"seq\":8,\"cmd\":\"CMD_TASK\",\"type\":\"cancel\"\x7d")⟩

/-- The goto comes again. -/
def againEvent : Event := ⟨7, .cmd gotoData⟩

def cancelledStep : Node ℚ × List (Output ℚ) :=
  (Node.step Exact.Cost movingNode cancelEvent).get (by decide +kernel)

def cancelledHistory : Node.History ℚ := movingHistory ++ [(cancelEvent, cancelledStep.2)]

/-- The answer to the goto of a task that is done. -/
def againStep : Node ℚ × List (Output ℚ) :=
  (Node.step Exact.Cost drivenStep.1 againEvent).get (by decide +kernel)

example : (againStep.2.filterMap Output.result?).map (fun res => res.status) = [.done] := by
  decide +kernel

/-- The run with the cancel is a run of the node. -/
theorem runs_cancelled : Node.Runs Exact.Cost cancelledHistory cancelledStep.1 :=
  Run.snoc runs_moving trivial (Option.some_get _).symm

/-- The fields of its goto. -/
theorem goto_data : extractString gotoData "cmd" = some (ascii "CMD_TASK") ∧
    extractString gotoData "type" = some (ascii "goto") ∧
    extractString gotoData "task_id" = some (ascii "A") := by
  decide +kernel

/-- The acceptance of that goto executes its id. -/
theorem executes_goto {nowMs : UInt64} {out : List (Output ℚ)}
    (h : Output.result (.accepted 7 (ascii "CMD_TASK") (ascii "A")) ∈ out) :
    Entry.Executes (⟨nowMs, .cmd gotoData⟩, out) (ascii "A") :=
  ⟨⟨_, rfl, goto_data.1, goto_data.2.1⟩, _, h, rfl, rfl, rfl⟩

/-- What forgets the task is no task command. -/
theorem forgets_not_asksTask {x : Entry F} {type : String} (h : x.AsksTask type) :
    ¬x.Forgets := by
  rintro (hx | hx)
  · exact asksTask_not_resets h hx.1
  · obtain ⟨data, hc, -⟩ := h
    rw [hc] at hx
    cases hx

/-- A task that was cancelled is executed again. -/
theorem executed_twice :
    ∃ (h : Node.History ℚ) (x : Entry ℚ) (m : Node ℚ), Node.Runs Exact.Cost (h ++ [x]) m ∧
      Since (fun y : Entry ℚ => y.Executes (ascii "A")) (fun y => ¬y.Forgets) h ∧
      x.Executes (ascii "A") := by
  have hpose : cancelledStep.1.robot.poseX = readyNode.robot.poseX ∧
      cancelledStep.1.robot.poseY = readyNode.robot.poseY := by decide +kernel
  have hpath : Nav.astar Exact.Cost (Nav.GridMap.makeCorridorDemo.inflate 1)
      cancelledStep.1.robot.poseX cancelledStep.1.robot.poseY (13 / 10 : ℚ) 0 =
      [(13 / 10, 0)] := by
    rw [hpose.1, hpose.2]
    exact goto_path (by decide +kernel)
  have hnumber : (extractNumber gotoData "x" cancelledStep.1.robot.poseX).2 = 13 / 10 ∧
      (extractNumber gotoData "y" cancelledStep.1.robot.poseY).2 = 0 := by decide +kernel
  have hstate : cancelledStep.1.robot.topicsReady = true ∧ ¬cancelledStep.1.robot.blocked ∧
      cancelledStep.1.robot.phase ≠ .running ∧ cancelledStep.1.robot.taskId = [] ∧
      extractSeq ℚ gotoData = 7 ∧ ¬outside (13 / 10 : ℚ) 0 := by decide +kernel
  obtain ⟨hready, hfree, hstill, hnone, hseq, hin⟩ := hstate
  have hstep : ∃ m out, Node.step Exact.Cost cancelledStep.1 againEvent = some (m, out) ∧
      Output.result (.accepted 7 (ascii "CMD_TASK") (ascii "A")) ∈ out :=
    ⟨_, _, step_goto hready goto_data.1 goto_data.2.1 goto_data.2.2 (by decide) hseq hfree hstill
      hnone hnumber.1 hnumber.2 hin hpath (List.cons_ne_nil _ _), List.mem_cons_self⟩
  obtain ⟨m, out, hstep, hanswer⟩ := hstep
  refine ⟨cancelledHistory, (againEvent, out), m, Run.snoc runs_cancelled trivial hstep, ?_,
    executes_goto hanswer⟩
  have hcancel : Entry.AsksTask (cancelEvent, cancelledStep.2) "cancel" :=
    ⟨_, rfl, by decide +kernel, by decide +kernel⟩
  have hfirst : Since (fun y : Entry ℚ => y.Executes (ascii "A")) (fun y => ¬y.Forgets)
      movingHistory := Since.start readyHistory (executes_goto List.mem_cons_self)
  exact hfirst.extend (forgets_not_asksTask hcancel)

/-- A task that is done is not executed again. -/
theorem task_once_done : ¬Entry.Executes (againEvent, againStep.2) (ascii "A") := by
  have hrun : Node.Runs Exact.Cost (drivenHistory ++ [(againEvent, againStep.2)]) againStep.1 :=
    Run.snoc runs_driven trivial (Option.some_get _).symm
  have hready : ∀ e ∈ readyHistory.map (fun x => x.1), e.type? ≠ some (ascii "goto") := by
    decide +kernel
  have hdone : drivenStep.1.robot.taskId = ascii "A" ∧ drivenStep.1.robot.taskStatus = .done ∧
      drivenStep.1.robot.gotoId gotoData = ascii "A" := by decide +kernel
  have hgood : RemembersTasks Exact.Cost (drivenHistory ++ [(againEvent, againStep.2)]) := by
    intro pre x m data hpre hasks hcall hm _ hbefore
    -- The last entry, the tick, the first goto, and what was before it.
    rcases List.prefix_concat_iff.mp hpre with heq | hpre
    · obtain ⟨rfl, hx⟩ := List.append_inj' heq rfl
      obtain rfl := List.singleton_inj.mp hx
      obtain rfl := hm.det runs_driven
      obtain rfl : gotoData = data := Call.cmd.inj hcall
      exact ⟨hdone.1.trans hdone.2.2.symm, hdone.2.1⟩
    rcases List.prefix_concat_iff.mp hpre with heq | hpre
    · obtain ⟨-, hx⟩ := List.append_inj' heq rfl
      obtain rfl := List.singleton_inj.mp hx
      cases hcall
    rcases List.prefix_concat_iff.mp hpre with heq | hpre
    · obtain ⟨rfl, -⟩ := List.append_inj' heq rfl
      obtain ⟨y, hy, hexec⟩ := hbefore.exists_mem
      exact absurd (type?_of_asksTask hexec.1) (hready y.1 (List.mem_map_of_mem hy))
    · have hmem : x ∈ readyHistory := hpre.subset (by simp)
      exact absurd (type?_of_asksTask hasks) (hready x.1 (List.mem_map_of_mem hmem))
  refine (task_once hrun).mpr hgood drivenHistory (againEvent, againStep.2) (ascii "A")
    (List.prefix_refl _) ?_
  have hfirst : Since (fun y : Entry ℚ => y.Executes (ascii "A")) (fun y => ¬y.Forgets)
      movingHistory := Since.start readyHistory (executes_goto List.mem_cons_self)
  refine hfirst.extend ?_
  rintro (⟨⟨data, hc, -⟩, -⟩ | hc) <;> cases hc

end BotCockpit.Sim
