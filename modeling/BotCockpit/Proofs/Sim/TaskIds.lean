import BotCockpit.Proofs.Sim.FaultList
import BotCockpit.Proofs.Sim.RefusedTask

/-!
# `BotCockpit.Proofs.Sim.TaskIds`: assigned task ids are fresh

A goto without an id gets the next one of a counter, and a goto with an id keeps it, whatever it is.
So the ids share one namespace, and an assigned id is new only while no goto has come under an id
ahead of the counter. `handle_ids` says what a callback does to the counter and the current id;
`ids_behind` is the invariant: every id that was used is behind the counter, or none of the robot's.
Then a goto without an id is planned, and never taken for the one that is done (`assigned_fresh`).
-/

set_option autoImplicit false

namespace BotCockpit.Sim

open BotCockpit.Lib

variable {F : Type} [CDouble F] {C : Type} [CFloat C]

namespace FakeRobot

/-- The ids of different numbers differ. -/
theorem assignedId_injective {k l : Nat} (h : assignedId k = assignedId l) : k = l := by
  have hdigits : decimal k = decimal l := List.append_cancel_left h
  rw [← readNat_decimal k, hdigits, readNat_decimal]

/-- An assigned id is not empty. -/
theorem assignedId_ne_nil (k : Nat) : assignedId k ≠ [] := by
  have hne : ascii "T-" ≠ [] := by decide
  exact List.append_ne_nil_of_left_ne_nil hne _

/-- The id of a goto is its own, or the next one. -/
theorem gotoId_cases (data : Bytes) (r : FakeRobot F) :
    (∃ taskId, extractString data "task_id" = some taskId ∧ taskId ≠ [] ∧ r.gotoId data = taskId ∧
        (assignTaskId ((extractString data "task_id").getD []) r).2.taskSeq = r.taskSeq) ∨
      (extractString data "task_id").getD [] = [] ∧ r.gotoId data = assignedId (r.taskSeq + 1) ∧
        (assignTaskId ((extractString data "task_id").getD []) r).2.taskSeq = r.taskSeq + 1 := by
  unfold gotoId assignTaskId
  by_cases hnone : (extractString data "task_id").getD [] = []
  · rw [if_pos hnone]
    exact Or.inr ⟨hnone, rfl, rfl⟩
  · rw [if_neg hnone]
    refine Or.inl ?_
    cases hid : extractString data "task_id" with
    | none =>
        rw [hid] at hnone
        exact absurd rfl hnone
    | some taskId =>
        rw [hid] at hnone
        exact ⟨taskId, rfl, hnone, rfl, rfl⟩

/-! ### Counter and id -/

/-- The counter stands, and the task is the same one or none. -/
def KeepsIds (r s : FakeRobot F) : Prop :=
  s.taskSeq = r.taskSeq ∧ (s.taskId = r.taskId ∨ s.taskId = [])

/-- A step that only notes faults keeps the ids. -/
theorem KeepsIds.of_noted {r s : FakeRobot F} (h : Noted r s) : KeepsIds r s :=
  ⟨h.taskSeq, Or.inl h.taskId⟩

/-- Doing nothing keeps the ids. -/
theorem KeepsIds.refl (r : FakeRobot F) : KeepsIds r r := ⟨rfl, Or.inl rfl⟩

/-- A block that ends with the recomputation keeps the ids it keeps before. -/
theorem KeepsIds.recomputed {r t : FakeRobot F} (h : KeepsIds r t) :
    KeepsIds r (recomputePhaseAndControl t) := by
  have hnoted := Noted.recompute t
  unfold KeepsIds
  rw [hnoted.taskSeq, hnoted.taskId]
  exact h

/-- A command that is no admitted goto keeps the counter. -/
theorem dispatch_keepsIds {q : Request} {r : FakeRobot F}
    (hq : extractString q.data "cmd" = some q.cmd) (hno : ¬r.AdmitsGoto q.data) :
    KeepsIds r (dispatch C q r).1 := by
  refine dispatch_cases (P := fun x => KeepsIds r x.1) (fun _ => ?_) (fun _ => ?_) (fun _ => ?_)
    -- Only a RESET and a cancel forget the id; none of the commands counts.
    (fun hcmd => ?_) (fun _ => ?_) (fun _ => ?_) (fun _ => KeepsIds.refl r)
  · unfold cmdEstop
    dsimp only
    split <;> exact ⟨rfl, Or.inl rfl⟩
  · by_cases hconfirm : extractBool q.data "confirm" = some true
    · cases hblock : r.hasBlocking with
      | true =>
          rw [cmdReset_blocked hconfirm hblock]
          exact KeepsIds.refl r
      | false =>
          rw [cmdReset_accepted hconfirm hblock]
          exact ⟨rfl, Or.inr rfl⟩
    · rw [cmdReset_unconfirmed r hconfirm]
      exact KeepsIds.refl r
  · rw [cmdMode_state]
    split
    · exact KeepsIds.refl r
    · split <;> exact ⟨rfl, Or.inl rfl⟩
  · refine cmdTask_cases (P := fun x => KeepsIds r x.1) (fun taskId _ => ?_) (fun _ => ?_)
      (fun taskId htype hfree => ?_) (fun taskId _ _ => ?_) (fun _ _ _ _ => KeepsIds.refl r)
    · unfold taskPause
      split
      · exact KeepsIds.recomputed ⟨rfl, Or.inl rfl⟩
      · exact KeepsIds.refl r
    · exact KeepsIds.recomputed ⟨rfl, Or.inr rfl⟩
    · -- A goto that is refused before it is named.
      have hadmits : r.phase ≠ .running →
          ¬outside (r.gotoGoal q.data).1 (r.gotoGoal q.data).2 → r.AdmitsGoto q.data :=
        fun hstill hin => ⟨hcmd ▸ hq, extractString_of_taskType? (by decide) htype, hfree, hstill,
          hin⟩
      exact taskGoto_cases (P := fun x => KeepsIds r x.1) (fun _ => KeepsIds.refl r)
        (fun _ _ => KeepsIds.refl r) (fun _ _ _ hstill hin _ => absurd (hadmits hstill hin) hno)
        (fun _ _ _ hstill hin _ _ => absurd (hadmits hstill hin) hno)
        (fun _ _ _ hstill hin _ _ => absurd (hadmits hstill hin) hno)
    · unfold taskResume
      split <;> exact ⟨rfl, Or.inl rfl⟩
  · exact KeepsIds.recomputed ⟨rfl, Or.inl rfl⟩
  · have hcleared : KeepsIds r (clearedState r) := ⟨rfl, Or.inl rfl⟩
    rw [cmdClearFault_state]
    exact hcleared.recomputed

/-- An admitted goto counts on when it is named, and becomes the task or leaves it. -/
theorem AdmitsGoto.ids {q : Request} {r : FakeRobot F} (h : r.AdmitsGoto q.data)
    (hq : extractString q.data "cmd" = some q.cmd) :
    (FakeRobot.dispatch C q r).1.taskSeq =
        (assignTaskId ((extractString q.data "task_id").getD []) r).2.taskSeq ∧
      ((FakeRobot.dispatch C q r).1.taskId = r.taskId ∨
        (FakeRobot.dispatch C q r).1.taskId = r.gotoId q.data) := by
  have hassigned : ∀ {id t}, assignTaskId (taskId? q) r = (id, t) →
      t.taskSeq = (assignTaskId ((extractString q.data "task_id").getD []) r).2.taskSeq ∧
        t.taskId = r.taskId ∧ id = r.gotoId q.data := by
    intro id t hassign
    have hpair : assignTaskId ((extractString q.data "task_id").getD []) r = (id, t) := hassign
    obtain ⟨_, rfl⟩ := assignTaskId_counter hassign
    rw [gotoId, hpair]
    exact ⟨rfl, rfl, rfl⟩
  rw [h.dispatch hq]
  refine taskGoto_cases (P := fun x => x.1.taskSeq = _ ∧ (x.1.taskId = r.taskId ∨
      x.1.taskId = r.gotoId q.data)) (fun hrun => absurd hrun h.still)
    (fun _ hout => absurd hout h.inside) (fun id t hassign _ _ _ => ?_)
    (fun id t hassign _ _ _ _ => ?_) (fun id t hassign _ _ _ _ => ?_)
  · exact ⟨(hassigned hassign).1, Or.inl (hassigned hassign).2.1⟩
  · obtain ⟨hseq, hid, -⟩ := hassigned hassign
    have hlost : Noted t (lostGoto t) := Noted.recomputed (Noted.push rfl rfl rfl rfl
      FaultCode.noConfusion fun hcode => FaultCode.noConfusion hcode)
    exact ⟨hlost.taskSeq.trans hseq, Or.inl (hlost.taskId.trans hid)⟩
  · exact ⟨(hassigned hassign).1, Or.inr (hassigned hassign).2.2⟩

/-- **What a callback does to the counter and the current id.** -/
theorem handle_ids {r s : FakeRobot F} {e : Event} {out : List (Output F)}
    (h : handle C r e = some (s, out)) :
    (r.usedId? e = none ∧ KeepsIds r s) ∨
      ∃ data, e.call = .cmd data ∧ r.AdmitsGoto data ∧ r.usedId? e = some (r.gotoId data) ∧
        s.taskSeq = (assignTaskId ((extractString data "task_id").getD []) r).2.taskSeq ∧
        (s.taskId = r.taskId ∨ s.taskId = r.gotoId data) := by
  cases handle_cases h with
  | configure hc =>
      -- The configuration forgets the id and keeps the counter.
      exact Or.inl ⟨by simp only [usedId?, hc], rfl, Or.inr rfl⟩
  | activate now hc => exact Or.inl ⟨by simp only [usedId?, hc], rfl, Or.inl rfl⟩
  | deactivate hc | cleanup hc | shutdown hc =>
      exact Or.inl ⟨by simp only [usedId?, hc], rfl, Or.inl rfl⟩
  | console data hc hready =>
      have hnoted := (onConsole_noted e.nowMs data r).1
      exact Or.inl ⟨by simp only [usedId?, hc], KeepsIds.of_noted hnoted⟩
  | noCmd data hc hready hq =>
      have hno : ¬r.AdmitsGoto data := by
        intro hadmits
        rw [request?, hadmits.cmd] at hq
        cases hq
      exact Or.inl ⟨by simp only [usedId?, hc, if_neg hno], KeepsIds.refl r⟩
  | cmd data q hc hready hq =>
      obtain ⟨hcmd, rfl, -⟩ := request?_eq hq
      -- Only a goto that is let in asks for an id.
      by_cases hadmits : r.AdmitsGoto q.data
      · have hids := hadmits.ids (C := C) hcmd
        exact Or.inr ⟨q.data, hc, hadmits, by simp only [usedId?, hc, if_pos hadmits],
          hids.1, hids.2⟩
      · have hkeeps := dispatch_keepsIds (C := C) hcmd hadmits
        exact Or.inl ⟨by simp only [usedId?, hc, if_neg hadmits], hkeeps⟩
  | tick now fuel s out hc htick =>
      exact Or.inl ⟨by simp only [usedId?, hc], KeepsIds.of_noted (tick_noted htick).1⟩

/-- The ids are no ids that the robot is still to assign. -/
def Behind (r : FakeRobot F) (ids : List Bytes) : Prop :=
  ∀ id ∈ r.taskId :: ids, ∀ k, r.taskSeq < k → id ≠ assignedId k

/-- One callback more. -/
theorem Behind.handle {r s : FakeRobot F} {e : Event} {out : List (Output F)} {ids : List Bytes}
    (h : Behind r ids) (hguard : r.NotAhead e) (hstep : handle C r e = some (s, out)) :
    Behind s (ids ++ (r.usedId? e).toList) := by
  rcases handle_ids hstep with ⟨hnone, hseq, hid⟩ | ⟨data, hc, hadmits, hused, hseq, hid⟩
  · rw [hnone, Option.toList_none, List.append_nil]
    intro id hmem k hk
    rw [hseq] at hk
    rcases List.mem_cons.mp hmem with rfl | hmem
    · rcases hid with hid | hid
      · exact hid ▸ h _ List.mem_cons_self k hk
      · exact hid ▸ (assignedId_ne_nil k).symm
    · exact h id (List.mem_cons_of_mem _ hmem) k hk
  · -- The counter has not gone back, and the new id is behind it.
    have hnew : r.taskSeq ≤ s.taskSeq ∧ ∀ k, s.taskSeq < k → r.gotoId data ≠ assignedId k := by
      rcases gotoId_cases data r with ⟨taskId, hread, -, hgoto, hcount⟩ | ⟨-, hgoto, hcount⟩
      · rw [hseq, hcount, hgoto]
        exact ⟨le_rfl, hguard data taskId hc hadmits hread⟩
      · rw [hseq, hcount, hgoto]
        refine ⟨Nat.le_succ _, fun k hk heq => ?_⟩
        -- An assigned id is behind the counter that has counted it.
        have hsame := assignedId_injective heq
        omega
    rw [hused]
    intro id hmem k hk
    have hold : r.taskSeq < k := Nat.lt_of_le_of_lt hnew.1 hk
    simp only [Option.toList_some, List.mem_cons, List.mem_append, List.not_mem_nil,
      or_false] at hmem
    rcases hmem with rfl | hmem | rfl
    · rcases hid with hid | hid
      · exact hid ▸ h _ List.mem_cons_self k hold
      · exact hid ▸ hnew.2 k hk
    · exact h id (List.mem_cons_of_mem _ hmem) k hold
    · exact hnew.2 k hk

end FakeRobot

open FakeRobot

/-! ### Runs -/

/-- One callback more uses at most one id more. -/
theorem usedIds_snoc {allow : Node F → Event → Prop} {h : Node.History F} {n : Node F}
    (hrun : Run (Node.step C) allow Node.init h n) (e : Event) (out : List (Output F)) :
    Node.usedIds C (h ++ [(e, out)]) = Node.usedIds C h ++ (n.robot.usedId? e).toList := by
  rw [Node.usedIds, hrun.trace_snoc, List.filterMap_append, Node.usedIds]
  cases hx : n.robot.usedId? e <;> simp [hx]

/-- Every id that was used is behind the counter, or none of the robot's. -/
theorem ids_behind {h : Node.History F} {n : Node F}
    (hrun : Run (Node.step C) (fun n e => n.robot.NotAhead e) Node.init h n) :
    Behind n.robot (Node.usedIds C h) := by
  induction hrun with
  | nil =>
      intro id hmem k _
      have hnil : id = [] := List.mem_singleton.mp hmem
      rw [hnil]
      exact (assignedId_ne_nil k).symm
  | snoc hpre hguard hstep ih =>
      rw [usedIds_snoc hpre]
      exact ih.handle hguard (Node.step_handle hstep)

/-- **Assigned ids are fresh.** In every run in which no goto comes under an id that the robot is
still to assign, a goto without an id that the robot admits gets one that was not used before. It is
planned, and never answered `DONE`. -/
theorem assigned_fresh {h : Node.History F} {n : Node F}
    (hrun : Run (Node.step C) (fun n e => n.robot.NotAhead e) Node.init h n) :
    ∀ pre x m data, pre ++ [x] <+: h → x.1.call = .cmd data → Node.Runs C pre m →
      m.robot.AdmitsGoto data → (extractString data "task_id").getD [] = [] →
      m.robot.gotoId data ∉ Node.usedIds C pre ∧
        x.2.filterMap Output.result? =
          [if m.robot.gotoPath C data = [] then
            .rejected (extractSeq F data) (ascii "CMD_TASK") .unknownTask (m.robot.gotoId data)
          else .accepted (extractSeq F data) (ascii "CMD_TASK") (m.robot.gotoId data)] := by
  intro pre x m data hpre hcall hm hadmits hnone
  obtain ⟨u, hu⟩ := hrun.of_prefix hpre
  obtain ⟨m', hm', -, hstep⟩ := Run.snoc_inv (e := x.1) (o := x.2) hu
  obtain rfl := hm.det (hm'.mono fun _ _ _ => trivial)
  have hbehind := ids_behind hm'
  -- The id is the next one of the counter.
  have hnext : m.robot.gotoId data = assignedId (m.robot.taskSeq + 1) := by
    rcases gotoId_cases data m.robot with ⟨taskId, hread, hsome, -⟩ | ⟨-, hgoto, -⟩
    · rw [hread] at hnone
      exact absurd hnone hsome
    · exact hgoto
  have hfresh : ∀ id ∈ m.robot.taskId :: Node.usedIds C pre, id ≠ m.robot.gotoId data := by
    intro id hid
    rw [hnext]
    exact hbehind id hid _ (Nat.lt_succ_self _)
  refine ⟨fun hused => hfresh _ (List.mem_cons_of_mem _ hused) rfl, ?_⟩
  exact hadmits.planned hcall (hfresh _ List.mem_cons_self) (Node.step_handle hstep)

/-! ### An id that is ahead -/

/-- The callback carries no id that could be an assigned one. -/
def PlainId (e : Event) : Prop :=
  match e.call with
  | .cmd data => ((extractString data "task_id").getD []).head? ≠ some 84
  | _ => True

instance : (e : Event) → Decidable (PlainId e)
  | ⟨_, .cmd data⟩ =>
      inferInstanceAs (Decidable (((extractString data "task_id").getD []).head? ≠ some 84))
  | ⟨_, .configure⟩ | ⟨_, .activate _⟩ | ⟨_, .deactivate⟩ | ⟨_, .cleanup⟩ | ⟨_, .shutdown⟩
  | ⟨_, .console _⟩ | ⟨_, .tick _ _⟩ => instDecidableTrue

/-- An id that is not of the robot's own form is not ahead of its counter. -/
theorem PlainId.notAhead {e : Event} (h : PlainId e) (r : FakeRobot F) : r.NotAhead e := by
  intro data taskId hc _ hid k _ heq
  simp only [PlainId, hc, hid, heq] at h
  exact h rfl

/-- A goto without an id, to the edge of the range. -/
def namelessData : Bytes :=
  ascii "\x7b\"cmd\":\"CMD_TASK\",\"type\":\"goto\",\"x\":20,\"y\":0\x7d"

/-- The event. -/
def namelessEvent : Event := ⟨7, .cmd namelessData⟩

/-- It comes after another goto is done. -/
def namelessStep : Node ℚ × List (Output ℚ) :=
  (Node.step Exact.Cost drivenStep.1 namelessEvent).get
    (by rw [namelessEvent, step_cmd (by decide +kernel)]; rfl)

/-- A goto without an id in a run with one that has its own. -/
theorem assigned_fresh_nameless :
    drivenStep.1.robot.gotoId namelessData ∉ Node.usedIds Exact.Cost drivenHistory := by
  have hplain : ∀ e ∈ drivenHistory.map (fun x => x.1), PlainId e := by decide +kernel
  have hdriven : Run (Node.step (F := ℚ) Exact.Cost) (fun n e => n.robot.NotAhead e) Node.init
      drivenHistory drivenStep.1 := runs_driven.guard fun pre x u hx _ =>
    (hplain x.1 (List.mem_map_of_mem (hx.subset (by simp)))).notAhead u.robot
  have hlast : PlainId namelessEvent := by decide +kernel
  have hstep : Node.step Exact.Cost drivenStep.1 namelessEvent =
      some (namelessStep.1, namelessStep.2) := by
    rw [Prod.mk.eta]
    exact (Option.some_get _).symm
  have hrun := Run.snoc hdriven (hlast.notAhead _) hstep
  exact (assigned_fresh hrun drivenHistory (namelessEvent, namelessStep.2) drivenStep.1
    namelessData (List.prefix_refl _) rfl runs_driven (by decide +kernel) (by decide +kernel)).1

/-- A goto under the first id that the robot is to assign. -/
def squatData : Bytes := ascii ("\x7b\"seq\":7,\"cmd\":\"CMD_TASK\",\"type\":\"goto\"," ++
  "\"task_id\":\"T-1\",\"x\":1.3,\"y\":0\x7d")

/-- The node after it. -/
def squatNode : Node ℚ :=
  { readyNode with
    robot := startGoto (Nav.GridMap.makeCorridorDemo.inflate 1) [(13 / 10, 0)] (13 / 10) 0
      (ascii "T-1") readyNode.robot }

/-- The history of it. -/
def squatHistory : Node.History ℚ :=
  readyHistory ++ [(⟨5, .cmd squatData⟩,
    [.result (.accepted 7 (ascii "CMD_TASK") (ascii "T-1")), .state 5 squatNode.robot])]

/-- The run in which the console takes the next id is a run of the node. -/
theorem runs_squat : Node.Runs Exact.Cost squatHistory squatNode :=
  Run.snoc runs_ready trivial <|
    step_goto (by decide +kernel) (by decide +kernel) (by decide +kernel) (by decide +kernel)
      (by decide +kernel) (by decide +kernel) (by decide +kernel) (by decide +kernel)
      (by decide +kernel) (by decide +kernel) (by decide +kernel) (by decide +kernel)
      (goto_path (by decide +kernel)) (by decide +kernel)

/-- The goto is driven to its end. -/
def squatDoneStep : Node ℚ × List (Output ℚ) :=
  (Node.step Exact.Cost squatNode drivingEvent).get (by decide +kernel)

/-- A goto without an id to another place. -/
def squatNextStep : Node ℚ × List (Output ℚ) :=
  (Node.step Exact.Cost squatDoneStep.1 namelessEvent).get
    (by rw [namelessEvent, step_cmd (by decide +kernel)]; rfl)

/-- A goto without an id is answered `DONE`, under an id that was used before. -/
theorem assigned_twice :
    ∃ (h : Node.History ℚ) (n m : Node ℚ) (out : List (Output ℚ)),
      Node.Runs Exact.Cost h n ∧ Node.step Exact.Cost n namelessEvent = some (m, out) ∧
      n.robot.AdmitsGoto namelessData ∧ (extractString namelessData "task_id").getD [] = [] ∧
      n.robot.gotoId namelessData ∈ Node.usedIds Exact.Cost h ∧
      (out.filterMap Output.result?).map (fun res => res.status) = [.done] := by
  have hdone : Node.Runs Exact.Cost (squatHistory ++ [(drivingEvent, squatDoneStep.2)])
      squatDoneStep.1 := Run.snoc runs_squat trivial (Option.some_get _).symm
  have hstep : Node.step Exact.Cost squatDoneStep.1 namelessEvent =
      some (squatNextStep.1, squatNextStep.2) := by
    rw [Prod.mk.eta]
    exact (Option.some_get _).symm
  have hadmits : squatDoneStep.1.robot.AdmitsGoto namelessData := by decide +kernel
  have hrepeats : squatDoneStep.1.robot.RepeatsDone namelessData := by decide +kernel
  have hanswer : (squatNextStep.2.filterMap Output.result?).map (fun res => res.status) =
    [.done] := by
    obtain ⟨res, hres, hstatus⟩ :=
      handle_goto (P := fun _ res => res.status = .done) (e := namelessEvent) rfl
      hadmits.cmd hadmits.type (Node.step_handle hstep) (fun _ h => absurd h hadmits.free)
      (fun _ h => absurd h hadmits.still) (fun _ _ _ h => absurd h hadmits.inside)
      (fun _ _ _ => rfl)
      (fun _ _ h => absurd hrepeats h) (fun _ _ h => absurd hrepeats h)
    rw [hres, List.map_cons, hstatus]
    rfl
  refine ⟨_, _, _, _, hdone, hstep, hadmits, by decide +kernel, ?_, hanswer⟩
  -- The first goto has used the id.
  have hused : readyNode.robot.usedId? ⟨5, .cmd squatData⟩ =
      some (squatDoneStep.1.robot.gotoId namelessData) := by decide +kernel
  rw [usedIds_snoc runs_squat, squatHistory, usedIds_snoc runs_ready, hused]
  exact List.mem_append_left _ (List.mem_append_right _ List.mem_cons_self)

end BotCockpit.Sim
