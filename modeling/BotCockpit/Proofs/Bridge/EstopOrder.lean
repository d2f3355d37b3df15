import BotCockpit.Proofs.Bridge.Batch
import BotCockpit.Proofs.Bridge.Robot

/-!
# `BotCockpit.Proofs.Bridge.EstopOrder`: an ESTOP and the RESETs sent before it

An ESTOP does not wait in the queue, so a RESET that its client has sent before it may be
published after it. The robot then takes the RESET after the ESTOP and lifts the stop:
`reset_undoes_estop` is such a run.

`estop_not_undone` is the promise under the condition that the code would have to establish: no
older RESET of the same client waits when an ESTOP is published. It rests on two invariants. The
published commands are in an order in which no RESET follows a younger ESTOP (`Runs.ordered`),
and the robot takes them in that order.
-/

set_option autoImplicit false

namespace BotCockpit.Bridge.Sys

open BotCockpit.Lib
open BotCockpit.Sim (FakeRobot Output Node)

variable {F : Type} [CDouble F] {C : Type} [CFloat C]

/-! ### The order of publication -/

/-- `b` is no RESET that was sent before the ESTOP `a` on the same connection. -/
def Follows (a b : CmdJob) : Prop :=
  a.urgent = true → b.reset = true → a.client = b.client → a.index ≤ b.index

/-- What is published is in order, and so will be what waits. -/
structure Ordered (h : List (Event × List Obs)) (s : Sys F) : Prop where
  published : (published (shown h)).Pairwise Follows
  waiting : ∀ a ∈ Bridge.published (shown h), ∀ b : CmdJob,
    0 < s.waiting b.client (fun i => decide (i = b)) → Follows a b

/-- A published command is one of the frames of its client. -/
theorem Runs.index_lt {allow : Sys F → Event → Prop} {h : List (Event × List Obs)} {s : Sys F}
    (hrun : Runs C allow h s) {a : CmdJob} (ha : a ∈ published (shown h)) :
    a.index < (s.clients a.client).received.length := by
  refine index_lt_of_commands (Nat.lt_of_lt_of_le ?_ (hrun.ledger a.client fun i => decide (i = a)))
  have hpos : 0 < (published (shown h)).countP
      (fun i => decide (i.client = a.client) && decide (i = a)) :=
    List.countP_pos_iff.mpr ⟨a, ha, by simp⟩
  omega

/-- **The order of publication**, over every run under the condition. -/
theorem Runs.ordered {h : List (Event × List Obs)} {s : Sys F}
    (hrun : Runs C noOlderReset h s) : Ordered h s := by
  induction hrun with
  | nil => exact ⟨List.Pairwise.nil, fun a ha => absurd ha List.not_mem_nil⟩
  | @snoc h s t e o hrun hallow hstep ih =>
      have hflow := step_flow hstep
      -- What the step publishes or makes wait follows everything published before it.
      have hold : ∀ a ∈ Bridge.published (shown h), ∀ b : CmdJob,
          0 < t.waiting b.client (fun i => decide (i = b)) ∨ b ∈ Bridge.published o →
            Follows a b := by
        intro a ha b hb
        rcases hflow.old_or_new hb with hwait | hnew
        · exact ih.waiting a ha b hwait
        · intro _ _ hclient
          have hlt := Runs.index_lt hrun ha
          rw [hclient] at hlt
          omega
      -- And what waits after it follows an ESTOP that the step publishes.
      have hown : ∀ a ∈ Bridge.published o, ∀ b : CmdJob,
          0 < t.waiting b.client (fun i => decide (i = b)) → Follows a b := by
        intro a ha b hb hurgent hreset hclient
        rcases step_published hstep with hnone | ⟨c, nowMs, k, rest, rfl, htodo, hsame, hpub⟩ |
          ⟨j, -, hpub⟩
        · rw [hnone] at ha
          exact absurd ha List.not_mem_nil
        · rw [hpub, List.mem_singleton] at ha
          subst ha
          simp only [noOlderReset, htodo] at hallow
          by_contra hlt
          have hcount := hflow.waiting c fun r => r.reset && decide (r.index < k.index)
          rw [commands_congr (hsame c), hallow] at hcount
          have hpos : t.waiting c (fun i => decide (i = b)) ≤
              t.waiting c (fun r => r.reset && decide (r.index < k.index)) := by
            refine waiting_mono t c fun i hi => ?_
            rw [of_decide_eq_true hi, hreset]
            exact decide_eq_true (Nat.lt_of_not_le hlt)
          have hc : c = b.client := hclient
          rw [← hc] at hb
          omega
        · rw [hpub, List.mem_singleton] at ha
          rw [ha] at hurgent
          have := j.notUrgent
          simp [CmdJob.urgent, this] at hurgent
      refine ⟨?_, fun a ha b hb => ?_⟩
      · rw [shown_snoc, published_append, List.pairwise_append]
        refine ⟨ih.published, ?_, fun a ha b hb => hold a ha b (Or.inr hb)⟩
        rcases step_published hstep with hnone | ⟨c, nowMs, k, rest, -, -, -, hpub⟩ | ⟨j, -, hpub⟩
        · rw [hnone]
          exact List.Pairwise.nil
        · rw [hpub]
          exact List.pairwise_singleton ..
        · rw [hpub]
          exact List.pairwise_singleton ..
      · rw [shown_snoc, published_append, List.mem_append] at ha
        rcases ha with ha | ha
        · exact hold a ha b (Or.inl hb)
        · exact hown a ha b hb

/-! ### The robot -/

/-- The name of a forwarded command says whether it is a RESET. -/
theorem reset_of_cmdName {j : CmdJob} (h : j.cmdName = ascii "CMD_RESET") : j.reset = true := by
  have hall : ∀ type ∈ commandTypes, ascii (msgTypeName type) = ascii "CMD_RESET" →
      decide (type = msgCmdReset) = true := List.forall_iff_forall_mem.mp (by decide +kernel)
  exact hall _ j.command.forwarded h

/-- An urgent command is the emergency stop. -/
theorem cmdName_of_urgent {j : CmdJob} (h : j.urgent = true) : j.cmdName = ascii "CMD_ESTOP" := by
  have htype : j.command.frame.type = msgCmdEstop := of_decide_eq_true h
  unfold CmdJob.cmdName
  rw [htype]
  decide

/-- The robot stops at an ESTOP. -/
theorem step_stops {s t : Sys F} {e : Event} {o : List Obs} (h : s.step C e = some (t, o))
    {j : CmdJob} (hj : j ∈ processed o) (hurgent : j.urgent = true) :
    t.node.robot.estop = true := by
  cases step_node h with
  | none _ hprocessed => simp [hprocessed] at hj
  | other _ _ _ _ _ hprocessed => simp [hprocessed] at hj
  | cmd nowMs i out hnode ho =>
      subst ho
      obtain rfl : j = i := List.mem_singleton.mp hj
      obtain ⟨-, hdispatch⟩ := node_step_cmd hnode
      have hestop : FakeRobot.dispatch C (request nowMs j) s.node.robot =
          FakeRobot.cmdEstop (request nowMs j) s.node.robot := by
        unfold FakeRobot.dispatch
        exact if_pos (Or.inr (cmdName_of_urgent hurgent))
      obtain ⟨r, res, ha, -, hstopped, -⟩ :=
        FakeRobot.cmdEstop_spec (request nowMs j) s.node.robot
      rw [← hestop, hdispatch] at ha
      rw [show t.node.robot = r from ha.state]
      exact hstopped

/-- A stopped robot stays stopped over a step with no RESET and no configuration. -/
theorem step_stays {s t : Sys F} {e : Event} {o : List Obs} (h : s.step C e = some (t, o))
    (hinv : s.node.robot.Inv) (hestop : s.node.robot.estop = true)
    (hreset : ∀ r ∈ processed o, r.reset = false) (hconf : NotConfigured (e, o)) :
    t.node.robot.estop = true := by
  cases step_node h with
  | none hnode _ => rw [hnode, hestop]
  | other call out hcall hconf' hnode _ =>
      have hcall' : call.call ≠ .configure := by
        refine hconf' fun x hx h => hconf ?_
        rw [hx]
        exact congrArg some h
      refine (FakeRobot.handle_latched hinv hestop hcall' ?_ (Sim.Node.step_handle hnode)).1
      rintro ⟨⟨data, hdata, -⟩, -⟩
      exact hcall data hdata
  | cmd nowMs j out hnode ho =>
      refine (FakeRobot.handle_latched hinv hestop Sim.Call.noConfusion ?_
        (Sim.Node.step_handle hnode)).1
      rintro ⟨⟨data, hdata, hcmd⟩, -⟩
      obtain rfl : cmdEnvelope j.cmdName j.seq j.payload = data := Sim.Call.cmd.inj hdata
      have hname := extractString_cmdEnvelope (plain_name j.command.forwarded) j.seq j.payload
      have hcmd : j.cmdName = ascii "CMD_RESET" := Option.some.inj (hname.symm.trans hcmd)
      have hno := hreset j (by rw [ho]; exact List.mem_singleton.mpr rfl)
      rw [reset_of_cmdName hcmd] at hno
      cases hno

/-- Since the robot has handled the ESTOP `e`, with no RESET and no configuration after it, it is
stopped. -/
theorem Runs.stopped {allow : Sys F → Event → Prop} {h : List (Event × List Obs)} {s : Sys F}
    (hrun : Runs C allow h s) {e : CmdJob} (he : e.urgent = true)
    (hsince : Since (Processes e)
      (fun x => (∀ r ∈ processed x.2, r.reset = false) ∧ NotConfigured x) h) :
    s.node.robot.estop = true := by
  induction hrun with
  | nil =>
      obtain ⟨x, hx, -⟩ := hsince.exists_mem
      exact absurd hx List.not_mem_nil
  | @snoc h s t a o hrun _ hstep ih =>
      obtain ⟨pre, x, post, hsplit, hx, hpost⟩ := hsince
      rcases List.eq_nil_or_concat post with rfl | ⟨post', y, rfl⟩
      · -- The ESTOP is handled in the last step.
        obtain ⟨-, hlast⟩ := List.append_inj' hsplit rfl
        obtain rfl : (a, o) = x := List.singleton_inj.mp hlast
        exact step_stops hstep hx he
      · -- It was handled before, and the last step keeps the stop.
        have hsplit' : h ++ [(a, o)] = (pre ++ x :: post') ++ [y] := by
          rw [hsplit]
          simp
        obtain ⟨rfl, hlast⟩ := List.append_inj' hsplit' rfl
        obtain rfl : (a, o) = y := List.singleton_inj.mp hlast
        have hstopped := ih ⟨pre, x, post', rfl, hx, fun z hz => hpost z (by simp [hz])⟩
        obtain ⟨g, hg⟩ := Runs.node hrun
        obtain ⟨hreset, hconf⟩ := hpost (a, o) (by simp)
        exact step_stays hstep hg.inv hstopped hreset hconf

/-! ### The promise and its failure -/

/-- **An ESTOP is not undone by an older RESET**, in every run in which no older RESET of the
same client waits when an ESTOP is published. Once the robot has handled the ESTOP `e` it is
stopped, until it handles a RESET that was sent after `e`, or is configured anew. -/
theorem estop_not_undone {h : List (Event × List Obs)} {s : Sys F}
    (hrun : Runs C noOlderReset h s) {e : CmdJob} (he : e.urgent = true)
    (hsince : Since (Processes e) (fun x => OlderResets e x ∧ NotConfigured x) h) :
    s.node.robot.estop = true := by
  refine Runs.stopped hrun he ?_
  have hordered : (processed (shown h)).Pairwise Follows :=
    (Runs.ordered hrun).published.sublist
      ((List.sublist_append_left _ _).trans (Runs.fifo hrun))
  obtain ⟨pre, x, post, rfl, hx, hpost⟩ := hsince
  refine ⟨pre, x, post, rfl, hx, fun y hy => ⟨fun r hr => ?_, (hpost y hy).2⟩⟩
  by_contra hreset
  rw [Bool.not_eq_false] at hreset
  obtain ⟨hclient, hlt⟩ := (hpost y hy).1 r hr hreset
  -- The robot takes the commands in order, so a RESET after `e` is a younger one.
  have hsplit : shown (pre ++ x :: post) = shown (pre ++ [x]) ++ shown post := by
    simp [shown]
  rw [hsplit, processed_append, List.pairwise_append] at hordered
  have hx' : e ∈ processed (shown (pre ++ [x])) := by
    rw [shown_snoc, processed_append]
    exact List.mem_append_right _ hx
  have hr' : r ∈ processed (shown post) := by
    obtain ⟨o, ho, hro⟩ := List.mem_filterMap.mp hr
    exact List.mem_filterMap.mpr ⟨o, List.mem_flatMap.mpr ⟨y, hy, ho⟩, hro⟩
  have hfollows := hordered.2.2 e hx' r hr' he hreset hclient.symm
  omega

/-- The ESTOP with sequence number 3, which is the third frame of its connection. -/
def thirdEstop : CmdJob :=
  { client := 0
    command := { index := 2, frame := { type := msgCmdEstop, flags := 0, seq := 3, payload := [] },
                 forwarded := by decide } }

/-- The client sends a RESET and then an ESTOP. Both have been received before the worker wakes
up, and the ESTOP is published first. -/
def undoneEvents : List Event :=
  bringUp ++
    [Event.recv 0 (clientFrame msgCmdReset 2 "\x7b\"confirm\":true\x7d"), .rx 0 6, .rx 0 6,
      .recv 0 (clientFrame msgCmdEstop 3 "")] ++
    List.replicate 6 (Event.rx 0 7) ++ [Event.robotCmd 8] ++ List.replicate 6 (Event.worker 9 0) ++
      [Event.robotCmd 10]

/-- The run of these events. -/
def undoneRun : List (Event × List Obs) × Sys ℚ :=
  (exec (step Exact.Cost) anyStep init undoneEvents).get (by decide +kernel)

/-- The robot has handled the ESTOP, has handled no RESET since but the older one, and runs. -/
theorem reset_undoes_estop :
    ∃ (h : List (Event × List Obs)) (s : Sys ℚ), Runs Exact.Cost anyStep h s ∧
      thirdEstop.urgent = true ∧
      Since (Processes thirdEstop) (fun x => OlderResets thirdEstop x ∧ NotConfigured x) h ∧
      s.node.robot.estop = false := by
  refine ⟨undoneRun.1, undoneRun.2, Run.of_exec (Option.some_get _).symm, by decide, ?_, ?_⟩
  · decide +kernel
  · decide +kernel

/-- The worker publishes the RESET before the ESTOP arrives. -/
def orderedEvents : List Event :=
  bringUp ++
    [Event.recv 0 (clientFrame msgCmdReset 2 "\x7b\"confirm\":true\x7d"), .rx 0 6, .rx 0 6] ++
    List.replicate 6 (Event.worker 7 0) ++ [Event.recv 0 (clientFrame msgCmdEstop 3 "")] ++
    List.replicate 6 (Event.rx 0 8) ++ [Event.robotCmd 9, .robotCmd 10]

/-- The events of the run are possible. -/
theorem exec_ordered :
    (exec (step (F := ℚ) Exact.Cost) noOlderReset init orderedEvents).isSome = true := by
  decide +kernel

/-- The robot is stopped after it has handled the RESET and then the ESTOP. -/
theorem estop_not_undone_ordered :
    ((exec (step (F := ℚ) Exact.Cost) noOlderReset init orderedEvents).get
      exec_ordered).2.node.robot.estop = true :=
  estop_not_undone (Run.of_exec (Option.some_get exec_ordered).symm)
    (e := thirdEstop) (by decide) (by decide +kernel)

end BotCockpit.Bridge.Sys
