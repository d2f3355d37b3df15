import BotCockpit.Proofs.Bridge.Matching
import BotCockpit.Proofs.Bridge.Order

/-!
# `BotCockpit.Proofs.Bridge.Lanes`: the robot handles the commands in the order of sending

The commands of a client go to the robot in two lanes. An ESTOP is published by the receive thread,
and any other command passes the queue and the worker. Each lane keeps the order of sending, and the
cmd topic keeps the order of publication. So what the robot has handled of one lane is a part of
what the client has sent in it, in the same order and nothing twice (`handled_in_order`).

Between the lanes there is no order: an ESTOP overtakes the commands before it.
-/

set_option autoImplicit false

namespace BotCockpit.Bridge

open BotCockpit.Lib
open BotCockpit.Wire (Frame)
open BotCockpit.Sim (Output Node)

/-- The commands of client `c` in one lane, out of a list of jobs. -/
def inLane (c : Nat) (urgent : Bool) (js : List CmdJob) : List Command :=
  (js.filterMap (CmdJob.commandFor? c)).filter fun k => k.urgent = urgent

/-- The commands of a lane in two lists. -/
theorem inLane_append (c : Nat) (urgent : Bool) (js js' : List CmdJob) :
    inLane c urgent (js ++ js') = inLane c urgent js ++ inLane c urgent js' := by
  rw [inLane, List.filterMap_append, List.filter_append]
  rfl

/-- Fewer commands in the list are fewer in the lane. -/
theorem inLane_sublist (c : Nat) (urgent : Bool) {js js' : List CmdJob} (h : js.Sublist js') :
    (inLane c urgent js).Sublist (inLane c urgent js') :=
  (h.filterMap _).filter _

/-- A job that has passed the queue is no ESTOP. -/
theorem inLane_queued (c : Nat) (js : List QueuedJob) :
    inLane c true (js.map QueuedJob.toCmdJob) = [] := by
  refine List.filter_eq_nil_iff.mpr fun k hk => ?_
  obtain ⟨i, hi, hfor⟩ := List.mem_filterMap.mp hk
  obtain ⟨j, hj, rfl⟩ := List.mem_map.mp hi
  unfold CmdJob.commandFor? at hfor
  split at hfor
  · cases hfor
    have hnot : j.command.urgent = false := j.notUrgent
    simp [hnot]
  · cases hfor

namespace Sys

variable {F : Type} [CDouble F] {s t : Sys F} {o : List Obs} {c : Nat} {urgent : Bool}

/-- The jobs in the queue and in the hands of the worker that wait to be published. -/
def ahead (s : Sys F) : List CmdJob := s.worker.waiting ++ s.queue.map QueuedJob.toCmdJob

/-- The commands of a lane that wait to be published, the next one first. -/
def lane (s : Sys F) (c : Nat) (urgent : Bool) : List Command :=
  inLane c urgent s.ahead ++
    ((s.clients c).todo.filterMap RxOp.waiting?).filter fun k => k.urgent = urgent

/-- What every step does to a lane: its front is published, and new commands are put at its end. -/
def Moves (c : Nat) (urgent : Bool) (s t : Sys F) (o : List Obs) : Prop :=
  ∃ new, commandsOf (t.clients c).received = commandsOf (s.clients c).received ++ new ∧
    (inLane c urgent (published o) ++ t.lane c urgent).Sublist
      (s.lane c urgent ++ new.filter fun k => k.urgent = urgent)

/-- A step without new frames. -/
theorem Moves.of_lane (hreceived : (t.clients c).received = (s.clients c).received)
    (hlane : (inLane c urgent (published o) ++ t.lane c urgent).Sublist (s.lane c urgent)) :
    Moves c urgent s t o := by
  refine ⟨[], by rw [hreceived, List.append_nil], ?_⟩
  simpa using hlane

/-- A step that publishes nothing: jobs stay where they are or are dropped. -/
theorem Moves.of_quiet (hreceived : (t.clients c).received = (s.clients c).received)
    (hahead : t.ahead.Sublist s.ahead)
    (htodo : ((t.clients c).todo.filterMap RxOp.waiting?).Sublist
      ((s.clients c).todo.filterMap RxOp.waiting?))
    (hpublished : published o = []) : Moves c urgent s t o := by
  refine Moves.of_lane hreceived ?_
  rw [hpublished]
  exact (inLane_sublist c urgent hahead).append (htodo.filter _)

/-- A step that touches neither the threads nor the queue. -/
theorem Moves.of_same (hclients : t.clients = s.clients) (hahead : t.ahead = s.ahead)
    (hpublished : published o = []) : Moves c urgent s t o := by
  refine Moves.of_quiet (by rw [hclients]) (hahead ▸ List.Sublist.refl _) ?_ hpublished
  rw [hclients]

/-- The client of a thread, and the others. -/
theorem Moves.of_client {d : Nat} {cl : Client}
    (hclients : t.clients = (s.setClient d cl).clients) (hahead : t.ahead = s.ahead)
    (hreceived : cl.received = (s.clients d).received)
    (htodo : (cl.todo.filterMap RxOp.waiting?).Sublist
      ((s.clients d).todo.filterMap RxOp.waiting?))
    (hpublished : published o = []) : Moves c urgent s t o := by
  by_cases hd : c = d
  · subst hd
    refine Moves.of_quiet ?_ (hahead ▸ List.Sublist.refl _) ?_ hpublished <;>
      rw [hclients, setClient_self] <;> assumption
  · refine Moves.of_quiet ?_ (hahead ▸ List.Sublist.refl _) ?_ hpublished <;>
      rw [hclients, setClient_of_ne s cl hd]

/-! ### The receive threads -/

/-- A receiving thread moves the commands of a lane on in their order. -/
theorem RxEffect.moves {d : Nat} {op : RxOp} {rest : List RxOp}
    (htodo : (s.clients d).todo = op :: rest)
    (hstop : ∀ u k, op = .urgent u k → k.urgent = true) (h : RxEffect s d rest op t o) :
    Moves c urgent s t o := by
  -- What is left of the work is a part of it.
  have hrest : (rest.filterMap RxOp.waiting?).Sublist
      ((s.clients d).todo.filterMap RxOp.waiting?) := by
    rw [htodo]
    exact (List.sublist_cons_self op rest).filterMap _
  cases h with
  | plain op helloOk todo o hop htodo' ho =>
      refine Moves.of_client rfl rfl rfl ?_ (published_plain ho)
      rcases htodo' with rfl | ⟨rfl, -, -⟩
      · exact hrest
      · exact List.nil_sublist _
  | enqueue k h =>
      -- The command goes from the batch to the end of the queue.
      refine Moves.of_lane (received_setTodo s d rest c) ?_
      have hahead : ∀ q : QueuedJob, ahead { s.setClient d { s.clients d with todo := rest } with
          queue := s.queue ++ [q] } = s.ahead ++ [q.toCmdJob] := by
        intro q
        simp [ahead, setClient]
      have hnone : published ([] : List Obs) = [] := rfl
      rw [hnone, lane, lane, hahead, inLane_append]
      by_cases hd : c = d
      · subst hd
        have hself : ((s.setClient c { s.clients c with todo := rest }).clients c).todo = rest := by
          rw [setClient_self]
        simp only [setClient] at hself
        simp only [hself, htodo, List.filterMap_cons, RxOp.waiting?, setClient]
        have hone : inLane c urgent [⟨c, k⟩] = [k].filter fun k => k.urgent = urgent := by
          simp [inLane, CmdJob.commandFor?]
        rw [hone, List.append_assoc, ← List.filter_append]
        exact List.Sublist.refl _
      · have hother : ((s.setClient d { s.clients d with todo := rest }).clients c).todo =
            (s.clients c).todo := by
          rw [setClient_of_ne s _ hd]
        simp only [setClient] at hother
        have hone : inLane c urgent [⟨d, k⟩] = [] := by
          simp [inLane, CmdJob.commandFor?, Ne.symm hd]
        simp only [hother, hone, List.append_nil, setClient]
        exact List.Sublist.refl _
  | urgent u k =>
      cases u with
      | publish =>
          -- The emergency stop goes past the queue, straight to the topic.
          let u := s.setClient d { s.clients d with todo := rest }
          obtain ⟨hclients, hqueue, hworker⟩ := publishCmd_rest ⟨d, k⟩ u
          have hahead : (u.publishCmd ⟨d, k⟩).ahead = s.ahead := by
            rw [ahead, hqueue, hworker]
            rfl
          refine Moves.of_lane ?_ ?_
          · show ((u.publishCmd ⟨d, k⟩).clients c).received = _
            rw [hclients]
            exact received_setTodo s d rest c
          · show (inLane c urgent [⟨d, k⟩] ++ (u.publishCmd ⟨d, k⟩).lane c urgent).Sublist _
            rw [lane, lane, hahead, hclients]
            by_cases hd : c = d
            · subst hd
              rw [setClient_self, htodo, List.filterMap_cons]
              have hk := hstop _ k rfl
              cases urgent with
              | true =>
                  -- The other lane has no jobs ahead.
                  have hnone : inLane c true s.ahead = [] := by
                    rw [ahead, inLane_append, inLane_queued, List.append_nil]
                    have hw := inLane_queued c s.worker.job?.toList
                    cases hpc : s.worker <;> simp_all [Worker.waiting, Worker.job?, inLane]
                  have hone : inLane c true [⟨c, k⟩] = [k] := by
                    simp [inLane, CmdJob.commandFor?, hk]
                  simp [hnone, hone, RxOp.waiting?, hk]
              | false =>
                  have hone : inLane c false [⟨c, k⟩] = [] := by
                    simp [inLane, CmdJob.commandFor?, hk]
                  simp [hone, RxOp.waiting?, hk]
            · have hone : inLane c urgent [⟨d, k⟩] = [] := by
                simp [inLane, CmdJob.commandFor?, Ne.symm hd]
              rw [setClient_of_ne s _ hd, hone]
              exact List.Sublist.refl _
      | raise => exact Moves.of_client rfl rfl rfl hrest rfl
      | storeSeq => exact Moves.of_client rfl rfl rfl hrest rfl
      | storeValid => exact Moves.of_client rfl rfl rfl hrest rfl
      | register => exact Moves.of_client rfl rfl rfl hrest rfl

/-! ### The worker, the executor and the robot -/

/-- The worker drops its job, or keeps it. -/
theorem Moves.of_pc (hclients : t.clients = s.clients) (hqueue : t.queue = s.queue)
    (hworker : t.worker.waiting.Sublist s.worker.waiting) (hpublished : published o = []) :
    Moves c urgent s t o := by
  refine Moves.of_quiet (by rw [hclients]) ?_ ?_ hpublished
  · rw [ahead, ahead, hqueue]
    exact hworker.append_right _
  · rw [hclients]

/-- So does the worker. -/
theorem WorkerEffect.moves (h : WorkerEffect s t o) : Moves c urgent s t o := by
  cases h with
  | pop j queue hpc hqueue =>
      -- The job goes from the queue to the worker.
      refine Moves.of_same rfl ?_ rfl
      simp [ahead, hpc, hqueue, Worker.waiting]
  | drop j hpc => exact Moves.of_pc rfl rfl (List.nil_sublist _) rfl
  | early j w hpc hnext =>
      refine Moves.of_pc rfl rfl ?_ rfl
      show w.waiting.Sublist s.worker.waiting
      rw [hpc.waiting, hnext.waiting]
  | refuse j reason o hpc ho =>
      refine Moves.of_pc rfl rfl (List.nil_sublist _) ?_
      rcases ho with rfl | rfl <;> rfl
  | register j hpc => exact Moves.of_pc rfl rfl (by simp [hpc, Worker.waiting]) rfl
  | publish j hpc =>
      obtain ⟨hclients, hqueue, -⟩ := publishCmd_rest j.toCmdJob s
      refine Moves.of_lane ?_ ?_
      · show ((s.publishCmd j.toCmdJob).clients c).received = _
        rw [hclients]
      · have hahead : s.ahead = [j.toCmdJob] ++
            ahead { s.publishCmd j.toCmdJob with worker := .enter j } := by
          simp [ahead, hpc, Worker.waiting, hqueue]
        show (inLane c urgent [j.toCmdJob] ++
          lane { s.publishCmd j.toCmdJob with worker := .enter j } c urgent).Sublist _
        rw [lane, lane, hahead, inLane_append, List.append_assoc]
        simp only [hclients]
        exact List.Sublist.refl _
  | wait j w hpc hnext hraised =>
      refine Moves.of_pc rfl rfl ?_ rfl
      show w.waiting.Sublist s.worker.waiting
      rw [hnext.waiting]
      exact List.nil_sublist _
  | giveUp j reason hpc => exact Moves.of_pc rfl rfl (List.nil_sublist _) rfl
  | take j deadline p hpc hpending hdone => exact Moves.of_pc rfl rfl (List.nil_sublist _) rfl
  | ack j text hpc => exact Moves.of_pc rfl rfl (List.nil_sublist _) (flow_sendFrame ..).1

/-- So do the callbacks. -/
theorem RosEffect.moves (h : RosEffect s t o) : Moves c urgent s t o := by
  cases h with
  | ackNext m seq d clients _ =>
      refine Moves.of_same rfl rfl ?_
      split
      · exact (flow_sendFrame ..).1
      · rfl
  | other r lastMs console o _ _ ho => exact Moves.of_same rfl rfl (published_plain ho)
  | _ => exact Moves.of_same rfl rfl rfl

/-! ### New frames -/

/-- The commands of a batch, lane by lane, in the order of sending. -/
theorem lane_batchOps (batch : List (Frame × Nat)) (urgent : Bool) :
    ((batchOps batch).filterMap RxOp.waiting?).filter (fun k => k.urgent = urgent) =
      (batch.filterMap Command.of?).filter fun k => k.urgent = urgent := by
  have hflat : ∀ b : List (Frame × Nat),
      (b.flatMap fun x => handleFrame x.2 x.1 ++ [RxOp.checkFd]).filterMap RxOp.waiting? =
        b.filterMap Command.of? := by
    intro b
    induction b with
    | nil => rfl
    | cons x b ih =>
        rw [List.flatMap_cons, List.filterMap_append, ih, filterMap_waiting_handleFrame,
          List.filterMap_cons]
        cases Command.of? x <;> rfl
  unfold batchOps
  rw [hflat]
  cases urgent with
  | true =>
      have h := filterMap_estopFirst batch Command.urgent (Or.inl rfl)
      rw [← List.filter_filterMap] at h
      simpa using h
  | false =>
      have h := filterMap_estopFirst batch (fun k => !k.urgent) (Or.inr rfl)
      rw [← List.filter_filterMap] at h
      simpa using h

/-- One `recv`: the new commands are put at the ends of their lanes. -/
theorem receive_moves {d : Nat} (chunk : Bytes) (htodo : (s.clients d).todo = []) :
    Moves c urgent s (s.setClient d ((s.clients d).receive chunk)) [] := by
  by_cases hd : c = d
  · subst hd
    obtain ⟨frames, rest, hdrain⟩ :
        ∃ frames rest, drain next ((s.clients c).buffer ++ chunk) = (frames, rest) := ⟨_, _, rfl⟩
    have hreceive : (s.clients c).receive chunk =
        { s.clients c with
          buffer := rest
          received := (s.clients c).received ++ frames
          todo := batchOps (frames.zipIdx (s.clients c).received.length) } := by
      simp only [Client.receive, hdrain]
    refine ⟨(frames.zipIdx (s.clients c).received.length).filterMap Command.of?, ?_, ?_⟩
    · rw [setClient_self, hreceive, commandsOf, commandsOf, List.zipIdx_append,
        List.filterMap_append]
      simp
    · have hnone : inLane c urgent (published []) = [] := rfl
      have hahead : (s.setClient c ((s.clients c).receive chunk)).ahead = s.ahead := rfl
      rw [hnone, List.nil_append, lane, lane, setClient_self, hahead, hreceive, htodo]
      simp only [lane_batchOps, List.filterMap_nil, List.filter_nil, List.append_nil]
      exact List.Sublist.refl _
  · refine Moves.of_lane ?_ ?_
    · rw [setClient_of_ne s _ hd]
    · have hnone : inLane c urgent (published []) = [] := rfl
      have hahead : (s.setClient d ((s.clients d).receive chunk)).ahead = s.ahead := rfl
      rw [hnone, List.nil_append, lane, lane, setClient_of_ne s _ hd, hahead]

/-! ### Every step and every run -/

variable {C : Type} [CFloat C] {allow : Sys F → Event → Prop} {h : List (Event × List Obs)}

/-- So does every step of a run. -/
theorem Runs.moves (hrun : Runs C allow h s) {e : Event} (hstep : s.step C e = some (t, o)) :
    Moves c urgent s t o := by
  cases step_effect hstep with
  | accept => exact Moves.of_client rfl rfl rfl (List.Sublist.refl _) rfl
  | recv d chunk htodo => exact receive_moves chunk htodo
  | gone e d _ => exact Moves.of_client rfl rfl rfl (List.Sublist.refl _) rfl
  | rx d nowMs op rest t o htodo heffect =>
      exact heffect.moves htodo fun u k hop => hrun.urgent (hop ▸ htodo)
  | worker nowMs steady t o heffect => exact heffect.moves
  | takeResult m topic _ _ => exact Moves.of_same rfl rfl rfl
  | takeOther e r json topic _ _ _ => exact Moves.of_same rfl rfl rfl
  | ros nowMs t o heffect => exact heffect.moves
  | robotCmd nowMs j topic node out _ _ => exact Moves.of_same rfl rfl rfl
  | robot e call console node out _ _ _ => exact Moves.of_same rfl rfl rfl
  | lose topic i => cases topic <;> exact Moves.of_same rfl rfl rfl

/-- **A lane keeps the order of sending.** What was published of it, and what still waits in it, is
a part of what the client has sent in it. -/
theorem Runs.lane_order (hrun : Runs C allow h s) (c : Nat) (urgent : Bool) :
    (inLane c urgent (published (shown h)) ++ s.lane c urgent).Sublist
      ((commandsOf (s.clients c).received).filter fun k => k.urgent = urgent) := by
  induction hrun with
  | nil => exact List.nil_sublist _
  | @snoc h s t e o hrun _ hstep ih =>
      obtain ⟨new, hnew, hmoves⟩ : Moves c urgent s t o := Runs.moves hrun hstep
      rw [shown_snoc, published_append, inLane_append, List.append_assoc, hnew, List.filter_append]
      calc (inLane c urgent (published (shown h)) ++
              (inLane c urgent (published o) ++ t.lane c urgent)).Sublist
            (inLane c urgent (published (shown h)) ++
              (s.lane c urgent ++ new.filter fun k => k.urgent = urgent)) :=
            List.Sublist.append_left hmoves _
        _ = (inLane c urgent (published (shown h)) ++ s.lane c urgent) ++
              new.filter fun k => k.urgent = urgent := (List.append_assoc ..).symm
        List.Sublist _ _ := ih.append_right _

/-- **The robot handles the commands of a lane in the order in which their client has sent them**,
each at most once, and nothing else. -/
theorem handled_in_order (hrun : Runs C allow h s) (c : Nat) (urgent : Bool) :
    (inLane c urgent (processed (shown h))).Sublist
      ((commandsOf (s.clients c).received).filter fun k => k.urgent = urgent) := by
  have hfifo : (processed (shown h)).Sublist (published (shown h)) :=
    (List.sublist_append_left _ _).trans hrun.fifo
  exact (inLane_sublist c urgent hfifo).trans
    ((List.sublist_append_left _ _).trans (hrun.lane_order c urgent))

/-- The run with numbered commands, and the system after it. -/
def numberedRun : List (Event × List Obs) × Sys ℚ :=
  (exec (step (F := ℚ) Exact.Cost) freshSeq init numberedEvents).get exec_numbered

/-- The robot handles commands there, those of client 0 in the order of sending. -/
theorem handled_in_order_numbered :
    inLane 0 false (processed (shown numberedRun.1)) ≠ [] ∧
      (inLane 0 false (processed (shown numberedRun.1))).Sublist
        ((commandsOf (numberedRun.2.clients 0).received).filter fun k => k.urgent = false) :=
  ⟨by decide +kernel, handled_in_order (Run.of_exec (Option.some_get exec_numbered).symm) 0 false⟩

end Sys

end BotCockpit.Bridge
