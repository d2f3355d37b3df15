import BotCockpit.Proofs.Bridge.Results

/-!
# `BotCockpit.Proofs.Bridge.Acks`: who is told

The worker tells the client of its job. `complete_async_ack` tells every client, also the ones that
have not sent the ESTOP. `Runs.acks_le` is about the runs in which it tells only the one that has.
It is a ledger: an ACK that a client is still to get (`Sys.owed`), and every one that it was sent,
is for one of its commands.
-/

set_option autoImplicit false

namespace BotCockpit.Bridge

open BotCockpit.Lib
open BotCockpit.Sim (CmdResult Output Node)

/-- The job whose ACK the worker will send, from its publication on. -/
def Worker.answering : Worker → List CmdJob
  | .enter j | .loop j _ | .checkRaised j _ | .abort j | .checkDone j _ | .expired j | .ack j _ =>
      [j.toCmdJob]
  | _ => []

/-- The command whose client may still be told by the executor. -/
def Ros.telling : Ros → List CmdJob
  | .result m | .validSeen m _ | .lower m _ _ | .invalidate m _ _ | .complete m _ _ => [m.job]
  | .ackClients m _ clients => if m.job.client ∈ clients then [m.job] else []
  | _ => []

/-- A worker that is early in its job has no answer to give yet. -/
theorem Worker.Early.answering {j : QueuedJob} {w : Worker} (h : w.Early j) :
    w.answering = [] := by
  cases h <;> rfl

/-- A worker that waits owes one answer, to its job. -/
theorem Worker.Waits.answering {j : QueuedJob} {w : Worker} (h : w.Waits j) :
    w.answering = [j.toCmdJob] := by
  cases h <;> rfl

/-- Where no result is being handled nobody is told of one. -/
theorem Ros.telling_of_none {r : Ros} (h : r.msg? = none) : r.telling = [] := by
  cases r <;> first | rfl | cases h

/-- The acknowledgements of two lists of observations. -/
theorem acks_append (c : Nat) (o o' : List Obs) : acks c (o ++ o') = acks c o ++ acks c o' :=
  List.filterMap_append

/-- The frames of two lists of observations. -/
theorem framesTo_append (c : Nat) (o o' : List Obs) :
    framesTo c (o ++ o') = framesTo c o ++ framesTo c o' :=
  List.filterMap_append

/-- Plain observations hold no acknowledgement. -/
theorem acks_plain {c : Nat} {o : List Obs} (h : ∀ x ∈ o, x.Plain) : acks c o = [] := by
  refine List.filterMap_eq_nil_iff.mpr fun x hx => ?_
  cases x with
  | sent d f =>
      have htype : f.type ≠ msgCmdAck := h _ hx
      simp [Obs.ack?, htype]
  | _ => rfl

namespace Sys

variable {F : Type} [CDouble F] {C : Type} [CFloat C] {s t : Sys F} {e : Event} {o : List Obs}
  {allow : Sys F → Event → Prop} {h : List (Event × List Obs)}

/-- The ESTOPs for which the robot or the executor may still cause an ACK. -/
def estops (s : Sys F) : List CmdJob :=
  (s.cmdTopic ++ s.resultTopic.map (·.job) ++ s.ros.telling).filter CmdJob.urgent

/-- How many ACKs for commands with `p` client `c` is still to get, at most. -/
def owed (s : Sys F) (c : Nat) (p : CmdJob → Bool) : Nat :=
  s.waiting c p + s.worker.answering.countP (fun j => j.client = c && p j) +
    s.estops.countP (fun j => j.client = c && p j)

/-- One frame is one acknowledgement at most, to its client and with its number. -/
theorem count_sendFrame_le (s : Sys F) (c d : Nat) (type : UInt8) (seq q : UInt16)
    (payload : Bytes) :
    (acks c (s.sendFrame d type seq payload)).count q ≤ if d = c ∧ seq = q then 1 else 0 := by
  unfold sendFrame
  split
  · by_cases hd : d = c
    · by_cases htype : type = msgCmdAck
      · simp [acks, Obs.ack?, hd, htype, List.count_singleton]
      · simp [acks, Obs.ack?, htype]
    · simp [acks, Obs.ack?, hd]
  · exact Nat.zero_le _

/-- What every step does to the ledger of ACKs. -/
def Owes (s t : Sys F) (o : List Obs) : Prop :=
  ∀ c q, let p : CmdJob → Bool := fun j => decide (j.seq = q)
    (acks c o).count q + t.owed c p + s.commands c p ≤ s.owed c p + t.commands c p

/-- A step that sends no ACK, and brings no ESTOP nearer to the robot. -/
theorem Owes.of_flow (hflow : Flow s t o) (hacks : ∀ c, acks c o = [])
    (hpub : published o = []) (hworker : t.worker.answering.Sublist s.worker.answering)
    (hestops : ∀ p, t.estops.countP p ≤ s.estops.countP p) : Owes s t o := by
  intro c q p
  have hwait := hflow.waiting c p
  have h₁ := hworker.countP_le (p := fun j => j.client = c && p j)
  have h₂ := hestops fun j => j.client = c && p j
  rw [hpub, List.countP_nil] at hwait
  rw [hacks c, List.count_nil]
  unfold owed
  omega

/-- A job that is published is owed an ACK by its thread: the worker, or for an ESTOP the
executor. -/
theorem Owes.of_publish {j : CmdJob} (hflow : Flow s t [.published j])
    (hreceived : ∀ c, (t.clients c).received = (s.clients c).received)
    (howed : ∀ p : CmdJob → Bool, t.worker.answering.countP p + t.estops.countP p ≤
      s.worker.answering.countP p + s.estops.countP p + if p j = true then 1 else 0) :
    Owes s t [.published j] := by
  intro c q p
  have hwait := hflow.waiting c p
  have howed' := howed fun i => i.client = c && p i
  have hcount : (published [.published j]).countP (fun i => i.client = c && p i) =
      if (decide (j.client = c) && p j) = true then 1 else 0 := by
    simp [published, Obs.published?, List.countP_cons]
  have hacks : acks c [.published j] = [] := rfl
  rw [hcount, commands_congr (hreceived c)] at hwait
  rw [hacks, List.count_nil, commands_congr (hreceived c)]
  unfold owed
  omega

/-- The stops on their way, counted place by place. -/
theorem countP_estops (s : Sys F) (p : CmdJob → Bool) :
    s.estops.countP p = s.cmdTopic.countP (fun j => p j && j.urgent) +
      s.resultTopic.countP (fun m => p m.job && m.job.urgent) +
      s.ros.telling.countP (fun j => p j && j.urgent) := by
  simp only [estops, List.countP_filter, List.countP_append, List.countP_map, Function.comp_def]

/-- Publishing a command puts at most that one stop on its way. -/
theorem publishCmd_estops (j : CmdJob) (s : Sys F) (p : CmdJob → Bool) :
    (s.publishCmd j).estops.countP p ≤
      s.estops.countP p + if j.urgent = true ∧ p j = true then 1 else 0 := by
  rw [countP_estops, countP_estops]
  unfold publishCmd
  split
  · simp only [List.countP_append, List.countP_singleton, Bool.and_eq_true, and_comm]
    omega
  · exact Nat.le_add_right _ _

/-- What a receiving thread acknowledges is covered by a command it takes. -/
theorem RxEffect.owes {c : Nat} {op : RxOp} {rest : List RxOp}
    (htodo : (s.clients c).todo = op :: rest) (h : RxEffect s c rest op t o) : Owes s t o := by
  have hflow := h.flow htodo
  cases h with
  | plain op helloOk todo o hop htodo' ho =>
      exact Owes.of_flow hflow (fun _ => acks_plain ho) (published_plain ho) (List.Sublist.refl _)
        fun _ => Nat.le_refl _
  | enqueue k h =>
      exact Owes.of_flow hflow (fun _ => rfl) rfl (List.Sublist.refl _) fun _ => Nat.le_refl _
  | urgent u k =>
      cases u with
      | publish =>
          let s' := s.setClient c { s.clients c with todo := rest }
          obtain ⟨hclients, -, hworker⟩ := publishCmd_rest ⟨c, k⟩ s'
          refine Owes.of_publish hflow (fun d => ?_) fun p => ?_
          · show ((s'.publishCmd ⟨c, k⟩).clients d).received = _
            rw [hclients]
            exact received_setTodo s c rest d
          · have hestops := publishCmd_estops ⟨c, k⟩ s' p
            have hle : (if (CmdJob.mk c k).urgent = true ∧ p ⟨c, k⟩ = true then 1 else 0) ≤
                if p ⟨c, k⟩ = true then 1 else 0 := by
              split <;> split <;> simp_all
            show (s'.publishCmd ⟨c, k⟩).worker.answering.countP p +
              (s'.publishCmd ⟨c, k⟩).estops.countP p ≤ _
            rw [hworker, Nat.add_assoc]
            exact Nat.add_le_add_left (Nat.le_trans hestops (Nat.add_le_add_left hle _)) _
      | _ => exact Owes.of_flow hflow (fun _ => rfl) rfl (List.Sublist.refl _) fun _ =>
          Nat.le_refl _

/-- A worker about to acknowledge owes exactly its job's acknowledgement. -/
theorem countP_answering_ack (j : QueuedJob) (text : Bytes) (c : Nat) (p : CmdJob → Bool) :
    (Worker.ack j text).answering.countP (fun i => i.client = c && p i) =
      if j.client = c ∧ p j.toCmdJob = true then 1 else 0 := by
  simp [Worker.answering, List.countP_singleton]

/-- What the worker acknowledges it owed before. -/
theorem WorkerEffect.owes (h : WorkerEffect s t o) : Owes s t o := by
  have hflow := h.flow
  cases h with
  | pop j queue hpc hqueue =>
      exact Owes.of_flow hflow (fun _ => rfl) rfl (List.nil_sublist _) fun _ => Nat.le_refl _
  | drop j hpc =>
      exact Owes.of_flow hflow (fun _ => rfl) rfl (List.nil_sublist _) fun _ => Nat.le_refl _
  | early j w hpc hnext =>
      refine Owes.of_flow hflow (fun _ => rfl) rfl ?_ fun _ => Nat.le_refl _
      rw [show Worker.answering w = _ from hnext.answering]
      exact List.nil_sublist _
  | refuse j reason o hpc ho =>
      -- The job leaves the ones that wait for the one that is answered.
      intro c q p
      have hwait := waiting_of_refuse hpc (refusal reason j.cmdName j.seq) c p
      have hacks : acks c o = [] := by rcases ho with rfl | rfl <;> rfl
      rw [hacks, List.count_nil]
      unfold owed
      rw [hpc.answering, countP_answering_ack]
      show 0 + (_ + _ + s.estops.countP _) + s.commands c p ≤ _ + 0 + _ + s.commands c p
      omega
  | register j hpc =>
      exact Owes.of_flow hflow (fun _ => rfl) rfl (List.nil_sublist _) fun _ => Nat.le_refl _
  | publish j hpc =>
      obtain ⟨hclients, -, -⟩ := publishCmd_rest j.toCmdJob s
      refine Owes.of_publish hflow (fun d => ?_) fun p => ?_
      · show ((s.publishCmd j.toCmdJob).clients d).received = _
        rw [hclients]
      · have hestops := publishCmd_estops j.toCmdJob s p
        have hurgent : j.toCmdJob.urgent = false := j.notUrgent
        rw [hurgent] at hestops
        have hanswering : (Worker.enter j).answering.countP p =
            if p j.toCmdJob = true then 1 else 0 := List.countP_singleton ..
        show (Worker.enter j).answering.countP p + (s.publishCmd j.toCmdJob).estops.countP p ≤ _
        rw [hanswering]
        simp only [Bool.false_eq_true, false_and, if_false] at hestops
        omega
  | wait j w hpc hnext hraised =>
      refine Owes.of_flow hflow (fun _ => rfl) rfl ?_ fun _ => Nat.le_refl _
      rw [show Worker.answering w = _ from hnext.answering, hpc.answering]
  | giveUp j reason hpc =>
      refine Owes.of_flow hflow (fun _ => rfl) rfl ?_ fun _ => Nat.le_refl _
      rcases hpc with ⟨hpc, -⟩ | ⟨hpc, -⟩ <;> rw [hpc] <;> exact List.Sublist.refl _
  | take j deadline p hpc hpending hdone =>
      refine Owes.of_flow hflow (fun _ => rfl) rfl ?_ fun _ => Nat.le_refl _
      rw [hpc]
      exact List.Sublist.refl _
  | ack j text hpc =>
      intro c q p
      have hacks := count_sendFrame_le s c j.client msgCmdAck j.seq q text
      have hidle : Sys.waiting { s with worker := .idle } c p = s.waiting c p := by
        simp only [Sys.waiting, hpc, Worker.waiting]
      have hp : (if j.client = c ∧ j.seq = q then 1 else 0) =
          if j.client = c ∧ p j.toCmdJob = true then 1 else 0 := by simp [p]
      rw [hp] at hacks
      unfold owed
      rw [hidle, hpc, countP_answering_ack]
      show _ + (_ + 0 + s.estops.countP _) + s.commands c p ≤ _ + _ + _ + s.commands c p
      omega

/-- Stops on their way only get fewer when the three lists do. -/
theorem estops_le (hcmd : t.cmdTopic.Sublist s.cmdTopic)
    (hresult : t.resultTopic.Sublist s.resultTopic)
    (htelling : t.ros.telling.Sublist s.ros.telling) (p : CmdJob → Bool) :
    t.estops.countP p ≤ s.estops.countP p :=
  (((hcmd.append (hresult.map _)).append htelling).filter _).countP_le

/-- A client is told of its ESTOP by its entry in the list, which is there once. -/
theorem owes_ackNext {m : ResultMsg} {seq : UInt16} {d : Nat} {clients : List Nat}
    (hpc : s.ros = .ackClients m seq (d :: clients)) (hseq : seq = m.job.seq)
    (hnodup : (d :: clients).Nodup)
    (hown : s.greeted d = true → m.job.client = d ∧ m.job.urgent = true) :
    Owes s { s with ros := .ackClients m seq clients }
      (if s.greeted d then s.sendFrame d msgCmdAck seq m.text else []) := by
  intro c q p
  have htelling :
      (acks c (if s.greeted d then s.sendFrame d msgCmdAck seq m.text else [])).count q +
          (Ros.ackClients m seq clients).telling.countP
            (fun j => (j.client = c && p j) && j.urgent) ≤
        s.ros.telling.countP (fun j => (j.client = c && p j) && j.urgent) := by
    rw [hpc]
    simp only [Ros.telling]
    split
    · rename_i hgreeted
      -- The client that is told is the sender, and it does not come again.
      obtain ⟨hclient, hurgent⟩ := hown hgreeted
      have hnot : m.job.client ∉ clients := hclient ▸ (List.nodup_cons.mp hnodup).1
      have hmem : m.job.client ∈ d :: clients := hclient ▸ List.mem_cons_self ..
      have hacks := count_sendFrame_le s c d msgCmdAck seq q m.text
      rw [if_neg hnot, if_pos hmem, List.countP_nil, List.countP_singleton]
      simp only [hclient, hurgent, ← hseq, p, Bool.and_true, Bool.and_eq_true, decide_eq_true_eq]
      exact hacks
    · rw [show acks c [] = [] from rfl, List.count_nil, Nat.zero_add]
      by_cases hmem : m.job.client ∈ clients
      · rw [if_pos hmem, if_pos (List.mem_cons_of_mem d hmem)]
      · rw [if_neg hmem]
        exact Nat.zero_le _
  unfold owed
  rw [countP_estops, countP_estops]
  show _ + (s.waiting c p + s.worker.answering.countP _ + (s.cmdTopic.countP _ +
    s.resultTopic.countP _ + (Ros.ackClients m seq clients).telling.countP _)) +
      s.commands c p ≤ _ + s.commands c p
  omega

/-- What the callbacks acknowledge was a stop on its way. -/
theorem RosEffect.owes (h : RosEffect s t o)
    (hread : ∀ m seq, s.ros.read? = some (m, seq) → seq = m.job.seq)
    (hnodup : ∀ m seq clients, s.ros = .ackClients m seq clients → clients.Nodup)
    (hown : ∀ m seq d clients, s.ros = .ackClients m seq (d :: clients) →
      s.greeted d = true → m.job.client = d ∧ m.job.urgent = true) : Owes s t o := by
  have hflow := h.flow
  -- A step of the callback that tells nobody.
  have hquiet : ∀ {t : Sys F}, Flow s t [] → t.worker = s.worker → t.cmdTopic = s.cmdTopic →
      t.resultTopic = s.resultTopic → t.ros.telling.Sublist s.ros.telling → Owes s t [] := by
    intro t hflow hworker hcmd hresult htelling
    exact Owes.of_flow hflow (fun _ => rfl) rfl (by rw [hworker])
      (estops_le (by rw [hcmd]) (by rw [hresult]) htelling)
  cases h with
  | finish m hpc => exact hquiet hflow rfl rfl rfl (List.nil_sublist _)
  | look m seq r hpc hseq hr =>
      refine hquiet hflow rfl rfl rfl ?_
      rcases hr with ⟨rfl, -⟩ | rfl
      · rw [hpc]
        exact List.Sublist.refl _
      · exact List.nil_sublist _
  | miss m seq hpc => exact hquiet hflow rfl rfl rfl (List.nil_sublist _)
  | hit m seq hpc heq => exact hquiet hflow rfl rfl rfl (by rw [hpc]; exact List.Sublist.refl _)
  | lower m seq estop hpc =>
      exact hquiet hflow rfl rfl rfl (by rw [hpc]; exact List.Sublist.refl _)
  | invalidate m seq estop hpc =>
      exact hquiet hflow rfl rfl rfl (by rw [hpc]; exact List.Sublist.refl _)
  | complete m seq estop hpc =>
      -- From here on the clients are told of the stop.
      refine Owes.of_flow hflow (fun _ => rfl) rfl (List.Sublist.refl _)
        (estops_le (List.Sublist.refl _) (List.Sublist.refl _) ?_)
      rw [hpc]
      simp only [Ros.telling]
      split
      · exact List.Sublist.refl _
      · exact List.nil_sublist _
  | ackNext m seq d clients hpc =>
      exact owes_ackNext hpc (hread m seq (by rw [hpc]; rfl)) (hnodup _ _ _ hpc)
        (hown _ _ _ _ hpc)
  | deliver m seq p hpc hpending => exact hquiet hflow rfl rfl rfl (List.nil_sublist _)
  | other r lastMs console o hpc hr ho =>
      refine Owes.of_flow hflow (fun _ => acks_plain ho) (published_plain ho) (List.Sublist.refl _)
        (estops_le (List.Sublist.refl _) (List.Sublist.refl _) ?_)
      rw [show Ros.telling r = _ from Ros.telling_of_none hr]
      exact List.nil_sublist _

/-- Every client is at most once in a list of `complete_async_ack`. -/
theorem Runs.ackClients_nodup (hrun : Runs C allow h s) {m : ResultMsg} {seq : UInt16}
    {clients : List Nat} (hpc : s.ros = .ackClients m seq clients) : clients.Nodup := by
  refine hrun.invariant
    (P := fun s => ∀ m seq clients, s.ros = .ackClients m seq clients → clients.Nodup)
    nofun (fun s e t o ih _ hstep m seq clients hpc => ?_) m seq clients hpc
  cases step_ros hstep with
  | same h => exact ih m seq clients (h ▸ hpc)
  | take m' h => cases h.symm.trans hpc
  | other h =>
      rw [hpc] at h
      cases h
  | ros heffect =>
      cases heffect with
      | look m' seq' r _ _ hr => rcases hr with ⟨rfl, -⟩ | rfl <;> cases hpc
      | complete m' seq' estop _ =>
          obtain ⟨-, -, rfl⟩ := Ros.ackClients.inj hpc
          exact List.nodup_range
      | ackNext m' seq' d clients' hpc' =>
          obtain ⟨-, -, rfl⟩ := Ros.ackClients.inj hpc
          exact (List.nodup_cons.mp (ih _ _ _ hpc')).2
      | other r _ _ _ _ hr _ =>
          obtain rfl : r = .ackClients m seq clients := hpc
          cases hr
      | _ => cases hpc

/-- **No step sends an ACK that is not owed.** -/
theorem Runs.owes (hrun : Runs C allow h s) (hstep : s.step C e = some (t, o))
    (hown : s.ownAck e) : Owes s t o := by
  have hflow := step_flow hstep
  cases step_effect hstep with
  | rx c nowMs op rest t o htodo heffect => exact heffect.owes htodo
  | worker nowMs steady t o heffect => exact heffect.owes
  | takeResult m topic hpc htopic =>
      -- The result goes from the topic to the executor.
      refine Owes.of_flow hflow (fun _ => rfl) rfl (List.Sublist.refl _) fun p => ?_
      rw [countP_estops, countP_estops]
      simp only [hpc, htopic, Ros.telling, List.countP_cons, List.countP_nil]
      omega
  | takeOther e r json topic hpc hr he =>
      refine Owes.of_flow hflow (fun _ => rfl) rfl (List.Sublist.refl _)
        (estops_le (List.Sublist.refl _) (List.Sublist.refl _) ?_)
      rw [show Ros.telling r = _ from Ros.telling_of_none hr]
      exact List.nil_sublist _
  | ros nowMs t o heffect =>
      refine heffect.owes (Runs.flying hrun).read (fun _ _ _ => Runs.ackClients_nodup hrun) ?_
      intro m seq d clients hpc
      simp only [ownAck, hpc] at hown
      exact hown
  | robotCmd nowMs j topic node out htopic hnode =>
      -- The command goes from its topic to the one of its only result.
      refine Owes.of_flow hflow (fun _ => rfl) rfl (List.Sublist.refl _) fun p => ?_
      obtain ⟨res, hres, -⟩ := node_step_results hnode
      have htopic' : (if node.robot.topicsReady then topic else []).Sublist topic := by
        split
        · exact List.Sublist.refl _
        · exact List.nil_sublist _
      have hle := htopic'.countP_le (p := fun j => p j && j.urgent)
      rw [countP_estops, countP_estops, hres, htopic]
      simp only [List.map_singleton, List.countP_append, List.countP_nil, List.countP_cons,
        setNode]
      omega
  | robot e call console node out hcall he hnode =>
      refine Owes.of_flow hflow (fun _ => rfl) rfl (List.Sublist.refl _)
        (estops_le ?_ (List.Sublist.refl _) (List.Sublist.refl _))
      show (if _ then s.cmdTopic else []).Sublist s.cmdTopic
      split
      · exact List.Sublist.refl _
      · exact List.nil_sublist _
  | lose topic i =>
      refine Owes.of_flow hflow (fun _ => rfl) rfl ?_ ?_
      · cases topic <;> exact List.Sublist.refl _
      · cases topic with
        | cmd =>
            exact estops_le (List.eraseIdx_sublist ..) (List.Sublist.refl _) (List.Sublist.refl _)
        | result =>
            exact estops_le (List.Sublist.refl _) (List.eraseIdx_sublist ..) (List.Sublist.refl _)
        | _ => exact fun _ => Nat.le_refl _
  | _ => exact Owes.of_flow hflow (fun _ => rfl) rfl (List.Sublist.refl _) fun _ => Nat.le_refl _

/-- In every run in which `complete_async_ack` sends only to the client of the ESTOP, no client is
sent more ACKs with a sequence number than it has sent commands with it. -/
theorem Runs.acks_le (hrun : Runs C ownAck h s) (c : Nat) (q : UInt16) :
    (acks c (shown h)).count q ≤ s.commands c fun j => decide (j.seq = q) := by
  have hledger : (acks c (shown h)).count q + s.owed c (fun j => decide (j.seq = q)) ≤
      s.commands c fun j => decide (j.seq = q) := by
    induction hrun with
    | nil => exact Nat.le_refl _
    | @snoc h s t e o hrun hallow hstep ih =>
        have howes := Runs.owes hrun hstep hallow c q
        rw [shown_snoc, acks_append, List.count_append]
        dsimp only at howes
        omega
  omega

end Sys

end BotCockpit.Bridge
