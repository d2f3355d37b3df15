import BotCockpit.Proofs.Bridge.Steps
import BotCockpit.Proofs.Wire.Frame
import BotCockpit.Spec.Bridge

/-!
# `BotCockpit.Proofs.Bridge.Flow`: the way of a command through the bridge

A command frame waits in the batch of its receive thread, in the queue, or in the hands of the
worker, until its envelope is published. From there it is on the cmd topic until the robot takes
it. `Sys.Flow` says what any step does to this way: it makes no command out of nothing, and the
topic keeps the order. `Sys.step_flow` proves it for every step, and `Sys.Runs.ledger` and
`Sys.Runs.fifo` add the steps of a run up.
-/

set_option autoImplicit false

namespace BotCockpit.Bridge

open BotCockpit.Lib
open BotCockpit.Wire (Frame)
open BotCockpit.Sim (Output Node)

/-- What a run shows, one event longer. -/
theorem shown_snoc (h : List (Event × List Obs)) (e : Event) (o : List Obs) :
    shown (h ++ [(e, o)]) = shown h ++ o := by
  simp [shown]

/-- The published commands of two lists of observations. -/
theorem published_append (o o' : List Obs) : published (o ++ o') = published o ++ published o' :=
  List.filterMap_append

/-- The processed commands of two lists of observations. -/
theorem processed_append (o o' : List Obs) : processed (o ++ o') = processed o ++ processed o' :=
  List.filterMap_append

/-- Frames say nothing about the way of a command. -/
theorem published_plain {o : List Obs} (h : ∀ x ∈ o, x.Plain) : published o = [] := by
  refine List.filterMap_eq_nil_iff.mpr fun x hx => ?_
  cases x with
  | sent c f => rfl
  | _ => exact absurd (h _ hx) id

/-- Plain observations process nothing. -/
theorem processed_plain {o : List Obs} (h : ∀ x ∈ o, x.Plain) : processed o = [] := by
  refine List.filterMap_eq_nil_iff.mpr fun x hx => ?_
  cases x with
  | sent c f => rfl
  | _ => exact absurd (h _ hx) id

/-- A worker early in its job has it waiting. -/
theorem Worker.Early.waiting {j : QueuedJob} {w : Worker} (h : w.Early j) :
    w.waiting = [j.toCmdJob] := by
  cases h <;> rfl

/-- A worker that waits for the result has nothing waiting. -/
theorem Worker.Waits.waiting {j : QueuedJob} {w : Worker} (h : w.Waits j) : w.waiting = [] := by
  cases h <;> rfl

namespace Sys

variable {F : Type} [CDouble F]

/-- What every step does to the way of a command. A job that leaves its place is published or
dropped, and new ones come from new frames only. The robot takes the commands in the order in
which they were published. -/
structure Flow (s t : Sys F) (o : List Obs) : Prop where
  waiting : ∀ c p, t.waiting c p + (published o).countP (fun j => j.client = c && p j) +
    s.commands c p ≤ s.waiting c p + t.commands c p
  received : ∀ c, (s.clients c).received <+: (t.clients c).received
  topic : (processed o ++ t.cmdTopic).Sublist (s.cmdTopic ++ published o)

/-- The commands of a client depend on the frames that it has sent. -/
theorem commands_congr {s t : Sys F} {c : Nat}
    (h : (t.clients c).received = (s.clients c).received) (p : CmdJob → Bool) :
    t.commands c p = s.commands c p := by
  unfold commands
  rw [h]

/-- A weaker condition counts no fewer commands. -/
theorem waiting_mono (s : Sys F) (c : Nat) {p q : CmdJob → Bool}
    (h : ∀ j, p j = true → q j = true) : s.waiting c p ≤ s.waiting c q := by
  have h₁ : ((s.clients c).todo.filterMap RxOp.waiting?).countP (fun k => p ⟨c, k⟩) ≤
      ((s.clients c).todo.filterMap RxOp.waiting?).countP (fun k => q ⟨c, k⟩) :=
    List.countP_mono_left fun k _ => h ⟨c, k⟩
  have h₂ : s.queue.countP (fun j => j.client = c && p j.toCmdJob) ≤
      s.queue.countP (fun j => j.client = c && q j.toCmdJob) :=
    List.countP_mono_left fun j _ hj => by
      simp only [Bool.and_eq_true] at hj ⊢
      exact ⟨hj.1, h _ hj.2⟩
  have h₃ : s.worker.waiting.countP (fun j => j.client = c && p j) ≤
      s.worker.waiting.countP (fun j => j.client = c && q j) :=
    List.countP_mono_left fun j _ hj => by
      simp only [Bool.and_eq_true] at hj ⊢
      exact ⟨hj.1, h _ hj.2⟩
  unfold waiting
  omega

/-- A step that publishes nothing and makes no job wait. -/
theorem Flow.of_le {s t : Sys F} {o : List Obs}
    (hreceived : ∀ c, (t.clients c).received = (s.clients c).received)
    (hwaiting : ∀ c p, t.waiting c p ≤ s.waiting c p) (htopic : t.cmdTopic.Sublist s.cmdTopic)
    (hpublished : published o = []) (hprocessed : processed o = []) : Flow s t o := by
  refine ⟨fun c p => ?_, fun c => ?_, ?_⟩
  · rw [commands_congr (hreceived c), hpublished, List.countP_nil]
    have := hwaiting c p
    omega
  · rw [hreceived c]
  · rw [hpublished, hprocessed]
    simpa using htopic

/-- A step that only takes jobs from their places, if any. -/
theorem Flow.of_quiet {s t : Sys F} {o : List Obs}
    (hclients : ∀ c, (t.clients c).received = (s.clients c).received ∧
      ((t.clients c).todo.filterMap RxOp.waiting?).Sublist
        ((s.clients c).todo.filterMap RxOp.waiting?))
    (hqueue : t.queue.Sublist s.queue) (hworker : t.worker.waiting.Sublist s.worker.waiting)
    (htopic : t.cmdTopic.Sublist s.cmdTopic) (hpublished : published o = [])
    (hprocessed : processed o = []) : Flow s t o := by
  refine Flow.of_le (fun c => (hclients c).1) (fun c p => ?_) htopic hpublished hprocessed
  have h₁ := (hclients c).2.countP_le (p := fun k => p ⟨c, k⟩)
  have h₂ := hqueue.countP_le (p := fun j => j.client = c && p j.toCmdJob)
  have h₃ := hworker.countP_le (p := fun j => j.client = c && p j)
  unfold Sys.waiting
  omega

/-- A step of the worker that publishes nothing: it drops its job or keeps it. -/
theorem Flow.of_pc {s t : Sys F} {o : List Obs} (hclients : t.clients = s.clients)
    (hqueue : t.queue = s.queue) (hworker : t.worker.waiting.Sublist s.worker.waiting)
    (htopic : t.cmdTopic = s.cmdTopic) (hpublished : published o = [])
    (hprocessed : processed o = []) : Flow s t o :=
  Flow.of_quiet (fun c => by rw [hclients]; exact ⟨rfl, List.Sublist.refl _⟩)
    (hqueue ▸ List.Sublist.refl _) hworker (htopic ▸ List.Sublist.refl _) hpublished hprocessed

/-- One operation of a receive thread that passes no command on. -/
theorem Flow.of_todo {s t : Sys F} {c : Nat} {cl : Client} {o : List Obs}
    (hclients : t.clients = (s.setClient c cl).clients) (hqueue : t.queue = s.queue)
    (hworker : t.worker = s.worker) (htopic : t.cmdTopic = s.cmdTopic)
    (hreceived : cl.received = (s.clients c).received)
    (htodo : (cl.todo.filterMap RxOp.waiting?).Sublist
      ((s.clients c).todo.filterMap RxOp.waiting?))
    (hpublished : published o = []) (hprocessed : processed o = []) : Flow s t o := by
  refine Flow.of_quiet (fun d => ?_) (hqueue ▸ List.Sublist.refl _)
    (hworker ▸ List.Sublist.refl _) (htopic ▸ List.Sublist.refl _) hpublished hprocessed
  rw [hclients]
  by_cases hd : d = c
  · subst hd
    rw [setClient_self]
    exact ⟨hreceived, htodo⟩
  · rw [setClient_of_ne s cl hd]
    exact ⟨rfl, List.Sublist.refl _⟩

/-! ### The receive threads -/

/-- Publishing puts the command at the end of the topic, when the robot listens. -/
theorem publishCmd_topic (j : CmdJob) (s : Sys F) :
    (s.publishCmd j).cmdTopic.Sublist (s.cmdTopic ++ [j]) := by
  unfold publishCmd
  split
  · exact List.Sublist.refl _
  · exact List.sublist_append_left _ _

/-- Publishing a command leaves the clients, the queue and the worker alone. -/
theorem publishCmd_rest (j : CmdJob) (s : Sys F) :
    (s.publishCmd j).clients = s.clients ∧ (s.publishCmd j).queue = s.queue ∧
      (s.publishCmd j).worker = s.worker := by
  unfold publishCmd
  split <;> exact ⟨rfl, rfl, rfl⟩

/-- Going on with the batch changes no received frame. -/
theorem received_setTodo (s : Sys F) (c : Nat) (rest : List RxOp) (d : Nat) :
    ((s.setClient c { s.clients c with todo := rest }).clients d).received =
      (s.clients d).received := by
  by_cases hd : d = c
  · subst hd
    rw [setClient_self]
  · rw [setClient_of_ne s _ hd]

/-- The jobs that wait at a client whose next operation is `op`. -/
theorem waiting_of_todo {s t : Sys F} {c : Nat} {op : RxOp} {rest : List RxOp}
    (htodo : (s.clients c).todo = op :: rest)
    (hclients : t.clients = (s.setClient c { s.clients c with todo := rest }).clients)
    (hworker : t.worker = s.worker) (d : Nat) (p : CmdJob → Bool) :
    t.waiting d p +
        (if d = c then (op.waiting?.toList.countP fun k => p ⟨c, k⟩) else 0) +
        s.queue.countP (fun j => j.client = d && p j.toCmdJob) =
      s.waiting d p + t.queue.countP (fun j => j.client = d && p j.toCmdJob) := by
  unfold waiting
  rw [hclients, hworker]
  by_cases hd : d = c
  · subst hd
    rw [setClient_self, htodo, if_pos rfl, List.filterMap_cons]
    cases op.waiting? with
    | none => simp; omega
    | some k => simp [List.countP_cons]; omega
  · rw [setClient_of_ne s _ hd, if_neg hd]
    omega

/-- A job that is published leaves its place. -/
theorem Flow.of_publish {s t : Sys F} {j : CmdJob}
    (hreceived : ∀ c, (t.clients c).received = (s.clients c).received)
    (hwaiting : ∀ c p, t.waiting c p + (if j.client = c ∧ p j = true then 1 else 0) ≤
      s.waiting c p)
    (htopic : t.cmdTopic.Sublist (s.cmdTopic ++ [j])) : Flow s t [.published j] := by
  refine ⟨fun c p => ?_, fun c => ?_, ?_⟩
  · have hcount : (published [.published j]).countP (fun i => i.client = c && p i) =
        if j.client = c ∧ p j = true then 1 else 0 := by
      simp [published, Obs.published?, List.countP_cons]
    rw [commands_congr (hreceived c), hcount]
    have := hwaiting c p
    omega
  · rw [hreceived c]
  · exact htopic

/-- A job goes from the batch to the queue. -/
theorem Flow.of_enqueue {s t : Sys F} {c : Nat} {k : Command} {h : k.urgent = false}
    {rest : List RxOp} (htodo : (s.clients c).todo = .enqueue k h :: rest)
    (hclients : t.clients = (s.setClient c { s.clients c with todo := rest }).clients)
    (hqueue : t.queue = s.queue ++ [{ client := c, command := k, notUrgent := h }])
    (hworker : t.worker = s.worker) (htopic : t.cmdTopic = s.cmdTopic) : Flow s t [] := by
  refine Flow.of_le (fun d => ?_) (fun d p => ?_) (htopic ▸ List.Sublist.refl _) rfl rfl
  · rw [hclients]
    exact received_setTodo s c rest d
  · have hw := waiting_of_todo htodo hclients hworker d p
    rw [hqueue, List.countP_append] at hw
    by_cases hd : d = c
    · subst hd
      simp only [if_true, RxOp.waiting?, Option.toList_some, List.countP_singleton, decide_true,
        Bool.true_and] at hw
      omega
    · simp only [hd, Ne.symm hd, if_false, List.countP_singleton, decide_false,
        Bool.false_and, Bool.false_eq_true] at hw
      omega

/-- An ACK says nothing about the way of a command. -/
theorem flow_sendFrame (s : Sys F) (c : Nat) (type : UInt8) (seq : UInt16) (payload : Bytes) :
    published (s.sendFrame c type seq payload) = [] ∧
      processed (s.sendFrame c type seq payload) = [] := by
  unfold sendFrame
  split <;> exact ⟨rfl, rfl⟩

/-- A receiving thread moves commands on and loses none. -/
theorem RxEffect.flow {s t : Sys F} {c : Nat} {op : RxOp} {rest : List RxOp} {o : List Obs}
    (htodo : (s.clients c).todo = op :: rest) (h : RxEffect s c rest op t o) : Flow s t o := by
  have hrest : (rest.filterMap RxOp.waiting?).Sublist
      ((s.clients c).todo.filterMap RxOp.waiting?) := by
    rw [htodo]
    exact (List.sublist_cons_self op rest).filterMap _
  cases h with
  | plain op helloOk todo o hop htodo' ho =>
      refine Flow.of_todo rfl rfl rfl rfl rfl ?_ (published_plain ho) (processed_plain ho)
      rcases htodo' with rfl | ⟨rfl, -, -⟩
      · exact hrest
      · exact List.nil_sublist _
  | enqueue k h =>
      exact Flow.of_enqueue htodo rfl rfl rfl rfl
  | urgent u k =>
      cases u with
      | publish =>
          -- The stop leaves the work of its thread and comes into the topic.
          let t := s.setClient c { s.clients c with todo := rest }
          obtain ⟨hclients, hqueue, hworker⟩ := publishCmd_rest ⟨c, k⟩ t
          refine Flow.of_publish (fun d => ?_) (fun d p => ?_) (publishCmd_topic ⟨c, k⟩ t)
          · show ((t.publishCmd ⟨c, k⟩).clients d).received = _
            rw [hclients]
            exact received_setTodo s c rest d
          · have hw := waiting_of_todo (t := t.publishCmd ⟨c, k⟩) htodo hclients hworker d p
            have hqueue' : (t.publishCmd ⟨c, k⟩).queue = s.queue := hqueue
            rw [hqueue'] at hw
            show (t.publishCmd ⟨c, k⟩).waiting d p + _ ≤ _
            by_cases hd : d = c
            · subst hd
              simp only [if_true, RxOp.waiting?, Option.toList_some, List.countP_singleton] at hw
              simp only [true_and]
              omega
            · simp only [hd, if_false] at hw
              simp only [Ne.symm hd, false_and, if_false]
              omega
      | raise => exact Flow.of_todo rfl rfl rfl rfl rfl hrest rfl rfl
      | storeSeq => exact Flow.of_todo rfl rfl rfl rfl rfl hrest rfl rfl
      | storeValid => exact Flow.of_todo rfl rfl rfl rfl rfl hrest rfl rfl
      | register => exact Flow.of_todo rfl rfl rfl rfl rfl hrest rfl rfl

/-! ### The worker, the executor and the robot -/

/-- So does the worker. -/
theorem WorkerEffect.flow {s t : Sys F} {o : List Obs} (h : WorkerEffect s t o) :
    Flow s t o := by
  cases h with
  | pop j queue hpc hqueue =>
      -- The job goes from the queue to the worker.
      refine Flow.of_le (fun _ => rfl) (fun c p => ?_) (List.Sublist.refl _) rfl rfl
      simp only [Sys.waiting, hpc, hqueue, Worker.waiting, List.countP_cons, List.countP_nil]
      omega
  | drop j hpc => exact Flow.of_pc rfl rfl (List.nil_sublist _) rfl rfl rfl
  | early j w hpc hnext =>
      refine Flow.of_pc rfl rfl ?_ rfl rfl rfl
      show w.waiting.Sublist s.worker.waiting
      rw [hpc.waiting, hnext.waiting]
  | refuse j reason o hpc ho =>
      refine Flow.of_pc rfl rfl (List.nil_sublist _) rfl ?_ ?_ <;> rcases ho with rfl | rfl <;> rfl
  | register j hpc => exact Flow.of_pc rfl rfl (by simp [hpc, Worker.waiting]) rfl rfl rfl
  | publish j hpc =>
      obtain ⟨hclients, hqueue, -⟩ := publishCmd_rest j.toCmdJob s
      refine Flow.of_publish (fun c => ?_) (fun c p => ?_) (publishCmd_topic j.toCmdJob s)
      · show ((s.publishCmd j.toCmdJob).clients c).received = _
        rw [hclients]
      · have hwait : Sys.waiting { s.publishCmd j.toCmdJob with worker := .enter j } c p =
            ((s.clients c).todo.filterMap RxOp.waiting?).countP (fun k => p ⟨c, k⟩) +
              s.queue.countP (fun i => i.client = c && p i.toCmdJob) := by
          simp only [Sys.waiting, hclients, hqueue, Worker.waiting, List.countP_nil]
          omega
        rw [hwait]
        simp only [Sys.waiting, hpc, Worker.waiting, List.countP_singleton, Bool.and_eq_true,
          decide_eq_true_eq]
        omega
  | wait j w hpc hnext hraised =>
      refine Flow.of_pc rfl rfl ?_ rfl rfl rfl
      show w.waiting.Sublist s.worker.waiting
      rw [hnext.waiting]
      exact List.nil_sublist _
  | giveUp j reason hpc => exact Flow.of_pc rfl rfl (List.nil_sublist _) rfl rfl rfl
  | take j deadline p hpc hpending hdone =>
      exact Flow.of_pc rfl rfl (List.nil_sublist _) rfl rfl rfl
  | ack j text hpc =>
      obtain ⟨hpublished, hprocessed⟩ := flow_sendFrame s j.client msgCmdAck j.seq text
      exact Flow.of_pc rfl rfl (List.nil_sublist _) rfl hpublished hprocessed

/-- A job that is answered before it is registered does not wait any more. -/
theorem waiting_of_refuse {s : Sys F} {j : QueuedJob} (hpc : s.worker.Early j) (text : Bytes)
    (c : Nat) (p : CmdJob → Bool) :
    Sys.waiting { s with worker := .ack j text } c p +
      (if j.client = c ∧ p j.toCmdJob = true then 1 else 0) = s.waiting c p := by
  have hnone : Worker.waiting (.ack j text) = [] := rfl
  simp only [Sys.waiting, hpc.waiting, hnone, List.countP_nil, List.countP_singleton,
    Bool.and_eq_true, decide_eq_true_eq, Nat.add_zero]

/-- So do the callbacks. -/
theorem RosEffect.flow {s t : Sys F} {o : List Obs} (h : RosEffect s t o) : Flow s t o := by
  have hpc : ∀ {t : Sys F} {o : List Obs}, t.clients = s.clients → t.queue = s.queue →
      t.worker = s.worker → t.cmdTopic = s.cmdTopic → published o = [] → processed o = [] →
      Flow s t o :=
    fun hc hq hw => Flow.of_pc hc hq (hw ▸ List.Sublist.refl _)
  cases h with
  | ackNext m seq d clients _ =>
      refine hpc rfl rfl rfl rfl ?_ ?_ <;> split
      · exact (flow_sendFrame ..).1
      · rfl
      · exact (flow_sendFrame ..).2
      · rfl
  | other r lastMs console o _ _ ho =>
      exact hpc rfl rfl rfl rfl (published_plain ho) (processed_plain ho)
  | _ => exact hpc rfl rfl rfl rfl rfl rfl

/-- The robot leaves the threads alone. Without a subscription its topic is empty. -/
theorem setNode_flow (s : Sys F) (console : List Bytes) (node : Node F) (out : List (Output F)) :
    Flow s (setNode { s with consoleTopic := console } node out) [] := by
  refine Flow.of_quiet (fun _ => ⟨rfl, List.Sublist.refl _⟩) (List.Sublist.refl _)
    (List.Sublist.refl _) ?_ rfl rfl
  show (if _ then s.cmdTopic else []).Sublist s.cmdTopic
  split
  · exact List.Sublist.refl _
  · exact List.nil_sublist _

/-! ### New frames -/

/-- One frame of a batch: its command, if it is one, waits once. -/
theorem filterMap_waiting_handleFrame (x : Frame × Nat) :
    (handleFrame x.2 x.1 ++ [RxOp.checkFd]).filterMap RxOp.waiting? = (Command.of? x).toList := by
  have hhello : msgHello ∉ commandTypes := by decide
  have hheartbeat : msgHeartbeat ∉ commandTypes := by decide
  unfold handleFrame Command.of?
  by_cases h₁ : x.1.type = msgHello
  · rw [if_pos h₁, dif_neg (h₁ ▸ hhello)]
    split <;> rfl
  by_cases h₂ : x.1.type = msgHeartbeat
  · rw [if_neg h₁, if_pos h₂, dif_neg (h₂ ▸ hheartbeat)]
    rfl
  rw [if_neg h₁, if_neg h₂]
  by_cases h₃ : x.1.type ∈ commandTypes
  · rw [dif_pos h₃, dif_pos h₃]
    unfold enqueueCmd
    split <;> rfl
  · rw [dif_neg h₃, dif_neg h₃]
    rfl

/-- Every command of a batch waits once, whatever the order in which the batch is handled. -/
theorem countP_batchOps (batch : List (Frame × Nat)) (p : Command → Bool) :
    ((batchOps batch).filterMap RxOp.waiting?).countP p =
      (batch.filterMap Command.of?).countP p := by
  have hflat : ∀ b : List (Frame × Nat),
      (b.flatMap fun x => handleFrame x.2 x.1 ++ [RxOp.checkFd]).filterMap RxOp.waiting? =
        b.filterMap Command.of? := by
    intro b
    induction b with
    | nil => rfl
    | cons x b ih =>
        rw [List.flatMap_cons, List.filterMap_append, ih, filterMap_waiting_handleFrame,
          List.filterMap_cons]
        cases Command.of? x <;> rfl
  have hperm : (estopFirst batch).Perm batch := by
    unfold estopFirst
    simpa using List.filter_append_perm (fun x : Frame × Nat => decide (x.1.type = msgCmdEstop))
      batch
  unfold batchOps
  rw [hflat]
  exact (hperm.filterMap _).countP_eq p

/-- One `recv`: the new frames are received, and the new commands wait. -/
theorem receive_flow {s : Sys F} {c : Nat} (chunk : Bytes) (htodo : (s.clients c).todo = []) :
    Flow s (s.setClient c ((s.clients c).receive chunk)) [] := by
  obtain ⟨frames, rest, hdrain⟩ :
      ∃ frames rest, drain next ((s.clients c).buffer ++ chunk) = (frames, rest) := ⟨_, _, rfl⟩
  have hreceive : (s.clients c).receive chunk =
      { s.clients c with
        buffer := rest
        received := (s.clients c).received ++ frames
        todo := batchOps (frames.zipIdx (s.clients c).received.length) } := by
    simp only [Client.receive, hdrain]
  rw [hreceive]
  refine ⟨fun d p => ?_, fun d => ?_, by simp [processed, published, setClient]⟩
  · by_cases hd : d = c
    · subst hd
      -- The commands of the batch are those of the frames that were decoded.
      have hcount := countP_batchOps (frames.zipIdx (s.clients d).received.length)
        fun k => p ⟨d, k⟩
      simp only [Sys.waiting, commands, setClient_self, htodo, List.zipIdx_append,
        List.filterMap_append, List.countP_append, hcount, published, List.filterMap_nil,
        List.countP_nil, Nat.zero_add]
      simp only [setClient]
      omega
    · simp only [Sys.waiting, commands, setClient_of_ne s _ hd, published, List.filterMap_nil,
        List.countP_nil]
      simp only [setClient]
      omega
  · by_cases hd : d = c
    · subst hd
      rw [setClient_self]
      exact List.prefix_append _ _
    · rw [setClient_of_ne s _ hd]

/-! ### Every step -/

/-- So does every step. -/
theorem step_flow {C : Type} [CFloat C] {s t : Sys F} {e : Event} {o : List Obs}
    (h : s.step C e = some (t, o)) : Flow s t o := by
  cases step_effect h with
  | accept => exact Flow.of_todo rfl rfl rfl rfl rfl (List.Sublist.refl _) rfl rfl
  | recv c chunk htodo => exact receive_flow chunk htodo
  | gone e c _ => exact Flow.of_todo rfl rfl rfl rfl rfl (List.Sublist.refl _) rfl rfl
  | rx c nowMs op rest t o htodo heffect => exact heffect.flow htodo
  | worker nowMs steady t o heffect => exact heffect.flow
  | takeResult m topic _ _ =>
      exact Flow.of_pc rfl rfl (List.Sublist.refl s.worker.waiting) rfl rfl rfl
  | takeOther e r json topic _ _ _ =>
      exact Flow.of_pc rfl rfl (List.Sublist.refl s.worker.waiting) rfl rfl rfl
  | ros nowMs t o heffect => exact heffect.flow
  | robotCmd nowMs j topic node out htopic _ =>
      -- The command at the front of the topic is handled now.
      refine ⟨fun c p => ?_, fun c => List.prefix_refl _, ?_⟩
      · exact Nat.le_of_eq rfl
      · show (j :: (if _ then topic else [])).Sublist (s.cmdTopic ++ [])
        rw [htopic, List.append_nil]
        split
        · exact List.Sublist.refl _
        · exact (List.nil_sublist topic).cons_cons j
  | robot e call console node out _ _ _ => exact setNode_flow s console node out
  | lose topic i =>
      have htopic : (s.lose i topic).cmdTopic.Sublist s.cmdTopic := by
        cases topic
        · exact List.eraseIdx_sublist s.cmdTopic i
        all_goals exact List.Sublist.refl _
      cases topic <;>
        exact Flow.of_quiet (fun _ => ⟨rfl, List.Sublist.refl _⟩) (List.Sublist.refl s.queue)
          (List.Sublist.refl s.worker.waiting) htopic rfl rfl

/-! ### One command, one position -/

/-- The frame and the place of a command. -/
theorem Command.of?_eq_some {x : Frame × Nat} {k : Command} (h : Command.of? x = some k) :
    k.frame = x.1 ∧ k.index = x.2 := by
  unfold Command.of? at h
  split at h
  · rw [Option.some.injEq] at h
    rw [← h]
    exact ⟨rfl, rfl⟩
  · cases h

/-- The positions of the commands of a list are among the positions of the list. -/
theorem index_sublist (xs : List (Frame × Nat)) :
    ((xs.filterMap Command.of?).map Command.index).Sublist (xs.map Prod.snd) := by
  induction xs with
  | nil => exact List.Sublist.refl _
  | cons x xs ih =>
      rw [List.filterMap_cons, List.map_cons]
      cases hx : Command.of? x with
      | none => exact ih.cons _
      | some k =>
          rw [List.map_cons, (Command.of?_eq_some hx).2]
          exact ih.cons_cons _

/-- A command has one position, so it is sent once. -/
theorem commands_le_one (s : Sys F) (j : CmdJob) :
    s.commands j.client (fun i => decide (i = j)) ≤ 1 := by
  have hnodup : (((s.clients j.client).received.zipIdx.filterMap Command.of?).map
      Command.index).Nodup := by
    refine (index_sublist _).nodup ?_
    rw [List.zipIdx_map_snd]
    exact List.nodup_range'
  calc s.commands j.client (fun i => decide (i = j))
      ≤ (((s.clients j.client).received.zipIdx.filterMap Command.of?).map
          Command.index).count j.index := by
        rw [List.count, List.countP_map]
        refine List.countP_mono_left fun k _ hk => ?_
        have hindex : k.index = j.index := congrArg CmdJob.index (of_decide_eq_true hk)
        simp [hindex]
    _ ≤ 1 := List.nodup_iff_count_le_one.mp hnodup _

/-- A command that was sent is one of the frames of its client. -/
theorem index_lt_of_commands {s : Sys F} {j : CmdJob}
    (h : 0 < s.commands j.client (fun i => decide (i = j))) :
    j.index < (s.clients j.client).received.length := by
  obtain ⟨k, hk, heq⟩ := List.countP_pos_iff.mp h
  obtain ⟨x, hx, hof⟩ := List.mem_filterMap.mp hk
  have hj : k.index = j.index := congrArg CmdJob.index (of_decide_eq_true heq)
  rw [← hj, (Command.of?_eq_some hof).2]
  exact List.snd_lt_of_mem_zipIdx hx

/-- A job that a step makes wait, or that it publishes, waited before or comes from a new
frame. -/
theorem Flow.old_or_new {s t : Sys F} {o : List Obs} (h : Flow s t o) {j : CmdJob}
    (hj : 0 < t.waiting j.client (fun i => decide (i = j)) ∨ j ∈ published o) :
    0 < s.waiting j.client (fun i => decide (i = j)) ∨
      (s.clients j.client).received.length ≤ j.index := by
  by_contra hnot
  simp only [not_or, Nat.not_lt, Nat.le_zero_eq, Nat.not_le] at hnot
  obtain ⟨hzero, hold⟩ := hnot
  have hflow := h.waiting j.client fun i => decide (i = j)
  -- No frame before the step's own ones is counted twice, so the count is the same.
  have hsame : t.commands j.client (fun i => decide (i = j)) =
      s.commands j.client (fun i => decide (i = j)) := by
    obtain ⟨frames, hframes⟩ := h.received j.client
    unfold commands
    rw [← hframes, List.zipIdx_append, List.filterMap_append, List.countP_append]
    have hnew : ((frames.zipIdx (0 + (s.clients j.client).received.length)).filterMap
        Command.of?).countP (fun k => decide (CmdJob.mk j.client k = j)) = 0 := by
      refine List.countP_eq_zero.mpr fun k hk heq => ?_
      obtain ⟨x, hx, hof⟩ := List.mem_filterMap.mp hk
      have hle := List.le_snd_of_mem_zipIdx hx
      have hj : k.index = j.index := congrArg CmdJob.index (of_decide_eq_true heq)
      rw [(Command.of?_eq_some hof).2] at hj
      omega
    rw [hnew, Nat.add_zero]
  rw [hsame, hzero] at hflow
  rcases hj with hj | hj
  · omega
  · have hpos : 0 < (published o).countP
        (fun i => decide (i.client = j.client) && decide (i = j)) :=
      List.countP_pos_iff.mpr ⟨j, hj, by simp⟩
    omega

/-! ### Runs -/

variable {C : Type} [CFloat C] {allow : Sys F → Event → Prop} {h : List (Event × List Obs)}
  {s : Sys F}

/-- **The ledger of a run.** The jobs that wait and the ones that were published are together
no more than the commands that the client has sent. -/
theorem Runs.ledger (hrun : Runs C allow h s) (c : Nat) (p : CmdJob → Bool) :
    s.waiting c p + (published (shown h)).countP (fun j => j.client = c && p j) ≤
      s.commands c p := by
  refine hrun.invariant_history
    (P := fun h s => s.waiting c p +
      (published (shown h)).countP (fun j => j.client = c && p j) ≤ s.commands c p)
    (Nat.le_of_eq rfl) fun h s e t o ih _ hstep => ?_
  have hflow := (step_flow hstep).waiting c p
  rw [shown_snoc, published_append, List.countP_append]
  omega

/-- **The cmd topic is first-in first-out.** The commands that the robot has handled, followed
by the ones on the topic, are published commands in the order of publication. -/
theorem Runs.fifo (hrun : Runs C allow h s) :
    (processed (shown h) ++ s.cmdTopic).Sublist (published (shown h)) := by
  refine hrun.invariant_history
    (P := fun h s => (processed (shown h) ++ s.cmdTopic).Sublist (published (shown h)))
    (List.Sublist.refl _) fun h s e t o ih _ hstep => ?_
  rw [shown_snoc, processed_append, published_append, List.append_assoc]
  calc (processed (shown h) ++ (processed o ++ t.cmdTopic)).Sublist
        (processed (shown h) ++ (s.cmdTopic ++ published o)) :=
        List.Sublist.append_left (step_flow hstep).topic _
    _ = (processed (shown h) ++ s.cmdTopic) ++ published o := (List.append_assoc ..).symm
    List.Sublist _ (published (shown h) ++ published o) := ih.append_right _

/-! ### What a client has sent -/

/-- The bytes of client `c` that `recv` has returned in a history. -/
def chunks (c : Nat) (h : List (Event × List Obs)) : List Bytes :=
  h.filterMap fun x =>
    match x.1 with
    | .recv d chunk => if d = c then some chunk else none
    | _ => none

/-- The received chunks of a client, one event longer. -/
theorem chunks_snoc (c : Nat) (h : List (Event × List Obs)) (e : Event) (o : List Obs) :
    chunks c (h ++ [(e, o)]) = chunks c h ++ chunks c [(e, o)] :=
  List.filterMap_append

/-- A step other than `recv` leaves the decoders alone. -/
theorem step_decoder {s t : Sys F} {e : Event} {o : List Obs} (h : s.step C e = some (t, o))
    (he : ∀ c chunk, e ≠ .recv c chunk) (c : Nat) :
    (t.clients c).received = (s.clients c).received ∧
      (t.clients c).buffer = (s.clients c).buffer := by
  -- A client that is written back with the same decoder.
  have hset : ∀ d (cl : Client), cl.received = (s.clients d).received →
      cl.buffer = (s.clients d).buffer →
        ((s.setClient d cl).clients c).received = (s.clients c).received ∧
          ((s.setClient d cl).clients c).buffer = (s.clients c).buffer := by
    intro d cl hreceived hbuffer
    by_cases hd : c = d
    · subst hd
      rw [setClient_self]
      exact ⟨hreceived, hbuffer⟩
    · rw [setClient_of_ne s cl hd]
      exact ⟨rfl, rfl⟩
  cases step_effect h with
  | accept => exact hset _ _ rfl rfl
  | recv d chunk _ => exact absurd rfl (he d chunk)
  | gone e d _ => exact hset _ _ rfl rfl
  | rx d nowMs op rest t o htodo heffect =>
      cases heffect with
      | plain op helloOk todo o _ _ _ => exact hset _ _ rfl rfl
      | enqueue k h => exact hset _ _ rfl rfl
      | urgent u k =>
          cases u with
          | publish =>
              show ((publishCmd _ (s.setClient d _)).clients c).received = _ ∧
                ((publishCmd _ (s.setClient d _)).clients c).buffer = _
              rw [(publishCmd_rest _ _).1]
              exact hset _ _ rfl rfl
          | _ => exact hset _ _ rfl rfl
  | worker nowMs steady t o heffect =>
      cases heffect with
      | publish j hpc =>
          show ((s.publishCmd _).clients c).received = _ ∧ ((s.publishCmd _).clients c).buffer = _
          rw [(publishCmd_rest _ _).1]
          exact ⟨rfl, rfl⟩
      | _ => exact ⟨rfl, rfl⟩
  | ros nowMs t o heffect => cases heffect <;> exact ⟨rfl, rfl⟩
  | lose topic i => cases topic <;> exact ⟨rfl, rfl⟩
  | _ => exact ⟨rfl, rfl⟩

/-- The frames of a client are what its decoder makes of its bytes. -/
theorem Runs.received (hrun : Runs C allow h s) (c : Nat) :
    receiveAll next (chunks c h) = ((s.clients c).received, (s.clients c).buffer) := by
  refine hrun.invariant_history
    (P := fun h s => receiveAll next (chunks c h) = ((s.clients c).received, (s.clients c).buffer))
    rfl fun h s e t o ih _ hstep => ?_
  rw [chunks_snoc]
  -- A chunk for `c` goes through its decoder; everything else leaves the decoder alone.
  by_cases he : ∃ chunk, e = .recv c chunk
  · obtain ⟨chunk, rfl⟩ := he
    cases step_effect hstep with
    | recv _ _ htodo =>
        rw [setClient_self]
        have hchunks : chunks c [(Event.recv c chunk, [])] = [chunk] := by simp [chunks]
        rw [hchunks, receiveAll, List.foldl_append]
        show receive next (receiveAll next (chunks c h)) chunk = _
        rw [ih]
        rfl
    | takeOther _ _ _ _ _ _ he => rcases he with he | ⟨_, he⟩ <;> cases he
    | gone _ _ he => rcases he with he | he <;> cases he
    | robot _ _ _ _ _ _ he => rcases he with ⟨_, _, he, -⟩ | he <;> cases he
  · have hchunks : chunks c [(e, o)] = [] := by
      cases e with
      | recv d chunk =>
          have hd : d ≠ c := fun h => he ⟨chunk, by rw [h]⟩
          simp [chunks, hd]
      | _ => rfl
    rw [hchunks, List.append_nil, ih]
    by_cases hrecv : ∃ d chunk, e = .recv d chunk
    · obtain ⟨d, chunk, rfl⟩ := hrecv
      have hd : c ≠ d := fun h => he ⟨chunk, by rw [h]⟩
      cases step_effect hstep with
      | recv _ _ _ => rw [setClient_of_ne s _ hd]
      | takeOther _ _ _ _ _ _ he => rcases he with he | ⟨_, he⟩ <;> cases he
      | gone _ _ he => rcases he with he | he <;> cases he
      | robot _ _ _ _ _ _ he => rcases he with ⟨_, _, he, -⟩ | he <;> cases he
    · obtain ⟨hreceived, hbuffer⟩ :=
        step_decoder hstep (fun d chunk h => hrecv ⟨d, chunk, h⟩) c
      rw [hreceived, hbuffer]

/-- A client that writes valid frames: what the bridge has received of them is the front of what
the client has sent, so positions are the order of sending. -/
theorem Runs.received_sent (hrun : Runs C allow h s) (c : Nat) {frames : List Frame}
    (hvalid : ∀ f ∈ frames, f.payload.length ≤ Wire.maxPayload)
    (hsent : (chunks c h).flatten <+: Wire.stream Ui.encodeFrame frames) :
    (s.clients c).received <+: frames := by
  obtain ⟨rest, hrest⟩ := hsent
  obtain ⟨done, todo, p, rfl, hrecv, -⟩ := Wire.frameCodec.receiveAll_of_append hvalid hrest
  have hreceived := Runs.received hrun c
  have heq : (s.clients c).received = done := by
    have h := hreceived.symm.trans hrecv
    exact congrArg Prod.fst h
  rw [heq]
  exact List.prefix_append done todo

end Sys

end BotCockpit.Bridge
