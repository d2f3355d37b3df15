import BotCockpit.Proofs.Bridge.Acks

/-!
# `BotCockpit.Proofs.Bridge.Order`: the commands of a client, in order

A batch is sorted, an ESTOP goes to the urgent handler at once, and any other command waits in a
queue that all clients share. `Orders` is the ledger of one step for one client, with lists in
the place of counts: what was waiting and what is new is what was taken and what waits now.
`step_orders` proves it for every step, and `Runs.orders` adds the steps of a run up.

`commands_in_order` is the result for a client that sends valid frames. Nothing is lost on the
way, because the threads can always go on until nothing waits (`Runs.settles`).
-/

set_option autoImplicit false

namespace BotCockpit.Bridge

open BotCockpit.Lib
open BotCockpit.Wire (Frame)
open BotCockpit.Sim (Output Node)

/-- The job of a worker early in it. -/
theorem Worker.Early.job?_eq {j : QueuedJob} {w : Worker} (h : w.Early j) : w.job? = some j := by
  cases h <;> rfl

/-- The job of a worker that waits. -/
theorem Worker.Waits.job?_eq {j : QueuedJob} {w : Worker} (h : w.Waits j) : w.job? = some j := by
  cases h <;> rfl

/-- How far the worker is from `idle`, when the deadline of its wait has come. -/
def Worker.rank : Worker → Nat
  | .idle => 0
  | .ack _ _ => 1
  | .abort _ | .expired _ => 2
  | .loop _ _ => 3
  | .enter _ | .checkDone _ _ => 4
  | .publish _ | .checkRaised _ _ => 5
  | .register _ => 6
  | .gate _ => 7
  | .fresh _ => 8
  | .greeted _ => 9
  | .popped _ => 10

namespace Sys

variable {F : Type} [CDouble F] {C : Type} [CFloat C] {s t u : Sys F} {e : Event} {o : List Obs}
  {allow : Sys F → Event → Prop} {h : List (Event × List Obs)} {c d : Nat}

/-! ### Where the commands of a client are -/

/-- The ESTOPs of client `c` that wait for their call. -/
def calling (s : Sys F) (c : Nat) : List Command := (s.clients c).todo.filterMap RxOp.calls?

/-- The commands of client `c` in the queue. -/
def queued (s : Sys F) (c : Nat) : List Command :=
  s.queue.filterMap fun j => j.toCmdJob.commandFor? c

/-- The commands of client `c` that will be taken from the queue. -/
def queueing (s : Sys F) (c : Nat) : List Command :=
  s.queued c ++ (s.clients c).todo.filterMap RxOp.queues?

/-- The command of client `c` that the worker has in hand. -/
def inHand (s : Sys F) (c : Nat) : List Command :=
  s.worker.job?.toList.filterMap fun j => j.toCmdJob.commandFor? c

/-- What every step does to the commands of client `c`. -/
def Orders (c : Nat) (s t : Sys F) (e : Event) (o : List Obs) : Prop :=
  ∃ new : List Command,
    commandsOf (t.clients c).received = commandsOf (s.clients c).received ++ new ∧
    (s.urgentCall? c e).toList ++ t.calling c =
      s.calling c ++ new.filter Command.urgent ∧
    (s.taken? c e).toList ++ t.queueing c =
      s.queueing c ++ new.filter (fun k => !k.urgent) ∧
    workerAcks? c (e, o) ++ (t.inHand c).map (·.frame.seq) =
      ((s.inHand c) ++ (s.taken? c e).toList).map (·.frame.seq)

/-- A step that leaves the commands of the client where they are. -/
theorem Orders.of_same (htodo : (t.clients c).todo = (s.clients c).todo)
    (hreceived : (t.clients c).received = (s.clients c).received)
    (hqueue : t.queued c = s.queued c) (hworker : t.worker.job? = s.worker.job?)
    (hcall : s.urgentCall? c e = none) (htaken : s.taken? c e = none)
    (hacks : workerAcks? c (e, o) = []) : Orders c s t e o := by
  refine ⟨[], ?_, ?_, ?_, ?_⟩
  · rw [hreceived, List.append_nil]
  · simp [hcall, calling, htodo]
  · simp [htaken, queueing, hqueue, htodo]
  · simp [hacks, htaken, inHand, hworker]

/-! ### The receive threads -/

/-- An operation of the thread of the client itself. -/
theorem Orders.of_rx {nowMs : UInt64} {op : RxOp} {rest : List RxOp}
    (htodo : (s.clients c).todo = op :: rest) (hnext : (t.clients c).todo = rest)
    (hreceived : (t.clients c).received = (s.clients c).received)
    (hqueue : t.queued c = s.queued c ++ op.queues?.toList)
    (hworker : t.worker = s.worker) : Orders c s t (.rx c nowMs) o := by
  refine ⟨[], ?_, ?_, ?_, ?_⟩
  · rw [hreceived, List.append_nil]
  · simp only [urgentCall?, calling, htodo, hnext, if_true, List.head?_cons, Option.bind_some,
      List.filterMap_cons, List.filter_nil, List.append_nil]
    cases op.calls? <;> rfl
  · simp only [taken?, queueing, htodo, hnext, hqueue, List.filterMap_cons, List.filter_nil,
      List.append_nil, Option.toList_none, List.nil_append, List.append_assoc]
    cases op.queues? <;> rfl
  · simp only [workerAcks?, taken?, inHand, hworker, Option.toList_none, List.append_nil,
      List.nil_append]

/-- What a client has queued is read off the queue. -/
theorem queued_of_queue (h : t.queue = s.queue) : t.queued c = s.queued c := by
  rw [queued, queued, h]

/-- A receiving thread keeps the order of a client's commands. -/
theorem RxEffect.orders {nowMs : UInt64} {op : RxOp} {rest : List RxOp}
    (htodo : (s.clients d).todo = op :: rest) (heffect : RxEffect s d rest op t o)
    (hopen : d = c → (s.clients c).fdOpen = true) : Orders c s t (.rx d nowMs) o := by
  -- The client's own thread first.
  by_cases hd : d = c
  · subst hd
    cases heffect with
    | plain op helloOk todo o hop hnext _ =>
        have hqueues : op.queues? = none := by
          cases op with
          | enqueue k h => exact absurd rfl (hop.1 k h)
          | _ => rfl
        rcases hnext with rfl | ⟨-, -, hclosed⟩
        · refine Orders.of_rx htodo (by rw [setClient_self]) (by rw [setClient_self]) ?_ rfl
          rw [hqueues, Option.toList_none, List.append_nil]
          rfl
        · rw [hopen rfl] at hclosed
          cases hclosed
    | enqueue k h =>
        refine Orders.of_rx htodo ?_ ?_ ?_ rfl
        · show ((s.setClient d _).clients d).todo = _
          rw [setClient_self]
        · show ((s.setClient d _).clients d).received = _
          rw [setClient_self]
        · simp [queued, RxOp.queues?, CmdJob.commandFor?]
    | urgent u k =>
        -- An emergency stop passes the queue by, so it does not count here.
        have hplain : ∀ {t : Sys F} {o : List Obs}, t.clients =
            (s.setClient d { s.clients d with todo := rest }).clients → t.queue = s.queue →
              t.worker = s.worker → Orders d s t (.rx d nowMs) o := by
          intro t o hclients hqueue hworker
          refine Orders.of_rx htodo ?_ ?_ ?_ hworker
          · rw [hclients, setClient_self]
          · rw [hclients, setClient_self]
          · rw [queued_of_queue hqueue]
            simp [RxOp.queues?]
        cases u with
        | publish =>
            obtain ⟨hclients, hqueue, hworker⟩ := publishCmd_rest ⟨d, k⟩
              (s.setClient d { s.clients d with todo := rest })
            exact hplain hclients hqueue hworker
        | _ => exact hplain rfl rfl rfl
  · -- Another client's thread leaves everything of `c` alone.
    have hother : ∀ {t : Sys F} {o : List Obs} (cl : Client),
      t.clients = (s.setClient d cl).clients →
        t.queued c = s.queued c → t.worker = s.worker → Orders c s t (.rx d nowMs) o := by
      intro t o cl hclients hqueue hworker
      have hsame : t.clients c = s.clients c := by rw [hclients, setClient_of_ne s cl (Ne.symm hd)]
      exact Orders.of_same (by rw [hsame]) (by rw [hsame]) hqueue (by rw [hworker])
        (if_neg hd) rfl rfl
    cases heffect with
    | plain op helloOk todo o hop hnext _ => exact hother _ rfl rfl rfl
    | enqueue k h =>
        refine hother { s.clients d with todo := rest } rfl ?_ rfl
        simp [queued, CmdJob.commandFor?, hd]
    | urgent u k =>
        cases u with
        | publish =>
            obtain ⟨hclients, hqueue, hworker⟩ := publishCmd_rest ⟨d, k⟩
              (s.setClient d { s.clients d with todo := rest })
            exact hother _ hclients (queued_of_queue hqueue) hworker
        | _ => exact hother { s.clients d with todo := rest } rfl rfl rfl

/-! ### The worker -/

/-- The worker keeps its job. -/
theorem Orders.of_pc {nowMs : UInt64} {steady : Nat} (hclients : t.clients = s.clients)
    (hqueue : t.queue = s.queue) (hbusy : s.worker ≠ .idle)
    (hworker : t.worker.job? = s.worker.job?) (hacks : acks c o = []) :
    Orders c s t (.worker nowMs steady) o := by
  refine Orders.of_same (by rw [hclients]) (by rw [hclients]) (queued_of_queue hqueue) hworker rfl
    ?_ hacks
  simp only [taken?]

/-- So does the worker. -/
theorem workerStep_orders {nowMs : UInt64} {steady : Nat}
    (hstep : s.workerStep nowMs steady = some (t, o))
    (hopen : ∀ j ∈ s.worker.job?, j.client = c → (s.clients c).fdOpen = true) :
    Orders c s t (.worker nowMs steady) o := by
  cases workerStep_effect hstep with
  | pop j queue hpc hqueue =>
      -- The job goes from the queue into the worker's hand.
      have htaken : s.taken? c (.worker nowMs steady) = j.toCmdJob.commandFor? c := by
        simp [taken?, hpc, hqueue]
      refine ⟨[], by simp, by simp [urgentCall?, calling], ?_, ?_⟩
      · simp only [htaken, queueing, queued, hqueue, List.filterMap_cons, List.filter_nil,
          List.append_nil]
        cases j.toCmdJob.commandFor? c <;> rfl
      · simp only [htaken, inHand, hpc, workerAcks?, Worker.job?, Option.toList_none,
          List.filterMap_nil, List.nil_append, Option.toList_some, List.filterMap_cons]
        cases j.toCmdJob.commandFor? c <;> rfl
  | drop j hpc =>
      by_cases hj : j.client = c
      · -- The connection is open, so the job is not dropped.
        have hfd : (s.clients j.client).fdOpen = true := by
          rw [hj]
          exact hopen j (by rw [hpc]; rfl) hj
        simp only [workerStep, hpc, hfd, if_true, goto, Option.some.injEq, Prod.mk.injEq] at hstep
        have hworker := congrArg Sys.worker hstep.1
        cases hworker
      · refine ⟨[], by simp, by simp [urgentCall?, calling], ?_, ?_⟩
        · simp [taken?, hpc, queueing, queued]
        · simp [taken?, hpc, inHand, workerAcks?, Worker.job?, CmdJob.commandFor?, hj, acks]
  | early j w hpc hnext =>
      refine Orders.of_pc rfl rfl (fun h => ?_) (hnext.job?_eq.trans hpc.job?_eq.symm) rfl
      rw [h] at hpc
      cases hpc
  | refuse j reason o hpc ho =>
      refine Orders.of_pc rfl rfl (fun h => ?_) hpc.job?_eq.symm ?_
      · rw [h] at hpc
        cases hpc
      · rcases ho with rfl | rfl <;> rfl
  | register j hpc => exact Orders.of_pc rfl rfl (by simp [hpc]) (by rw [hpc]; rfl) rfl
  | publish j hpc =>
      obtain ⟨hclients, hqueue, -⟩ := publishCmd_rest j.toCmdJob s
      exact Orders.of_pc hclients hqueue (by simp [hpc]) (by rw [hpc]; rfl) rfl
  | wait j w hpc hnext hraised =>
      refine Orders.of_pc rfl rfl (fun h => ?_) (hnext.job?_eq.trans hpc.job?_eq.symm) rfl
      rw [h] at hpc
      cases hpc
  | giveUp j reason hpc =>
      rcases hpc with ⟨hpc, -⟩ | ⟨hpc, -⟩ <;>
        exact Orders.of_pc rfl rfl (by simp [hpc]) (by rw [hpc]; rfl) rfl
  | take j deadline p hpc hpending hdone =>
      exact Orders.of_pc rfl rfl (by simp [hpc]) (by rw [hpc]; rfl) rfl
  | ack j text hpc =>
      -- The job leaves the worker's hand with its acknowledgement.
      refine ⟨[], by simp, by simp [urgentCall?, calling], ?_, ?_⟩
      · simp [taken?, hpc, queueing, queued]
      · by_cases hj : j.client = c
        · have hfd : (s.clients j.client).fdOpen = true := by
            rw [hj]
            exact hopen j (by rw [hpc]; rfl) hj
          simp [taken?, hpc, inHand, workerAcks?, Worker.job?, CmdJob.commandFor?, hj, acks,
            sendFrame, hj ▸ hfd, Obs.ack?, CmdJob.seq]
        · have hnone : acks c (s.sendFrame j.client msgCmdAck j.seq text) = [] := by
            unfold sendFrame
            split <;> simp [acks, Obs.ack?, hj]
          simp [taken?, hpc, inHand, workerAcks?, Worker.job?, CmdJob.commandFor?, hj, hnone]

/-! ### Every step -/

/-- What one frame leads to: a call for an ESTOP, a place in the queue for any other command. -/
theorem filterMap_handleFrame (x : Frame × Nat) :
    (handleFrame x.2 x.1 ++ [RxOp.checkFd]).filterMap RxOp.calls? =
        ((Command.of? x).filter Command.urgent).toList ∧
      (handleFrame x.2 x.1 ++ [RxOp.checkFd]).filterMap RxOp.queues? =
        ((Command.of? x).filter fun k => !k.urgent).toList := by
  have hhello : msgHello ∉ commandTypes := by decide
  have hheartbeat : msgHeartbeat ∉ commandTypes := by decide
  unfold handleFrame Command.of?
  by_cases h₁ : x.1.type = msgHello
  · rw [if_pos h₁, dif_neg (h₁ ▸ hhello)]
    split <;> exact ⟨rfl, rfl⟩
  by_cases h₂ : x.1.type = msgHeartbeat
  · rw [if_neg h₁, if_pos h₂, dif_neg (h₂ ▸ hheartbeat)]
    exact ⟨rfl, rfl⟩
  rw [if_neg h₁, if_neg h₂]
  by_cases h₃ : x.1.type ∈ commandTypes
  · rw [dif_pos h₃, dif_pos h₃]
    unfold enqueueCmd
    split
    · rename_i hurgent
      simp only [Option.filter_some, hurgent]
      exact ⟨rfl, rfl⟩
    · rename_i hurgent
      simp only [Option.filter_some, Bool.not_eq_false _ ▸ hurgent]
      exact ⟨rfl, rfl⟩
  · rw [dif_neg h₃, dif_neg h₃]
    exact ⟨rfl, rfl⟩

/-- A command is urgent when its frame is an ESTOP. -/
theorem Command.of?_urgent {x : Frame × Nat} {k : Command} (h : Command.of? x = some k) :
    k.urgent = decide (x.1.type = msgCmdEstop) := by
  rw [Command.urgent, (Command.of?_eq_some h).1]

/-- A filter that takes out only what the map drops does not matter. -/
theorem filterMap_filter_all {α β : Type} {q : α → Bool} {f : α → Option β} (l : List α)
    (h : ∀ x, ¬q x = true → f x = none) : (l.filter q).filterMap f = l.filterMap f := by
  rw [List.filterMap_filter]
  congr
  funext x
  split
  · rfl
  · exact (h x ‹_›).symm

/-- A filter that leaves only what the map drops leaves nothing. -/
theorem filterMap_filter_none {α β : Type} {q : α → Bool} {f : α → Option β} (l : List α)
    (h : ∀ x, q x = true → f x = none) : (l.filter q).filterMap f = [] := by
  refine List.filterMap_eq_nil_iff.mpr fun x hx => ?_
  exact h x (List.mem_filter.mp hx).2

/-- The stable sort keeps the ESTOPs of a batch in order, and the other commands too. -/
theorem filterMap_estopFirst (batch : List (Frame × Nat)) (p : Command → Bool)
    (hp : p = Command.urgent ∨ p = fun k => !k.urgent) :
    (estopFirst batch).filterMap (fun x => (Command.of? x).filter p) =
      (batch.filterMap Command.of?).filter p := by
  -- One of the two halves of the sorted batch holds no such command.
  have hnone : ∀ x : Frame × Nat, ¬p = Command.urgent ∧ x.1.type = msgCmdEstop ∨
      p = Command.urgent ∧ ¬x.1.type = msgCmdEstop → (Command.of? x).filter p = none := by
    intro x hx
    cases hk : Command.of? x with
    | none => rfl
    | some k =>
        have hurgent := Command.of?_urgent hk
        rcases hx with ⟨hne, htype⟩ | ⟨rfl, htype⟩
        · obtain rfl := hp.resolve_left hne
          simp [hurgent, htype]
        · simp [hurgent, htype]
  rw [List.filter_filterMap, estopFirst, List.filterMap_append]
  by_cases hpu : p = Command.urgent
  · rw [filterMap_filter_all _ fun x hx => hnone x (Or.inr ⟨hpu, by simpa using hx⟩),
      filterMap_filter_none _ fun x hx => hnone x (Or.inr ⟨hpu, by simpa using hx⟩),
      List.append_nil]
  · rw [filterMap_filter_none _ fun x hx => hnone x (Or.inl ⟨hpu, by simpa using hx⟩),
      filterMap_filter_all _ fun x hx => hnone x (Or.inl ⟨hpu, by simpa using hx⟩),
      List.nil_append]

/-- The ESTOPs of a batch are called in order, and its other commands are queued in order. -/
theorem filterMap_batchOps (batch : List (Frame × Nat)) :
    (batchOps batch).filterMap RxOp.calls? =
        (batch.filterMap Command.of?).filter Command.urgent ∧
      (batchOps batch).filterMap RxOp.queues? =
        (batch.filterMap Command.of?).filter fun k => !k.urgent := by
  have hflat : ∀ (f : RxOp → Option Command) (p : Command → Bool),
      (∀ x : Frame × Nat, (handleFrame x.2 x.1 ++ [RxOp.checkFd]).filterMap f =
        ((Command.of? x).filter p).toList) → ∀ frames : List (Frame × Nat),
          (frames.flatMap fun x => handleFrame x.2 x.1 ++ [RxOp.checkFd]).filterMap f =
            frames.filterMap fun x => (Command.of? x).filter p := by
    intro f p hframe frames
    induction frames with
    | nil => rfl
    | cons x frames ih =>
        rw [List.flatMap_cons, List.filterMap_append, ih, hframe, List.filterMap_cons]
        cases (Command.of? x).filter p <;> rfl
  unfold batchOps
  constructor
  · rw [hflat _ _ fun x => (filterMap_handleFrame x).1]
    exact filterMap_estopFirst batch _ (Or.inl rfl)
  · rw [hflat _ _ fun x => (filterMap_handleFrame x).2]
    exact filterMap_estopFirst batch _ (Or.inr rfl)

/-- One `recv`: the new commands wait, the ESTOPs for their calls and the others to be queued. -/
theorem receive_orders (chunk : Bytes) (htodo : (s.clients c).todo = []) :
    Orders c s (s.setClient c ((s.clients c).receive chunk)) (.recv c chunk) [] := by
  obtain ⟨frames, rest, hdrain⟩ :
      ∃ frames rest, drain next ((s.clients c).buffer ++ chunk) = (frames, rest) := ⟨_, _, rfl⟩
  have hreceive : (s.clients c).receive chunk =
      { s.clients c with
        buffer := rest
        received := (s.clients c).received ++ frames
        todo := batchOps (frames.zipIdx (s.clients c).received.length) } := by
    simp only [Client.receive, hdrain]
  obtain ⟨hcalls, hqueues⟩ :=
    filterMap_batchOps (frames.zipIdx (s.clients c).received.length)
  rw [hreceive]
  refine ⟨(frames.zipIdx (s.clients c).received.length).filterMap Command.of?, ?_, ?_, ?_, ?_⟩
  · rw [setClient_self, commandsOf, commandsOf, List.zipIdx_append, List.filterMap_append]
    simp
  · simp [urgentCall?, calling, htodo, hcalls]
  · simp only [taken?, queueing, htodo, setClient_self, hqueues, Option.toList_none,
      List.nil_append, List.filterMap_nil, List.append_nil]
    rfl
  · simp [workerAcks?, taken?, inHand, setClient]

/-- A step of another party leaves the commands where they are. -/
theorem Orders.of_other (htodo : (t.clients c).todo = (s.clients c).todo)
    (hreceived : (t.clients c).received = (s.clients c).received) (hqueue : t.queue = s.queue)
    (hworker : t.worker = s.worker) (he : ∀ d nowMs, e ≠ .rx d nowMs)
    (hw : ∀ nowMs steady, e ≠ .worker nowMs steady) : Orders c s t e o := by
  refine Orders.of_same htodo hreceived (queued_of_queue hqueue) (by rw [hworker]) ?_ ?_ ?_
  · cases e with
    | rx d nowMs => exact absurd rfl (he d nowMs)
    | _ => rfl
  · cases e with
    | worker nowMs steady => exact absurd rfl (hw nowMs steady)
    | _ => rfl
  · cases e with
    | worker nowMs steady => exact absurd rfl (hw nowMs steady)
    | _ => rfl

/-- A step that opens or closes a connection. -/
theorem Orders.of_fd {b : Bool}
    (hclients : t.clients = (s.setClient d { s.clients d with fdOpen := b }).clients)
    (hqueue : t.queue = s.queue) (hworker : t.worker = s.worker)
    (he : ∀ d nowMs, e ≠ .rx d nowMs) (hw : ∀ nowMs steady, e ≠ .worker nowMs steady) :
    Orders c s t e o := by
  have hsame : (t.clients c).todo = (s.clients c).todo ∧
      (t.clients c).received = (s.clients c).received := by
    rw [hclients]
    by_cases hd : c = d
    · subst hd
      rw [setClient_self]
      exact ⟨rfl, rfl⟩
    · rw [setClient_of_ne s _ hd]
      exact ⟨rfl, rfl⟩
  exact Orders.of_other hsame.1 hsame.2 hqueue hworker he hw

/-- **The ledger of a step.** -/
theorem step_orders (hstep : s.step C e = some (t, o))
    (hopen : (s.clients c).fdOpen = true ∨ (s.clients c).todo = [] ∧ s.inHand c = []) :
    Orders c s t e o := by
  cases step_effect hstep with
  | accept =>
      exact Orders.of_fd (d := s.accepted) (b := true) rfl rfl rfl (by simp) (by simp)
  | recv d chunk htodo _ =>
      by_cases hd : d = c
      · subst hd
        exact receive_orders chunk htodo
      · have hsame := setClient_of_ne s ((s.clients d).receive chunk) (Ne.symm hd)
        exact Orders.of_same (by rw [hsame]) (by rw [hsame]) rfl rfl rfl rfl rfl
  | gone e d he =>
      refine Orders.of_fd (d := d) (b := false) rfl rfl rfl ?_ ?_ <;>
        rcases he with rfl | rfl <;> simp
  | rx d nowMs op rest t o htodo heffect =>
      refine heffect.orders htodo fun hd => hopen.resolve_right ?_
      rintro ⟨hnil, -⟩
      rw [← hd, htodo] at hnil
      cases hnil
  | worker nowMs steady t o heffect =>
      refine workerStep_orders hstep fun j hj hc => hopen.resolve_right ?_
      rintro ⟨-, hnil⟩
      rw [inHand, Option.mem_def.mp hj] at hnil
      simp [CmdJob.commandFor?, hc] at hnil
  | ros nowMs t o heffect =>
      cases heffect <;> exact Orders.of_other rfl rfl rfl rfl (by simp) (by simp)
  | takeOther e r json topic _ _ he =>
      refine Orders.of_other rfl rfl rfl rfl ?_ ?_ <;> rcases he with rfl | ⟨_, rfl⟩ <;> simp
  | robot e call console node out _ he _ =>
      refine Orders.of_other rfl rfl rfl rfl ?_ ?_ <;> rcases he with ⟨_, _, rfl, -⟩ | rfl <;> simp
  | lose topic i => cases topic <;> exact Orders.of_other rfl rfl rfl rfl (by simp) (by simp)
  | _ => exact Orders.of_other rfl rfl rfl rfl (by simp) (by simp)

/-! ### Runs -/

/-- A client that has not come yet has sent nothing. -/
theorem Runs.unborn_received (hrun : Runs C allow h s) (hc : s.accepted ≤ c) :
    (s.clients c).received = [] := by
  induction hrun with
  | nil => rfl
  | @snoc h s t e o hrun hallow hstep ih =>
      have hbefore : s.accepted ≤ c := Nat.le_trans (step_open hstep).1 hc
      by_cases he : ∃ d chunk, e = .recv d chunk
      · obtain ⟨d, chunk, rfl⟩ := he
        cases step_effect hstep with
        | recv _ _ _ hopen =>
            have hd : c ≠ d := by
              rintro rfl
              rw [(Runs.unborn hrun hbefore).1] at hopen
              cases hopen
            rw [setClient_of_ne s _ hd]
            exact ih hbefore
        | gone _ _ he => rcases he with he | he <;> cases he
        | takeOther _ _ _ _ _ _ he => rcases he with he | ⟨_, he⟩ <;> cases he
        | robot _ _ _ _ _ _ he => rcases he with ⟨_, _, he, -⟩ | he <;> cases he
      · rw [(step_decoder hstep (fun d chunk h => he ⟨d, chunk, h⟩) c).1]
        exact ih hbefore

/-- **The ledger of a run**, for a client whose connection is open. -/
structure InOrder (C : Type) [CFloat C] (c : Nat) (h : List (Event × List Obs)) (s : Sys F) :
    Prop where
  calls : urgentCalls C F c h ++ s.calling c =
    (commandsOf (s.clients c).received).filter Command.urgent
  jobs : taken C F c h ++ s.queueing c =
    (commandsOf (s.clients c).received).filter fun k => !k.urgent
  acks : workerAcks c h ++ (s.inHand c).map (·.frame.seq) = (taken C F c h).map (·.frame.seq)

/-- In every run a client's commands are in order as long as it is connected. -/
theorem Runs.inOrder (hrun : Runs C allow h s)
    (hlive : (s.clients c).fdOpen = true ∨ s.accepted ≤ c) : InOrder C c h s := by
  induction hrun with
  | nil => exact ⟨rfl, rfl, rfl⟩
  | @snoc h s t e o hrun hallow hstep ih =>
      obtain ⟨hle, hopen⟩ := step_open hstep
      have hbefore : (s.clients c).fdOpen = true ∨ s.accepted ≤ c := by
        rcases hlive with h | h
        · rcases hopen c h with h | ⟨rfl, -⟩
          · exact Or.inl h
          · exact Or.inr (Nat.le_refl _)
        · exact Or.inr (Nat.le_trans hle h)
      have hs := ih hbefore
      -- A client that has not come yet has nothing in the hands of the worker.
      have hidle : (s.clients c).fdOpen = true ∨ (s.clients c).todo = [] ∧ s.inHand c = [] := by
        refine hbefore.imp_right fun hc => ⟨(Runs.unborn hrun hc).2, ?_⟩
        have hjobs := hs.jobs
        rw [Runs.unborn_received hrun hc] at hjobs
        have htaken := (List.append_eq_nil_iff.mp hjobs).1
        have hacks := hs.acks
        rw [htaken] at hacks
        exact List.map_eq_nil_iff.mp (List.append_eq_nil_iff.mp hacks).2
      obtain ⟨new, hnew, hcalls, hjobs, hacks⟩ := step_orders hstep hidle
      have htrace := hrun.trace_snoc e o
      have hcall : urgentCalls C F c (h ++ [(e, o)]) =
          urgentCalls C F c h ++ (s.urgentCall? c e).toList := by
        rw [urgentCalls, htrace, List.filterMap_append]
        rfl
      have htake : taken C F c (h ++ [(e, o)]) = taken C F c h ++ (s.taken? c e).toList := by
        rw [taken, htrace, List.filterMap_append]
        rfl
      have hack : workerAcks c (h ++ [(e, o)]) = workerAcks c h ++ workerAcks? c (e, o) := by
        simp [workerAcks]
      refine ⟨?_, ?_, ?_⟩
      · rw [hcall, List.append_assoc, hcalls, ← List.append_assoc, hs.calls, hnew,
          List.filter_append]
      · rw [htake, List.append_assoc, hjobs, ← List.append_assoc, hs.jobs, hnew,
          List.filter_append]
      · rw [hack, htake, List.append_assoc, hacks, List.map_append, ← List.append_assoc, hs.acks,
          List.map_append]

/-! ### ESTOPs first -/

/-- What follows in a batch after the operation of another frame belongs to no ESTOP. -/
def StopsFirst (ops : List RxOp) : Prop :=
  ops.Pairwise fun a b => a.ordinary = true → b.stops = false

/-- In a batch the stops come first. -/
theorem stopsFirst_batchOps (batch : List (Frame × Nat)) : StopsFirst (batchOps batch) := by
  -- The work of a stop is nothing ordinary.
  have hstop : ∀ x : Frame × Nat, x.1.type = msgCmdEstop →
      ∀ op ∈ handleFrame x.2 x.1 ++ [RxOp.checkFd], op.ordinary = false := by
    intro x htype
    have hne : msgCmdEstop ≠ msgHello ∧ msgCmdEstop ≠ msgHeartbeat ∧
        msgCmdEstop ∈ commandTypes := by
      decide
    rw [handleFrame, if_neg (htype ▸ hne.1), if_neg (htype ▸ hne.2.1), dif_pos (htype ▸ hne.2.2),
      enqueueCmd, dif_neg (by simp [Command.urgent, htype])]
    simp [urgentEstop, RxOp.ordinary]
  -- The work of another frame is no stop.
  have hother : ∀ x : Frame × Nat, ¬x.1.type = msgCmdEstop →
      ∀ op ∈ handleFrame x.2 x.1 ++ [RxOp.checkFd], op.stops = false := by
    intro x htype
    unfold handleFrame
    split
    · split <;> simp [RxOp.stops]
    split
    · simp [RxOp.stops]
    split
    · rw [enqueueCmd, dif_pos (by simp [Command.urgent, htype])]
      simp [RxOp.stops]
    · simp [RxOp.stops]
  unfold StopsFirst batchOps estopFirst
  rw [List.flatMap_append]
  have hfirst : ∀ op ∈ (batch.filter fun x => decide (x.1.type = msgCmdEstop)).flatMap
      (fun x => handleFrame x.2 x.1 ++ [RxOp.checkFd]), op.ordinary = false := by
    intro op hop
    obtain ⟨x, hx, hop⟩ := List.mem_flatMap.mp hop
    exact hstop x (by simpa using (List.mem_filter.mp hx).2) op hop
  have hrest : ∀ op ∈ (batch.filter fun x => decide ¬x.1.type = msgCmdEstop).flatMap
      (fun x => handleFrame x.2 x.1 ++ [RxOp.checkFd]), op.stops = false := by
    intro op hop
    obtain ⟨x, hx, hop⟩ := List.mem_flatMap.mp hop
    exact hother x (by simpa using (List.mem_filter.mp hx).2) op hop
  refine List.pairwise_append.mpr ⟨?_, ?_, ?_⟩
  · refine List.pairwise_iff_forall_sublist.mpr fun {a b} hab h => ?_
    rw [hfirst a (hab.subset (List.mem_cons_self ..))] at h
    cases h
  · refine List.pairwise_iff_forall_sublist.mpr fun {a b} hab _ => ?_
    exact hrest b (hab.subset (List.mem_cons_of_mem a (List.mem_singleton_self b)))
  · intro a _ b hb _
    exact hrest b hb

/-- Every receive thread calls the ESTOPs of its batch first. -/
theorem Runs.stopsFirst (hrun : Runs C allow h s) (c : Nat) : StopsFirst (s.clients c).todo := by
  refine hrun.invariant (P := fun s => StopsFirst (s.clients c).todo)
    (show StopsFirst ((init : Sys F).clients c).todo from List.Pairwise.nil) fun s e t o ih _
      hstep => ?_
  cases step_todo hstep c with
  | same h => exact h ▸ ih
  | next nowMs op rest he htodo hnext =>
      rw [htodo] at ih
      rcases hnext with hnext | ⟨hnext, -, -⟩
      · exact hnext ▸ (List.pairwise_cons.mp ih).2
      · exact hnext ▸ List.Pairwise.nil
  | batch frames hopen htodo hreceived hnext => exact hnext ▸ stopsFirst_batchOps _

/-! ### The threads can go on -/

/-- A busy worker comes nearer to `idle`, and leaves queue and clients alone. -/
theorem workerStep_rank (hbusy : s.worker ≠ .idle) :
    ∃ steady t o, s.workerStep 0 steady = some (t, o) ∧ t.worker.rank < s.worker.rank ∧
      t.queue = s.queue ∧ t.clients = s.clients := by
  cases hpc : s.worker with
  | idle => exact absurd hpc hbusy
  | loop j deadline =>
      -- A worker that waits is let go on by a clock that stands at the deadline.
      refine ⟨deadline, ?_⟩
      simp only [workerStep, hpc, Nat.lt_irrefl, if_false]
      exact ⟨_, _, rfl, by simp [Worker.rank], rfl, rfl⟩
  | publish j =>
      obtain ⟨hclients, hqueue, -⟩ := publishCmd_rest j.toCmdJob s
      refine ⟨0, ?_⟩
      simp only [workerStep, hpc]
      exact ⟨_, _, rfl, by simp [Worker.rank], hqueue, hclients⟩
  | checkDone j deadline =>
      refine ⟨0, ?_⟩
      simp only [workerStep, hpc]
      split
      · split <;> exact ⟨_, _, rfl, by simp [Worker.rank], rfl, rfl⟩
      · exact ⟨_, _, rfl, by simp [Worker.rank], rfl, rfl⟩
  | popped j | greeted j | gate j | checkRaised j deadline =>
      refine ⟨0, ?_⟩
      simp only [workerStep, hpc]
      split <;> exact ⟨_, _, rfl, by simp [Worker.rank], rfl, rfl⟩
  | fresh j =>
      refine ⟨0, ?_⟩
      simp only [workerStep, hpc]
      split
      · split <;> exact ⟨_, _, rfl, by simp [Worker.rank], rfl, rfl⟩
      · exact ⟨_, _, rfl, by simp [Worker.rank], rfl, rfl⟩
  | _ =>
      refine ⟨0, ?_⟩
      simp only [workerStep, hpc]
      exact ⟨_, _, rfl, by simp [Worker.rank], rfl, rfl⟩

/-- The worker gets done with its job: a wait ends at its deadline at the latest. -/
theorem worker_finishes (c : Nat) (s : Sys F) :
    ∃ h t, Run (step C) (threadsOf c) s h t ∧ t.worker = .idle ∧ t.queue = s.queue ∧
      t.clients = s.clients := by
  induction hn : s.worker.rank using Nat.strong_induction_on generalizing s with
  | _ n ih =>
      by_cases hbusy : s.worker = .idle
      · exact ⟨[], s, Run.nil, hbusy, rfl, rfl⟩
      · obtain ⟨steady, u, o, hstep, hlt, hqueue, hclients⟩ := workerStep_rank hbusy
        obtain ⟨h, t, hrun, hidle, hq, hcl⟩ := ih _ (hn ▸ hlt) u rfl
        have hfirst : s.step C (.worker 0 steady) = some (u, o) := hstep
        exact ⟨_, t, Run.cons (show threadsOf c s (.worker 0 steady) from trivial) hfirst hrun,
          hidle,
          hq.trans hqueue, hcl.trans hclients⟩

/-- The worker gets done with the whole queue. -/
theorem queue_empties (c : Nat) (s : Sys F) :
    ∃ h t, Run (step C) (threadsOf c) s h t ∧ t.worker = .idle ∧ t.queue = [] ∧
      t.clients = s.clients := by
  induction hq : s.queue generalizing s with
  | nil =>
      obtain ⟨h, t, hrun, hidle, hqueue, hclients⟩ := worker_finishes (C := C) c s
      exact ⟨h, t, hrun, hidle, hqueue.trans hq, hclients⟩
  | cons j queue ih =>
      obtain ⟨h, t, hrun, hidle, hqueue, hclients⟩ := worker_finishes (C := C) c s
      have hpop : t.step C (.worker 0 0) =
          some ({ t with queue := queue, worker := .popped j }, []) := by
        simp only [step, workerStep, hidle, hqueue, hq]
      obtain ⟨h', u, hrun', hidle', hqueue', hclients'⟩ :=
        ih { t with queue := queue, worker := .popped j } rfl
      have hmore := Run.cons (show threadsOf c t (.worker 0 0) from trivial) hpop hrun'
      exact ⟨_, u, hrun.trans hmore, hidle', hqueue', hclients'.trans hclients⟩

/-- The threads close no connection. -/
theorem step_keepsOpen (hstep : s.step C e = some (t, o)) (he : threadsOf d s e)
    (hopen : (s.clients c).fdOpen = true) : (t.clients c).fdOpen = true := by
  -- A client that is written back with the same connection.
  have hset : ∀ (i : Nat) (cl : Client), cl.fdOpen = (s.clients i).fdOpen →
      ((s.setClient i cl).clients c).fdOpen = true := by
    intro i cl hcl
    by_cases hi : c = i
    · subst hi
      rw [setClient_self, hcl]
      exact hopen
    · rw [setClient_of_ne s cl hi]
      exact hopen
  cases step_effect hstep with
  | rx i nowMs op rest t o htodo heffect =>
      cases heffect with
      | plain op helloOk todo o _ _ _ => exact hset i _ rfl
      | enqueue k h => exact hset i { s.clients i with todo := rest } rfl
      | urgent u k =>
          cases u with
          | publish =>
              show ((publishCmd _ (s.setClient i _)).clients c).fdOpen = true
              rw [(publishCmd_rest _ _).1]
              exact hset i _ rfl
          | _ => exact hset i { s.clients i with todo := rest } rfl
  | worker nowMs steady t o heffect =>
      cases heffect with
      | publish j hpc =>
          show ((s.publishCmd j.toCmdJob).clients c).fdOpen = true
          rw [(publishCmd_rest ..).1]
          exact hopen
      | _ => exact hopen
  -- The other steps are none of the threads that are meant.
  | gone e i hgone => rcases hgone with rfl | rfl <;> exact absurd he id
  | takeOther e r json topic _ _ hother =>
      rcases hother with rfl | ⟨_, rfl⟩ <;> exact absurd he id
  | robot e call console node out _ hrobot _ =>
      rcases hrobot with ⟨_, _, rfl, -⟩ | rfl <;> exact absurd he id
  | _ => exact absurd he id

/-- An operation is done with, or the whole batch is. -/
theorem RxEffect.todo {op : RxOp} {rest : List RxOp} (heffect : RxEffect s c rest op t o) :
    (t.clients c).todo = rest ∨ (t.clients c).todo = [] := by
  cases heffect with
  | plain op helloOk todo o _ hnext _ =>
      rw [setClient_self]
      exact hnext.imp_right And.left
  | enqueue k h => exact Or.inl (by rw [setClient_self])
  | urgent u k =>
      refine Or.inl ?_
      cases u with
      | publish =>
          show ((publishCmd _ (s.setClient c _)).clients c).todo = rest
          rw [(publishCmd_rest _ _).1, setClient_self]
      | _ => exact congrArg Client.todo (setClient_self ..)

/-- The receive thread gets done with its batch. -/
theorem batch_empties (c : Nat) (s : Sys F) :
    ∃ h t, Run (step C) (threadsOf c) s h t ∧ (t.clients c).todo = [] := by
  induction hn : (s.clients c).todo.length using Nat.strong_induction_on generalizing s with
  | _ n ih =>
      cases htodo : (s.clients c).todo with
      | nil => exact ⟨[], s, Run.nil, htodo⟩
      | cons op rest =>
          have hstep : s.step C (.rx c 0) = some (s.rxOp c 0 rest op) := by
            simp only [step, htodo]
          have hlt : ((s.rxOp c 0 rest op).1.clients c).todo.length < n := by
            rw [htodo, List.length_cons] at hn
            rcases (rxOp_effect c 0 rest s op).todo with h | h <;> rw [h]
            · omega
            · exact hn ▸ Nat.zero_lt_succ _
          obtain ⟨h, t, hrun, hnil⟩ := ih _ hlt _ rfl
          exact ⟨_, t, Run.cons (show threadsOf c s (.rx c 0) from rfl) hstep hrun, hnil⟩

/-- **The threads can always go on until nothing of the client waits.** -/
theorem settles (c : Nat) (s : Sys F) (hopen : (s.clients c).fdOpen = true) :
    ∃ h t, Run (step C) (threadsOf c) s h t ∧ t.Settled c ∧ (t.clients c).fdOpen = true := by
  obtain ⟨h, t, hrun, hnil⟩ := batch_empties (C := C) c s
  obtain ⟨h', u, hrun', hidle, hqueue, hclients⟩ := queue_empties (C := C) c t
  refine ⟨h ++ h', u, hrun.trans hrun', ⟨?_, ?_, ?_⟩, ?_⟩
  · rw [hclients, hnil]
  · rw [hqueue]
    exact fun j hj => absurd hj List.not_mem_nil
  · rw [hidle]
    exact fun j hj => absurd hj (by simp [Worker.job?])
  · exact (hrun.trans hrun').invariant (P := fun s => (s.clients c).fdOpen = true) hopen
      fun s e t o hs he hstep => step_keepsOpen hstep he hs

/-! ### The result -/

/-- What has become of the commands of client `c`, which has sent `frames`. -/
structure KeepsOrder (C : Type) [CFloat C] (c : Nat) (frames : List Frame)
    (h : List (Event × List Obs)) (s : Sys F) : Prop where
  /-- The urgent handler is called for the ESTOPs, once for each and in order. -/
  calls : urgentCalls C F c h <+: (commandsOf frames).filter Command.urgent
  /-- When a frame that is no ESTOP is handled, no ESTOP of its batch waits. -/
  first : ∀ op rest, (s.clients c).todo = op :: rest → op.ordinary = true →
    ∀ b ∈ rest, b.stops = false
  /-- The worker takes the other commands from the queue, once each and in order. -/
  jobs : taken C F c h <+: (commandsOf frames).filter fun k => !k.urgent
  /-- It answers them one by one. -/
  acks : workerAcks c h <+: (taken C F c h).map (·.frame.seq)
  /-- When nothing is left to do, no command of the frames that have arrived is missing. -/
  all : s.Settled c → (chunks c h).flatten = Wire.stream Ui.encodeFrame frames →
    urgentCalls C F c h = (commandsOf frames).filter Command.urgent ∧
      (taken C F c h = (commandsOf frames).filter fun k => !k.urgent) ∧
        workerAcks c h = (taken C F c h).map (·.frame.seq)

/-- The commands of a prefix of the frames are a prefix. -/
theorem commandsOf_prefix {frames received : List Frame} (h : received <+: frames) :
    commandsOf received <+: commandsOf frames := by
  obtain ⟨rest, rfl⟩ := h
  rw [commandsOf, commandsOf, List.zipIdx_append, List.filterMap_append]
  exact List.prefix_append _ _

/-- When all bytes of valid frames have arrived, all frames have. -/
theorem Runs.received_all (hrun : Runs C allow h s) {frames : List Frame}
    (hvalid : ∀ f ∈ frames, f.payload.length ≤ Wire.maxPayload)
    (hall : (chunks c h).flatten = Wire.stream Ui.encodeFrame frames) :
    (s.clients c).received = frames := by
  have hdelivers := Wire.frameCodec_delivers hvalid hall
  exact congrArg Prod.fst ((Runs.received hrun c).symm.trans hdelivers.all)

/-- **Commands are neither lost, duplicated nor reordered apart from ESTOP priority**, for every
client that sends valid frames, every cut of its bytes and every interleaving, while its
connection is open. And from every such state the threads can go on until nothing is left to
do. -/
theorem commands_in_order (hrun : Runs C anyStep h s) (hopen : (s.clients c).fdOpen = true)
    {frames : List Frame} (hvalid : ∀ f ∈ frames, f.payload.length ≤ Wire.maxPayload)
    (hsent : (chunks c h).flatten <+: Wire.stream Ui.encodeFrame frames) :
    KeepsOrder C c frames h s ∧
      ∃ h' t, Run (step C) (threadsOf c) s h' t ∧ t.Settled c ∧ (t.clients c).fdOpen = true := by
  obtain ⟨hcalls, hjobs, hacks⟩ := Runs.inOrder hrun (Or.inl hopen)
  have hcmds := commandsOf_prefix (Runs.received_sent hrun c hvalid hsent)
  refine ⟨⟨?_, ?_, ?_, ?_, ?_⟩, settles c s hopen⟩
  · exact (hcalls ▸ List.prefix_append _ _ : urgentCalls C F c h <+: _).trans (hcmds.filter _)
  · intro op rest htodo hop b hb
    have hfirst := Runs.stopsFirst hrun c
    rw [htodo] at hfirst
    exact (List.pairwise_cons.mp hfirst).1 b hb hop
  · exact (hjobs ▸ List.prefix_append _ _ : taken C F c h <+: _).trans (hcmds.filter _)
  · exact hacks ▸ List.prefix_append _ _
  · rintro ⟨htodo, hqueue, hworker⟩ hall
    rw [Runs.received_all hrun hvalid hall] at hcalls hjobs
    have hqueued : s.queued c = [] :=
      List.filterMap_eq_nil_iff.mpr fun j hj => if_neg (hqueue j hj)
    have hhand : s.inHand c = [] := by
      refine List.filterMap_eq_nil_iff.mpr fun j hj => if_neg (hworker j ?_)
      simpa using hj
    rw [calling, htodo, List.filterMap_nil, List.append_nil] at hcalls
    rw [queueing, hqueued, htodo, List.filterMap_nil, List.append_nil, List.append_nil] at hjobs
    rw [hhand, List.map_nil, List.append_nil] at hacks
    exact ⟨hcalls, hjobs, hacks⟩

/-- A mode command and an ESTOP, in one batch. -/
def mixedFrames : List Frame :=
  [{ type := msgCmdMode, seq := 1 }, { type := msgCmdEstop, seq := 2 }]

/-- The frames arrive in two parts, and the threads do their work. -/
def mixedEvents : List Event :=
  [Event.accept, .recv 0 ((Wire.stream Ui.encodeFrame mixedFrames).take 5),
    .recv 0 ((Wire.stream Ui.encodeFrame mixedFrames).drop 5)] ++
    List.replicate 8 (Event.rx 0 1) ++ List.replicate 4 (Event.worker 2 0)

/-- The run of these events. -/
def mixedRun : List (Event × List Obs) × Sys ℚ :=
  (exec (step Exact.Cost) anyStep init mixedEvents).get (by decide +kernel)

/-- A batch with a stop behind two commands. -/
theorem commands_in_order_mixed :
    KeepsOrder Exact.Cost 0 mixedFrames mixedRun.1 mixedRun.2 ∧ mixedRun.2.Settled 0 ∧
      workerAcks 0 mixedRun.1 = [1] := by
  have hrun : Runs Exact.Cost anyStep mixedRun.1 mixedRun.2 :=
    Run.of_exec (Option.some_get _).symm
  exact ⟨(commands_in_order hrun (by decide +kernel) (by decide) (by decide +kernel)).1,
    by decide +kernel, by decide +kernel⟩

end Sys

end BotCockpit.Bridge
