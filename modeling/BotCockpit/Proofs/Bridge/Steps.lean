import BotCockpit.Bridge.System

/-!
# `BotCockpit.Proofs.Bridge.Steps`: what a step of a thread can do

One inversion for each kind of thread. `RxEffect`, `WorkerEffect` and `RosEffect` list what a
receive thread, the command worker and the ROS executor can do in a step, with the guard of each
case and the state after it. Every invariant of the system is proved by cases on them.

The steps of the worker that only move its program counter come in two kinds: before a job is
registered (`Worker.Early`), and while its result is waited for (`Worker.Waits`).
-/

set_option autoImplicit false

namespace BotCockpit.Bridge

open BotCockpit.Lib
open BotCockpit.Wire (Frame)
open BotCockpit.Sim (Output Node)

/-- `handle_command` has not registered the job yet. -/
inductive Worker.Early (j : QueuedJob) : Worker → Prop
  | popped : Early j (.popped j)
  | greeted : Early j (.greeted j)
  | fresh : Early j (.fresh j)
  | gate : Early j (.gate j)
  | register : Early j (.register j)

/-- The result of the job is waited for. -/
inductive Worker.Waits (j : QueuedJob) : Worker → Prop
  | enter : Waits j (.enter j)
  | loop (deadline : Nat) : Waits j (.loop j deadline)
  | checkRaised (deadline : Nat) : Waits j (.checkRaised j deadline)
  | checkDone (deadline : Nat) : Waits j (.checkDone j deadline)
  | abort : Waits j (.abort j)
  | expired : Waits j (.expired j)

/-- The result that the executor has in hand. -/
def Ros.msg? : Ros → Option ResultMsg
  | .result m | .validSeen m _ | .lower m _ _ | .invalidate m _ _ | .complete m _ _ => some m
  | .ackClients m _ _ | .deliver m _ => some m
  | _ => none

/-- Nothing but frames other than ACKs. -/
def Obs.Plain : Obs → Prop
  | .sent _ f => f.type ≠ msgCmdAck
  | _ => False

namespace Sys

variable {F : Type} [CDouble F]

/-- The client that is set. -/
@[simp] theorem setClient_self (s : Sys F) (c : Nat) (cl : Client) :
    (s.setClient c cl).clients c = cl := by
  simp [setClient]

/-- The others stay. -/
theorem setClient_of_ne (s : Sys F) {c d : Nat} (cl : Client) (h : d ≠ c) :
    (s.setClient c cl).clients d = s.clients d := by
  simp [setClient, h]

/-- The entry that is set. -/
@[simp] theorem setPending_self (s : Sys F) (seq : UInt16) (p : Option PendingCmd) :
    (s.setPending seq p).pending seq = p := by
  simp [setPending]

/-- The others stay. -/
theorem setPending_of_ne (s : Sys F) {seq seq' : UInt16} (p : Option PendingCmd)
    (h : seq' ≠ seq) : (s.setPending seq p).pending seq' = s.pending seq' := by
  simp [setPending, h]

/-- A frame that is no ACK. -/
theorem sendFrame_plain (s : Sys F) (c : Nat) {type : UInt8} (seq : UInt16) (payload : Bytes)
    (h : type ≠ msgCmdAck) : ∀ x ∈ s.sendFrame c type seq payload, x.Plain := by
  unfold sendFrame
  split
  · intro x hx
    rw [List.mem_singleton] at hx
    rw [hx]
    exact h
  · exact fun x hx => absurd hx List.not_mem_nil

/-! ### The receive threads -/

/-- What one operation of the receive thread of `c` does. -/
inductive RxEffect (s : Sys F) (c : Nat) (rest : List RxOp) : RxOp → Sys F → List Obs → Prop
  /-- The thread writes a frame, accepts the HELLO, or ends its batch. -/
  | plain (op : RxOp) (helloOk : Bool) (todo : List RxOp) (o : List Obs)
      (hop : (∀ k h, op ≠ .enqueue k h) ∧ ∀ u k, op ≠ .urgent u k)
      (htodo : todo = rest ∨ todo = [] ∧ op = .checkFd ∧ (s.clients c).fdOpen = false)
      (ho : ∀ x ∈ o, x.Plain) :
      RxEffect s c rest op
        (s.setClient c { s.clients c with helloOk := helloOk, todo := todo }) o
  | enqueue (k : Command) (h : k.urgent = false) :
      RxEffect s c rest (.enqueue k h)
        { s.setClient c { s.clients c with todo := rest } with
          queue := s.queue ++ [{ client := c, command := k, notUrgent := h }] } []
  | urgent (u : UrgentOp) (k : Command) :
      RxEffect s c rest (.urgent u k)
        (urgentStep ⟨c, k⟩ (s.setClient c { s.clients c with todo := rest }) u).1
        (urgentStep ⟨c, k⟩ (s.setClient c { s.clients c with todo := rest }) u).2

/-- What a receiving thread does with its next piece of work, case by case. -/
theorem rxOp_effect (c : Nat) (nowMs : UInt64) (rest : List RxOp) (s : Sys F) (op : RxOp) :
    RxEffect s c rest op (s.rxOp c nowMs rest op).1 (s.rxOp c nowMs rest op).2 := by
  cases op with
  | helloAck seq ok =>
      exact RxEffect.plain _ (s.clients c).helloOk rest _ ⟨nofun, nofun⟩
        (Or.inl rfl) (sendFrame_plain s c seq _ (by decide))
  | setHelloOk =>
      exact RxEffect.plain _ true rest [] ⟨nofun, nofun⟩ (Or.inl rfl)
        (fun _ hx => absurd hx List.not_mem_nil)
  | snapshot =>
      exact RxEffect.plain _ (s.clients c).helloOk rest _ ⟨nofun, nofun⟩
        (Or.inl rfl) (sendFrame_plain s c 0 _ (by decide))
  | heartbeat seq =>
      exact RxEffect.plain _ (s.clients c).helloOk rest _ ⟨nofun, nofun⟩
        (Or.inl rfl) (sendFrame_plain s c seq _ (by decide))
  | enqueue k h => exact RxEffect.enqueue k h
  | urgent u k => exact RxEffect.urgent u k
  | checkFd =>
      refine RxEffect.plain _ (s.clients c).helloOk _ [] ⟨nofun, nofun⟩ ?_
        (fun _ hx => absurd hx List.not_mem_nil)
      by_cases hopen : (s.clients c).fdOpen = true
      · exact Or.inl (if_pos hopen)
      · exact Or.inr ⟨if_neg hopen, rfl, Bool.not_eq_true _ ▸ hopen⟩

/-! ### The command worker -/

/-- What one step of the command worker does. -/
inductive WorkerEffect (s : Sys F) : Sys F → List Obs → Prop
  | pop (j : QueuedJob) (queue : List QueuedJob) (hpc : s.worker = .idle)
      (hqueue : s.queue = j :: queue) :
      WorkerEffect s { s with queue := queue, worker := .popped j } []
  /-- The client is gone. -/
  | drop (j : QueuedJob) (hpc : s.worker = .popped j) : WorkerEffect s { s with worker := .idle } []
  | early (j : QueuedJob) (w : Worker) (hpc : s.worker.Early j) (hnext : w.Early j) :
      WorkerEffect s { s with worker := w } []
  /-- A refusal of `cmd_worker_loop`, or one of `handle_command` before it registers the job. -/
  | refuse (j : QueuedJob) (reason : Refusal) (o : List Obs) (hpc : s.worker.Early j)
      (ho : o = [] ∨ o = [.answered j (refusal reason j.cmdName j.seq)]) :
      WorkerEffect s { s with worker := .ack j (refusal reason j.cmdName j.seq) } o
  | register (j : QueuedJob) (hpc : s.worker = .register j) :
      WorkerEffect s { s.setPending j.seq (some {}) with worker := .publish j } []
  | publish (j : QueuedJob) (hpc : s.worker = .publish j) :
      WorkerEffect s { s.publishCmd j.toCmdJob with worker := .enter j } [.published j.toCmdJob]
  | wait (j : QueuedJob) (w : Worker) (hpc : s.worker.Waits j) (hnext : w.Waits j)
      (hraised : w = .abort j → s.estopRaised = true ∧ ∃ d, s.worker = .checkRaised j d) :
      WorkerEffect s { s with worker := w } []
  | giveUp (j : QueuedJob) (reason : Refusal)
      (hpc : s.worker = .abort j ∧ reason = .estopActive ∨
        s.worker = .expired j ∧ reason = .timeout) :
      WorkerEffect s
        { s.setPending j.seq none with worker := .ack j (refusal reason j.cmdName j.seq) }
        [.answered j (refusal reason j.cmdName j.seq)]
  /-- The result has come. -/
  | take (j : QueuedJob) (deadline : Nat) (p : PendingCmd) (hpc : s.worker = .checkDone j deadline)
      (hpending : s.pending j.seq = some p) (hdone : p.done = true) :
      WorkerEffect s { s.setPending j.seq none with worker := .ack j p.ackJson }
        [.answered j p.ackJson]
  | ack (j : QueuedJob) (text : Bytes) (hpc : s.worker = .ack j text) :
      WorkerEffect s { s with worker := .idle } (s.sendFrame j.client msgCmdAck j.seq text)

/-- A move of the program counter that is not the look at the stop. -/
theorem WorkerEffect.of_wait {s : Sys F} {j : QueuedJob} {w : Worker} (hpc : s.worker.Waits j)
    (hnext : w.Waits j) (hne : w ≠ .abort j) : WorkerEffect s { s with worker := w } [] :=
  WorkerEffect.wait j w hpc hnext fun h => absurd h hne

/-- What the worker does, case by case. -/
theorem workerStep_effect {nowMs : UInt64} {steady : Nat} {s t : Sys F} {o : List Obs}
    (h : s.workerStep nowMs steady = some (t, o)) : WorkerEffect s t o := by
  unfold workerStep at h
  cases hpc : s.worker with
  | idle =>
      rw [hpc] at h
      cases hqueue : s.queue with
      | nil => simp [hqueue] at h
      | cons j queue =>
          simp only [hqueue, Option.some.injEq, Prod.mk.injEq] at h
          obtain ⟨rfl, rfl⟩ := h
          exact WorkerEffect.pop j queue hpc hqueue
  | popped j =>
      -- A job whose client is gone is dropped.
      simp only [hpc, Option.some.injEq] at h
      split at h <;> (simp only [goto, Prod.mk.injEq] at h; obtain ⟨rfl, rfl⟩ := h)
      · exact WorkerEffect.early j _ (hpc ▸ .popped) .greeted
      · exact WorkerEffect.drop j hpc
  | greeted j =>
      -- Without a greeting it is refused, before anything else is looked at.
      simp only [hpc, Option.some.injEq] at h
      split at h <;> (simp only [goto, Prod.mk.injEq] at h; obtain ⟨rfl, rfl⟩ := h)
      · exact WorkerEffect.early j _ (hpc ▸ .greeted) .fresh
      · exact WorkerEffect.refuse j .protoError [] (hpc ▸ .greeted) (Or.inl rfl)
  | fresh j =>
      simp only [hpc, Option.some.injEq] at h
      split at h
      · simp only [goto, Prod.mk.injEq] at h
        obtain ⟨rfl, rfl⟩ := h
        refine WorkerEffect.early j _ (hpc ▸ .fresh) ?_
        split
        · exact .gate
        · exact .register
      · simp only [answer, Prod.mk.injEq] at h
        obtain ⟨rfl, rfl⟩ := h
        exact WorkerEffect.refuse j .timeout _ (hpc ▸ .fresh) (Or.inr rfl)
  | gate j =>
      -- The gate reads the last state of the robot.
      simp only [hpc, Option.some.injEq] at h
      split at h <;> (simp only [goto, answer, Prod.mk.injEq] at h; obtain ⟨rfl, rfl⟩ := h)
      · exact WorkerEffect.refuse j .estopActive _ (hpc ▸ .gate) (Or.inr rfl)
      · exact WorkerEffect.early j _ (hpc ▸ .gate) .register
  | register j =>
      simp only [hpc, goto, Option.some.injEq, Prod.mk.injEq] at h
      obtain ⟨rfl, rfl⟩ := h
      exact WorkerEffect.register j hpc
  | publish j =>
      simp only [hpc, Option.some.injEq, Prod.mk.injEq] at h
      obtain ⟨rfl, rfl⟩ := h
      exact WorkerEffect.publish j hpc
  | enter j =>
      simp only [hpc, goto, Option.some.injEq, Prod.mk.injEq] at h
      obtain ⟨rfl, rfl⟩ := h
      exact WorkerEffect.of_wait (hpc ▸ .enter) (.loop _) nofun
  | loop j deadline =>
      simp only [hpc, goto, Option.some.injEq, Prod.mk.injEq] at h
      obtain ⟨rfl, rfl⟩ := h
      split
      · exact WorkerEffect.of_wait (hpc ▸ .loop deadline) (.checkRaised deadline) nofun
      · exact WorkerEffect.of_wait (hpc ▸ .loop deadline) .expired nofun
  | checkRaised j deadline =>
      -- A stop that was raised meanwhile ends the wait.
      simp only [hpc, goto, Option.some.injEq, Prod.mk.injEq] at h
      obtain ⟨rfl, rfl⟩ := h
      split
      · rename_i hraised
        exact WorkerEffect.wait j _ (hpc ▸ .checkRaised deadline) .abort
          fun _ => ⟨hraised, deadline, hpc⟩
      · exact WorkerEffect.of_wait (hpc ▸ .checkRaised deadline) (.checkDone deadline) nofun
  | abort j =>
      simp only [hpc, answer, Option.some.injEq, Prod.mk.injEq] at h
      obtain ⟨rfl, rfl⟩ := h
      exact WorkerEffect.giveUp j .estopActive (Or.inl ⟨hpc, rfl⟩)
  | checkDone j deadline =>
      -- The entry of the table holds the result when it is done.
      simp only [hpc, Option.some.injEq] at h
      split at h
      · rename_i p hpending
        split at h <;> (simp only [goto, answer, Prod.mk.injEq] at h; obtain ⟨rfl, rfl⟩ := h)
        · rename_i hdone
          exact WorkerEffect.take j deadline p hpc hpending hdone
        · exact WorkerEffect.of_wait (hpc ▸ .checkDone deadline) (.loop deadline) nofun
      · simp only [goto, Prod.mk.injEq] at h
        obtain ⟨rfl, rfl⟩ := h
        exact WorkerEffect.of_wait (hpc ▸ .checkDone deadline) (.loop deadline) nofun
  | expired j =>
      simp only [hpc, answer, Option.some.injEq, Prod.mk.injEq] at h
      obtain ⟨rfl, rfl⟩ := h
      exact WorkerEffect.giveUp j .timeout (Or.inr ⟨hpc, rfl⟩)
  | ack j text =>
      simp only [hpc, Option.some.injEq, Prod.mk.injEq] at h
      obtain ⟨rfl, rfl⟩ := h
      exact WorkerEffect.ack j text hpc

/-! ### The ROS executor -/

/-- What one access of the callback that the executor is in does. -/
inductive RosEffect (s : Sys F) : Sys F → List Obs → Prop
  /-- `on_cmd_result` returns: the text has no sequence number, nobody waits for it, or every
  client of the list is done. -/
  | finish (m : ResultMsg) (hpc : s.ros.msg? = some m) : RosEffect s { s with ros := .idle } []
  | look (m : ResultMsg) (seq : UInt16) (r : Ros) (hpc : s.ros = .result m)
      (hseq : resultSeq m.text = some seq)
      (hr : r = .validSeen m seq ∧ s.asyncValid = true ∨ r = .deliver m seq) :
      RosEffect s { s with ros := r } []
  | miss (m : ResultMsg) (seq : UInt16) (hpc : s.ros = .validSeen m seq) :
      RosEffect s { s with ros := .deliver m seq } []
  | hit (m : ResultMsg) (seq : UInt16) (hpc : s.ros = .validSeen m seq) (heq : s.asyncSeq = seq) :
      RosEffect s { s with ros := .lower m seq s.asyncEstop } []
  | lower (m : ResultMsg) (seq : UInt16) (estop : Option CmdJob)
      (hpc : s.ros = .lower m seq estop) :
      RosEffect s { s with estopRaised := false, ros := .invalidate m seq estop } []
  | invalidate (m : ResultMsg) (seq : UInt16) (estop : Option CmdJob)
      (hpc : s.ros = .invalidate m seq estop) :
      RosEffect s { s with asyncValid := false, ros := .complete m seq estop } []
  | complete (m : ResultMsg) (seq : UInt16) (estop : Option CmdJob)
      (hpc : s.ros = .complete m seq estop) :
      RosEffect s { s with ros := .ackClients m seq (List.range s.accepted) }
        [.completed estop seq m.text]
  | ackNext (m : ResultMsg) (seq : UInt16) (d : Nat) (clients : List Nat)
      (hpc : s.ros = .ackClients m seq (d :: clients)) :
      RosEffect s { s with ros := .ackClients m seq clients }
        (if s.greeted d then s.sendFrame d msgCmdAck seq m.text else [])
  | deliver (m : ResultMsg) (seq : UInt16) (p : PendingCmd) (hpc : s.ros = .deliver m seq)
      (hpending : s.pending seq = some p) :
      RosEffect s
        { s.setPending seq (some { done := true, ackJson := m.text }) with ros := .idle } []
  /-- The other two callbacks. -/
  | other (r : Ros) (lastMs : UInt64) (console : List Bytes) (o : List Obs)
      (hpc : s.ros.msg? = none) (hr : r.msg? = none) (ho : ∀ x ∈ o, x.Plain) :
      RosEffect s { s with ros := r, lastRobotStateMs := lastMs, consoleTopic := console } o

/-- What the callbacks do, case by case. -/
theorem rosStep_effect {nowMs : UInt64} {s t : Sys F} {o : List Obs}
    (h : s.rosStep nowMs = some (t, o)) : RosEffect s t o := by
  have hnone : ∀ x ∈ ([] : List Obs), x.Plain := fun _ hx => absurd hx List.not_mem_nil
  unfold rosStep at h
  cases hpc : s.ros with
  | idle => simp [hpc] at h
  | result m =>
      -- A result without a number is left alone; one that has one may be the stop's.
      simp only [hpc, Option.some.injEq] at h
      split at h <;> (simp only [rosGoto, Prod.mk.injEq] at h; obtain ⟨rfl, rfl⟩ := h)
      · exact RosEffect.finish m (by simp [hpc, Ros.msg?])
      · rename_i seq hseq
        refine RosEffect.look m seq _ hpc hseq ?_
        split
        · exact Or.inl ⟨rfl, ‹_›⟩
        · exact Or.inr rfl
  | validSeen m seq =>
      -- The flag of the slot was up; its number is a second load.
      simp only [hpc, rosGoto, Option.some.injEq, Prod.mk.injEq] at h
      obtain ⟨rfl, rfl⟩ := h
      split
      · exact RosEffect.hit m seq hpc ‹_›
      · exact RosEffect.miss m seq hpc
  | lower m seq estop =>
      simp only [hpc, Option.some.injEq, Prod.mk.injEq] at h
      obtain ⟨rfl, rfl⟩ := h
      exact RosEffect.lower m seq estop hpc
  | invalidate m seq estop =>
      simp only [hpc, Option.some.injEq, Prod.mk.injEq] at h
      obtain ⟨rfl, rfl⟩ := h
      exact RosEffect.invalidate m seq estop hpc
  | complete m seq estop =>
      simp only [hpc, Option.some.injEq, Prod.mk.injEq] at h
      obtain ⟨rfl, rfl⟩ := h
      exact RosEffect.complete m seq estop hpc
  | ackClients m seq clients =>
      -- The clients are told one after the other.
      cases clients with
      | nil =>
          simp only [hpc, rosGoto, Option.some.injEq, Prod.mk.injEq] at h
          obtain ⟨rfl, rfl⟩ := h
          exact RosEffect.finish m (by simp [hpc, Ros.msg?])
      | cons d clients =>
          simp only [hpc, Option.some.injEq, Prod.mk.injEq] at h
          obtain ⟨rfl, rfl⟩ := h
          exact RosEffect.ackNext m seq d clients hpc
  | deliver m seq =>
      simp only [hpc, Option.some.injEq] at h
      split at h <;> (simp only [rosGoto, Prod.mk.injEq] at h; obtain ⟨rfl, rfl⟩ := h)
      · exact RosEffect.finish m (by simp [hpc, Ros.msg?])
      · exact RosEffect.deliver m seq _ hpc ‹_›
  | stored =>
      -- The state has been stored; the clock is read after it.
      simp only [hpc, Option.some.injEq, Prod.mk.injEq] at h
      obtain ⟨rfl, rfl⟩ := h
      exact RosEffect.other .idle nowMs s.consoleTopic [] (by simp [hpc, Ros.msg?]) rfl hnone
  | delta body =>
      simp only [hpc, rosGoto, Option.some.injEq, Prod.mk.injEq] at h
      obtain ⟨rfl, rfl⟩ := h
      exact RosEffect.other _ s.lastRobotStateMs s.consoleTopic [] (by simp [hpc, Ros.msg?]) rfl
        hnone
  | broadcast body clients =>
      cases clients with
      | nil =>
          simp only [hpc, rosGoto, Option.some.injEq, Prod.mk.injEq] at h
          obtain ⟨rfl, rfl⟩ := h
          exact RosEffect.other .console s.lastRobotStateMs s.consoleTopic []
            (by simp [hpc, Ros.msg?]) rfl hnone
      | cons d clients =>
          simp only [hpc, Option.some.injEq, Prod.mk.injEq] at h
          obtain ⟨rfl, rfl⟩ := h
          refine RosEffect.other (.broadcast body clients) s.lastRobotStateMs s.consoleTopic _
            (by simp [hpc, Ros.msg?]) rfl ?_
          split
          · exact sendFrame_plain s d 0 body (by decide)
          · exact hnone
  | console =>
      simp only [hpc, Option.some.injEq, Prod.mk.injEq] at h
      obtain ⟨rfl, rfl⟩ := h
      exact RosEffect.other .idle s.lastRobotStateMs _ [] (by simp [hpc, Ros.msg?]) rfl hnone

/-! ### The system -/

/-- What a step of the system does. -/
inductive Effect (C : Type) [CFloat C] (s : Sys F) : Event → Sys F → List Obs → Prop
  | accept :
      Effect C s .accept
        { s.setClient s.accepted { s.clients s.accepted with fdOpen := true } with
          accepted := s.accepted + 1 } []
  | recv (c : Nat) (chunk : Bytes) (htodo : (s.clients c).todo = [])
      (hopen : (s.clients c).fdOpen = true) :
      Effect C s (.recv c chunk) (s.setClient c ((s.clients c).receive chunk)) []
  /-- The connection ends. -/
  | gone (e : Event) (c : Nat) (he : e = .hangup c ∨ e = .close c) :
      Effect C s e (s.setClient c { s.clients c with fdOpen := false }) []
  | rx (c : Nat) (nowMs : UInt64) (op : RxOp) (rest : List RxOp) (t : Sys F) (o : List Obs)
      (htodo : (s.clients c).todo = op :: rest) (heffect : RxEffect s c rest op t o) :
      Effect C s (.rx c nowMs) t o
  | worker (nowMs : UInt64) (steady : Nat) (t : Sys F) (o : List Obs)
      (heffect : WorkerEffect s t o) : Effect C s (.worker nowMs steady) t o
  | takeResult (m : ResultMsg) (topic : List ResultMsg) (hpc : s.ros = .idle)
      (htopic : s.resultTopic = m :: topic) :
      Effect C s .takeResult { s with resultTopic := topic, ros := .result m } []
  /-- The executor takes a robot state or the delta timer. -/
  | takeOther (e : Event) (r : Ros) (json : Bytes) (topic : List Bytes) (hpc : s.ros = .idle)
      (hr : r.msg? = none) (he : e = .takeState ∨ ∃ t, e = .deltaTimer t) :
      Effect C s e { s with ros := r, robotStateJson := json, stateTopic := topic } []
  | ros (nowMs : UInt64) (t : Sys F) (o : List Obs) (heffect : RosEffect s t o) :
      Effect C s (.ros nowMs) t o
  | robotCmd (nowMs : UInt64) (j : CmdJob) (topic : List CmdJob) (node : Node F)
      (out : List (Output F)) (htopic : s.cmdTopic = j :: topic)
      (hnode : s.node.step C
        { nowMs := nowMs, call := .cmd (cmdEnvelope j.cmdName j.seq j.payload) } =
          some (node, out)) :
      Effect C s (.robotCmd nowMs)
        { setNode { s with cmdTopic := topic } node out with
          resultTopic := s.resultTopic ++ (out.filterMap Output.result?).map fun res =>
            { job := j, text := res.text } }
        [.processed j (out.filterMap Output.result?)]
  /-- A callback of the robot other than `on_cmd`. -/
  | robot (e : Event) (call : Sim.Event) (console : List Bytes) (node : Node F)
      (out : List (Output F)) (hcall : ∀ data, call.call ≠ .cmd data)
      (he : (∃ t data, e = .robotConsole t ∧ call.call = .console data) ∨ e = .robot call)
      (hnode : s.node.step C call = some (node, out)) :
      Effect C s e (setNode { s with consoleTopic := console } node out) []
  | lose (topic : Topic) (i : Nat) : Effect C s (.lose topic i) (s.lose i topic) []

/-- What a step does: one of the threads takes its turn. -/
theorem step_effect {C : Type} [CFloat C] {s t : Sys F} {e : Event} {o : List Obs}
    (h : s.step C e = some (t, o)) : Effect C s e t o := by
  cases e with
  | accept =>
      simp only [step, Option.some.injEq, Prod.mk.injEq] at h
      obtain ⟨rfl, rfl⟩ := h
      exact Effect.accept
  | recv c chunk =>
      -- The thread reads only when it has no work left and the socket is open.
      simp only [step] at h
      split at h
      · rename_i hguard
        simp only [Option.some.injEq, Prod.mk.injEq] at h
        obtain ⟨rfl, rfl⟩ := h
        exact Effect.recv c chunk (List.isEmpty_iff.mp hguard.2.1) hguard.1
      · cases h
  | hangup c =>
      simp only [step] at h
      split at h
      · simp only [Option.some.injEq, Prod.mk.injEq] at h
        obtain ⟨rfl, rfl⟩ := h
        exact Effect.gone _ c (Or.inl rfl)
      · cases h
  | close c =>
      simp only [step, Option.some.injEq, Prod.mk.injEq] at h
      obtain ⟨rfl, rfl⟩ := h
      exact Effect.gone _ c (Or.inr rfl)
  | rx c nowMs =>
      -- Everything a receiving thread does is in `rxOp_effect`.
      simp only [step] at h
      split at h
      · cases h
      · rename_i op rest htodo
        rw [Option.some.injEq] at h
        have heffect := rxOp_effect c nowMs rest s op
        rw [h] at heffect
        exact Effect.rx c nowMs op rest t o htodo heffect
  | worker nowMs steady => exact Effect.worker nowMs steady t o (workerStep_effect h)
  | takeResult =>
      simp only [step] at h
      split at h
      · rename_i m topic hpc htopic
        simp only [Option.some.injEq, Prod.mk.injEq] at h
        obtain ⟨rfl, rfl⟩ := h
        exact Effect.takeResult m topic hpc htopic
      · cases h
  | takeState =>
      -- The three callbacks share one executor, so each starts where it is idle.
      simp only [step] at h
      split at h
      · rename_i text topic hpc htopic
        simp only [Option.some.injEq, Prod.mk.injEq] at h
        obtain ⟨rfl, rfl⟩ := h
        exact Effect.takeOther _ .stored text topic hpc rfl (Or.inl rfl)
      · cases h
  | deltaTimer nowMs =>
      simp only [step] at h
      split at h
      · rename_i hpc
        simp only [rosGoto, Option.some.injEq, Prod.mk.injEq] at h
        obtain ⟨rfl, rfl⟩ := h
        exact Effect.takeOther _ _ s.robotStateJson s.stateTopic hpc rfl (Or.inr ⟨nowMs, rfl⟩)
      · cases h
  | ros nowMs => exact Effect.ros nowMs t o (rosStep_effect h)
  | robotCmd nowMs =>
      -- A command of the topic is a callback of the robot, which may refuse to run it.
      simp only [step, robotCmdStep] at h
      split at h
      · cases h
      · rename_i j topic htopic
        split at h
        · cases h
        · rename_i node out hnode
          simp only [Option.some.injEq, Prod.mk.injEq] at h
          obtain ⟨rfl, rfl⟩ := h
          exact Effect.robotCmd nowMs j topic node out htopic hnode
  | robotConsole nowMs =>
      simp only [step, robotConsoleStep] at h
      split at h
      · cases h
      · rename_i data topic htopic
        split at h
        · cases h
        · rename_i node out hnode
          simp only [Option.some.injEq, Prod.mk.injEq] at h
          obtain ⟨rfl, rfl⟩ := h
          exact Effect.robot _ _ topic node out (fun _ h => Sim.Call.noConfusion h)
            (Or.inl ⟨nowMs, data, rfl, rfl⟩) hnode
  | robot call =>
      -- The callbacks that come from neither topic.
      simp only [step, robotStep] at h
      split at h
      · cases h
      · cases h
      · rename_i hcmd hconsole
        split at h
        · cases h
        · rename_i node out hnode
          simp only [Option.some.injEq, Prod.mk.injEq] at h
          obtain ⟨rfl, rfl⟩ := h
          exact Effect.robot _ call s.consoleTopic node out hcmd (Or.inr rfl) hnode
  | lose topic i =>
      simp only [step, Option.some.injEq, Prod.mk.injEq] at h
      obtain ⟨rfl, rfl⟩ := h
      exact Effect.lose topic i

end Sys

end BotCockpit.Bridge
