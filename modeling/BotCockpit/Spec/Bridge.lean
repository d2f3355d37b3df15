import BotCockpit.Bridge.System

/-!
# `BotCockpit.Spec.Bridge`: what an observer of the system sees

The vocabulary in which the properties of the bridge are stated: what the steps of a history have
shown, where a command waits before its envelope is published, and which sequence numbers are in
use. The conditions under which the bridge keeps its promises are guards on the steps of a run.
-/

set_option autoImplicit false

namespace BotCockpit.Bridge

open BotCockpit.Lib
open BotCockpit.Sim (CmdResult)
open BotCockpit.Wire (Frame)

/-! ### What a history shows -/

def Obs.published? : Obs → Option CmdJob
  | .published j => some j
  | _ => none

def Obs.processed? : Obs → Option CmdJob
  | .processed j _ => some j
  | _ => none

/-- The commands whose envelopes were published, in order. -/
def published (o : List Obs) : List CmdJob := o.filterMap Obs.published?

/-- The commands that the robot has handled, in order. -/
def processed (o : List Obs) : List CmdJob := o.filterMap Obs.processed?

/-- What the steps of a history have shown. -/
def shown (h : List (Event × List Obs)) : List Obs := h.flatMap Prod.snd

/-- The sequence number of a CMD_ACK to client `c`. -/
def Obs.ack? (c : Nat) : Obs → Option UInt16
  | .sent d f => if d = c ∧ f.type = msgCmdAck then some f.seq else none
  | _ => none

/-- The sequence numbers of the CMD_ACK frames to client `c`, in order. -/
def acks (c : Nat) (o : List Obs) : List UInt16 := o.filterMap (Obs.ack? c)

/-- The robot has published `text` as its result for `j`. -/
def ResultOf (o : List Obs) (j : CmdJob) (text : Bytes) : Prop :=
  ∃ results, Obs.processed j results ∈ o ∧ ∃ res ∈ results, res.seq = j.seq ∧ res.text = text

/-- An answer is a refusal of the bridge or the result for its command, and what completes an
ESTOP is the result for it. -/
def Obs.Matched (o : List Obs) : Obs → Prop
  | .answered j text =>
      (∃ reason, text = refusal reason j.cmdName j.seq) ∨ ResultOf o j.toCmdJob text
  | .completed estop _ text => ∃ e, estop = some e ∧ e.urgent = true ∧ ResultOf o e text
  | _ => True

/-- The results that a step shows for `j`. -/
def Obs.resultsFor (j : CmdJob) : Obs → List CmdResult
  | .processed i results => if i = j then results else []
  | _ => []

instance (o : List Obs) (j : CmdJob) (text : Bytes) : Decidable (ResultOf o j text) :=
  decidable_of_iff (∃ x ∈ o, ∃ res ∈ x.resultsFor j, res.seq = j.seq ∧ res.text = text) <| by
    constructor
    · rintro ⟨x, hx, res, hres, hseq⟩
      unfold Obs.resultsFor at hres
      split at hres
      · split at hres
        · rename_i heq
          exact ⟨_, heq ▸ hx, res, hres, hseq⟩
        · cases hres
      · cases hres
    · rintro ⟨results, hx, res, hres, hseq⟩
      refine ⟨_, hx, res, ?_, hseq⟩
      show res ∈ if j = j then results else []
      rwa [if_pos rfl]

instance (o : List Obs) (x : Obs) : Decidable (x.Matched o) :=
  match x with
  | .answered j text =>
      decidable_of_iff
        ((text = refusal .timeout j.cmdName j.seq ∨ text = refusal .estopActive j.cmdName j.seq ∨
          text = refusal .protoError j.cmdName j.seq) ∨ ResultOf o j.toCmdJob text) <| by
        refine or_congr_left ⟨?_, ?_⟩
        · rintro (h | h | h) <;> exact ⟨_, h⟩
        · rintro ⟨reason, h⟩
          cases reason
          · exact Or.inl h
          · exact Or.inr (Or.inl h)
          · exact Or.inr (Or.inr h)
  | .completed none _ _ => isFalse fun ⟨_, h, _⟩ => Option.some_ne_none _ h.symm
  | .completed (some e) _ text =>
      decidable_of_iff (e.urgent = true ∧ ResultOf o e text)
        ⟨fun h => ⟨e, rfl, h⟩, fun ⟨_, heq, h⟩ => Option.some.inj heq ▸ h⟩
  | .sent _ _ => isTrue trivial
  | .published _ => isTrue trivial
  | .processed _ _ => isTrue trivial

/-! ### Where a command waits -/

/-- The command of a frame, when it is one. -/
def Command.of? (x : Frame × Nat) : Option Command :=
  if h : x.1.type ∈ commandTypes then some { index := x.2, frame := x.1, forwarded := h } else none

/-- The command that an operation will pass on. Of the accesses of `urgent_estop` that is the
last one. -/
def RxOp.waiting? : RxOp → Option Command
  | .enqueue k _ => some k
  | .urgent .publish k => some k
  | _ => none

/-- The job that the worker has not published yet. -/
def Worker.waiting : Worker → List CmdJob
  | .popped j | .greeted j | .fresh j | .gate j | .register j | .publish j => [j.toCmdJob]
  | _ => []

namespace Sys

variable {F : Type} [CDouble F]

/-- How many commands with `p` client `c` has sent. -/
def commands (s : Sys F) (c : Nat) (p : CmdJob → Bool) : Nat :=
  ((s.clients c).received.zipIdx.filterMap Command.of?).countP fun k => p ⟨c, k⟩

/-- How many jobs with `p` of client `c` wait to be published. -/
def waiting (s : Sys F) (c : Nat) (p : CmdJob → Bool) : Nat :=
  ((s.clients c).todo.filterMap RxOp.waiting?).countP (fun k => p ⟨c, k⟩) +
    s.queue.countP (fun j => j.client = c && p j.toCmdJob) +
    s.worker.waiting.countP (fun j => j.client = c && p j)

end Sys

/-! ### Commands in flight -/

/-- The job whose pending entry the worker has made and not erased yet. -/
def Worker.registered : Worker → List CmdJob
  | .publish j | .enter j | .loop j _ | .checkRaised j _ | .abort j | .checkDone j _ | .expired j =>
      [j.toCmdJob]
  | _ => []

/-- The ESTOP of client `c` that is between two accesses of `urgent_estop`. -/
def Client.passing (c : Nat) (cl : Client) : List CmdJob :=
  match cl.todo with
  | .urgent u k :: _ => if u = .raise then [] else [⟨c, k⟩]
  | _ => []

/-- The thread is about to set `async_estop_seq_valid_`. -/
def Client.validating (cl : Client) : Bool :=
  match cl.todo with
  | .urgent .storeValid _ :: _ => true
  | _ => false

/-- The command whose result the executor has not matched yet. -/
def Ros.unmatched : Ros → List CmdJob
  | .result m | .validSeen m _ | .deliver m _ => [m.job]
  | _ => []

namespace Sys

variable {F : Type} [CDouble F]

/-- The ESTOP that `async_estop_seq_` stands for, while results are compared with it. -/
def awaited (s : Sys F) : List CmdJob :=
  if s.asyncValid = true ∨ ∃ c ∈ List.range s.accepted, (s.clients c).validating = true then
    s.asyncEstop.toList
  else []

/-- The commands in flight: the sequence number of such a command may still be matched. -/
def inFlight (s : Sys F) : List CmdJob :=
  s.worker.registered ++ (List.range s.accepted).flatMap (fun c => (s.clients c).passing c) ++
    s.cmdTopic ++ s.resultTopic.map (·.job) ++ s.ros.unmatched ++ s.awaited

/-- No command in flight has this sequence number. -/
def SeqFree (s : Sys F) (seq : UInt16) : Prop := ∀ j ∈ s.inFlight, j.seq ≠ seq

instance (s : Sys F) (seq : UInt16) : Decidable (s.SeqFree seq) := by
  unfold SeqFree
  infer_instance

/-- The bridge takes a command in hand only while no command in flight has its sequence number:
the worker before it registers a job, a receive thread before it passes an ESTOP on. -/
def freshSeq (s : Sys F) : Event → Prop
  | .worker _ _ =>
      match s.worker with
      | .register j => s.SeqFree j.seq
      | _ => True
  | .rx c _ =>
      match (s.clients c).todo with
      | .urgent .raise k :: _ => s.SeqFree k.frame.seq
      | _ => True
  | _ => True

instance (s : Sys F) (e : Event) : Decidable (s.freshSeq e) := by
  unfold freshSeq
  split <;> try split
  all_goals infer_instance

/-! ### Refusals -/

/-- The wait loop sees that an ESTOP is raised. -/
def stopSeen (s : Sys F) : Event → Prop
  | .worker _ _ =>
      match s.worker with
      | .checkRaised _ _ => s.estopRaised = true
      | _ => False
  | _ => False

instance (s : Sys F) (e : Event) : Decidable (s.stopSeen e) := by
  unfold stopSeen
  split <;> try split
  all_goals infer_instance

/-- No wait is broken off by an ESTOP, and the numbers in flight differ. -/
def waitsOut (s : Sys F) (e : Event) : Prop := s.freshSeq e ∧ ¬s.stopSeen e

instance (s : Sys F) (e : Event) : Decidable (s.waitsOut e) := by
  unfold waitsOut
  infer_instance

/-! ### ACKs -/

/-- A frame of `complete_async_ack` goes to the client whose ESTOP the result is for. -/
def ownAck (s : Sys F) : Event → Prop
  | .ros _ =>
      match s.ros with
      | .ackClients m _ (d :: _) =>
          s.greeted d = true → m.job.client = d ∧ m.job.urgent = true
      | _ => True
  | _ => True

instance (s : Sys F) (e : Event) : Decidable (s.ownAck e) := by
  unfold ownAck
  split <;> try split
  all_goals infer_instance

/-! ### The order of ESTOP and RESET -/

/-- When a receive thread publishes an ESTOP, no RESET that the same client has sent before it
waits to be published. -/
def noOlderReset (s : Sys F) : Event → Prop
  | .rx c _ =>
      match (s.clients c).todo with
      | .urgent .publish k :: _ =>
          s.waiting c (fun r => r.reset && decide (r.index < k.index)) = 0
      | _ => True
  | _ => True

instance (s : Sys F) (e : Event) : Decidable (s.noOlderReset e) := by
  unfold noOlderReset
  split
  · split <;> infer_instance
  · exact instDecidableTrue

end Sys

/-! ### The order of the commands of a client -/

/-- The commands among the frames of a connection, in the order of sending. -/
def commandsOf (frames : List Frame) : List Command := frames.zipIdx.filterMap Command.of?

/-- The operation handles a frame that is no ESTOP. -/
def RxOp.ordinary : RxOp → Bool
  | .urgent _ _ | .checkFd => false
  | _ => true

/-- The operation belongs to an ESTOP. -/
def RxOp.stops : RxOp → Bool
  | .urgent _ _ => true
  | _ => false

/-- The ESTOP for which the operation begins the call of the urgent handler. -/
def RxOp.calls? : RxOp → Option Command
  | .urgent .raise k => some k
  | _ => none

/-- The command that the operation puts in the queue. -/
def RxOp.queues? : RxOp → Option Command
  | .enqueue k _ => some k
  | _ => none

/-- The job that the worker has taken from the queue and not answered yet. -/
def Worker.job? : Worker → Option QueuedJob
  | .idle => none
  | .popped j | .greeted j | .fresh j | .gate j | .register j | .publish j | .enter j | .loop j _
  | .checkRaised j _ | .abort j | .checkDone j _ | .expired j | .ack j _ => some j

/-- The command of a job, when it is one of client `c`. -/
def CmdJob.commandFor? (c : Nat) (j : CmdJob) : Option Command :=
  if j.client = c then some j.command else none

/-- The sequence numbers of the ACKs that a step of the worker sends to client `c`. -/
def workerAcks? (c : Nat) (x : Event × List Obs) : List UInt16 :=
  match x.1 with
  | .worker _ _ => acks c x.2
  | _ => []

/-- The sequence numbers of the ACKs that the worker has sent to client `c`, in order. -/
def workerAcks (c : Nat) (h : List (Event × List Obs)) : List UInt16 := h.flatMap (workerAcks? c)

namespace Sys

variable {F : Type} [CDouble F]

/-- The ESTOP of client `c` for which this step begins a call of the urgent handler. -/
def urgentCall? (c : Nat) (s : Sys F) : Event → Option Command
  | .rx d _ => if d = c then (s.clients c).todo.head?.bind RxOp.calls? else none
  | _ => none

/-- The command of client `c` that the worker takes from the queue in this step. -/
def taken? (c : Nat) (s : Sys F) : Event → Option Command
  | .worker _ _ =>
      match s.worker with
      | .idle => s.queue.head?.bind fun j => j.commandFor? c
      | _ => none
  | _ => none

/-- The ESTOPs of client `c` for which the urgent handler was called, in order. -/
def urgentCalls (C : Type) [CFloat C] (F : Type) [CDouble F] (c : Nat)
    (h : List (Event × List Obs)) : List Command :=
  (trace (step C) (init : Sys F) h).filterMap fun x => x.1.urgentCall? c x.2

/-- The commands of client `c` that the worker has taken from the queue, in order. -/
def taken (C : Type) [CFloat C] (F : Type) [CDouble F] (c : Nat) (h : List (Event × List Obs)) :
    List Command :=
  (trace (step C) (init : Sys F) h).filterMap fun x => x.1.taken? c x.2

/-- The bridge has nothing left to do for client `c`. -/
def Settled (s : Sys F) (c : Nat) : Prop :=
  (s.clients c).todo = [] ∧ (∀ j ∈ s.queue, j.client ≠ c) ∧ ∀ j ∈ s.worker.job?, j.client ≠ c

instance (s : Sys F) (c : Nat) : Decidable (s.Settled c) := by
  unfold Settled
  infer_instance

/-- A step of the receive thread of client `c`, or of the command worker. -/
def threadsOf (c : Nat) (_ : Sys F) : Event → Prop
  | .rx d _ => d = c
  | .worker _ _ => True
  | _ => False

end Sys

/-! ### Confirmations -/

/-- The sequence numbers of the ACKs that a step of the executor sends to client `c`. -/
def rosAcks? (c : Nat) (x : Event × List Obs) : List UInt16 :=
  match x.1 with
  | .ros _ => acks c x.2
  | _ => []

/-- The sequence numbers of the ACKs that the executor sends to client `c`, in order. -/
def rosAcks (c : Nat) (h : List (Event × List Obs)) : List UInt16 := h.flatMap (rosAcks? c)

namespace Sys

variable {F : Type} [CDouble F]

/-- `urgent_estop` makes a pending entry for `seq`. -/
def estopEntry (seq : UInt16) (x : Sys F × Event) : Prop :=
  match x.2 with
  | .rx c _ =>
      match (x.1.clients c).todo with
      | .urgent .register k :: _ => k.frame.seq = seq
      | _ => False
  | _ => False

/-- `handle_command` makes a pending entry for `seq`. -/
def workerEntry (seq : UInt16) (x : Sys F × Event) : Prop :=
  match x.2 with
  | .worker _ _ =>
      match x.1.worker with
      | .register j => j.seq = seq
      | _ => False
  | _ => False

/-- `wait_cmd_result` erases the pending entry for `seq`. -/
def workerErases (seq : UInt16) (x : Sys F × Event) : Prop :=
  match x.2 with
  | .worker _ _ =>
      match x.1.worker with
      | .abort j | .expired j => j.seq = seq
      | .checkDone j _ => j.seq = seq ∧ (x.1.pending j.seq).any PendingCmd.done = true
      | _ => False
  | _ => False

instance (seq : UInt16) : DecidablePred (estopEntry (F := F) seq) := fun x => by
  unfold estopEntry
  split <;> try split
  all_goals infer_instance

instance (seq : UInt16) : DecidablePred (workerEntry (F := F) seq) := fun x => by
  unfold workerEntry
  split <;> try split
  all_goals infer_instance

instance (seq : UInt16) : DecidablePred (workerErases (F := F) seq) := fun x => by
  unfold workerErases
  split <;> try split
  all_goals infer_instance

variable (C : Type) [CFloat C]

/-- There is a pending entry for `seq`, and `urgent_estop` was the last to make it. -/
def Leftover (h : List (Event × List Obs)) (s : Sys F) (seq : UInt16) : Prop :=
  (s.pending seq).isSome = true ∧
    Since (estopEntry seq) (fun x => ¬workerEntry seq x) (trace (step C) (init : Sys F) h)

/-- After `urgent_estop` has made an entry for `seq`, the worker has handled a command with that
sequence number, and in doing so replaced or erased the entry. -/
def TakenOver (F : Type) [CDouble F] (h : List (Event × List Obs)) (seq : UInt16) : Prop :=
  ¬Since (estopEntry seq) (fun x => ¬workerEntry seq x ∧ ¬workerErases seq x)
    (trace (step C) (init : Sys F) h)

instance (h : List (Event × List Obs)) (s : Sys F) (seq : UInt16) :
    Decidable (Leftover C h s seq) := by
  unfold Leftover
  infer_instance

instance (h : List (Event × List Obs)) (seq : UInt16) : Decidable (TakenOver C F h seq) := by
  unfold TakenOver
  infer_instance

/-- The executor takes the result `m` of an ESTOP in state `s`, and `mid` are the steps from then
on to the end of the callback in state `u`. -/
structure Callback (m : ResultMsg) (pre mid : List (Event × List Obs)) (s t u : Sys F) : Prop where
  urgent : m.job.urgent = true
  before : Runs C anyStep pre s
  takes : s.step C .takeResult = some (t, [])
  hand : t.ros = .result m
  during : Run (step C) anyStep t mid u
  busy : ∀ x ∈ trace (step C) t mid, x.1.ros ≠ .idle
  done : u.ros = .idle

/-- What `on_cmd_result` reads from the slot of the asynchronous ESTOP is the sequence number of
its result. -/
def slotHolds (x : Sys F × Event) : Prop :=
  match x.2, x.1.ros with
  | .ros _, .result _ => x.1.asyncValid = true
  | .ros _, .validSeen _ seq => x.1.asyncSeq = seq
  | _, _ => True

instance : DecidablePred (slotHolds (F := F)) := fun x => by
  unfold slotHolds
  split <;> infer_instance

/-- The sender of the ESTOP is told, and the entry of `urgent_estop` is gone. -/
def Confirmed (m : ResultMsg) (pre mid : List (Event × List Obs)) (u : Sys F) : Prop :=
  m.job.seq ∈ rosAcks m.job.client mid ∧
    ¬Leftover C (pre ++ (.takeResult, []) :: mid) u m.job.seq

end Sys

/-! ### Before the HELLO -/

/-- The job whose client has not been tested for its HELLO yet. -/
def Worker.untested : Worker → List QueuedJob
  | .popped j | .greeted j => [j]
  | _ => []

namespace Sys

variable {F : Type} [CDouble F]

/-- A receive thread puts the command of `j` in the queue. -/
def queuesJob (j : CmdJob) (x : Sys F × Event) : Prop :=
  match x.2 with
  | .rx c _ =>
      match (x.1.clients c).todo with
      | .enqueue k _ :: _ => j = ⟨c, k⟩
      | _ => False
  | _ => False

instance (j : CmdJob) : DecidablePred (queuesJob (F := F) j) := fun x => by
  unfold queuesJob
  split <;> try split
  all_goals infer_instance

/-- The command of `j` was put in the queue when no HELLO of its client had been accepted. -/
def QueuedEarly (C : Type) [CFloat C] (F : Type) [CDouble F] (h : List (Event × List Obs))
    (j : CmdJob) : Prop :=
  Since (fun x => queuesJob j x ∧ (x.1.clients j.client).helloOk = false)
    (fun x => ¬queuesJob j x) (trace (step C) (init : Sys F) h)

instance (C : Type) [CFloat C] (h : List (Event × List Obs)) (j : CmdJob) :
    Decidable (QueuedEarly C F h j) := by
  unfold QueuedEarly
  infer_instance

/-- A HELLO is accepted only when no command that the client has sent before it waits to be
tested. -/
def helloFirst (s : Sys F) : Event → Prop
  | .rx c _ =>
      match (s.clients c).todo with
      | .setHelloOk :: _ =>
          (s.clients c).helloOk = true ∨ ∀ j ∈ s.queue ++ s.worker.untested, j.client ≠ c
      | _ => True
  | _ => True

instance (s : Sys F) (e : Event) : Decidable (s.helloFirst e) := by
  unfold helloFirst
  split <;> try split
  all_goals infer_instance

end Sys

/-! ### State frames -/

/-- The frames to client `c`, in order. -/
def framesTo (c : Nat) (o : List Obs) : List Frame :=
  o.filterMap fun x =>
    match x with
    | .sent d f => if d = c then some f else none
    | _ => none

/-- `STATE_SNAPSHOT` or `STATE_DELTA`. -/
def isState (f : Frame) : Bool := f.type = msgStateSnapshot || f.type = msgStateDelta

/-- HELLO_ACK with `ok:true`. -/
def isWelcome (f : Frame) : Bool := f.type = msgHelloAck && f.payload = helloAckText true

/-- The thread has accepted the HELLO, and sends the snapshot next. -/
def Client.snapshotDue (cl : Client) : Bool :=
  match cl.todo with
  | .snapshot :: _ => true
  | _ => false

/-- No state frame before the HELLO was accepted, and the first one is a snapshot. -/
structure SnapshotFirst (frames : List Frame) : Prop where
  welcome : ∀ f rest, frames.filter (fun f => isState f || isWelcome f) = f :: rest →
    isWelcome f = true
  snapshot : ∀ f rest, frames.filter isState = f :: rest → f.type = msgStateSnapshot

/-! ### Motion commands during an ESTOP -/

/-- The robot moves or goes to AUTO for this command: a task, or a request for a mode in which the
robot reads AUTO. -/
def CmdJob.motion (j : CmdJob) : Bool :=
  j.cmdName = ascii "CMD_TASK" ||
    (j.cmdName = ascii "CMD_MODE" &&
      Sim.extractString (cmdEnvelope j.cmdName j.seq j.payload) "mode" = some (ascii "AUTO"))

/-- An ESTOP was published, and no RESET after it. -/
def EstopStands (h : List (Event × List Obs)) : Prop :=
  Since (fun x => ∃ j ∈ published x.2, j.urgent = true)
    (fun x => ∀ j ∈ published x.2, j.reset = false) h

instance (h : List (Event × List Obs)) : Decidable (EstopStands h) := by
  unfold EstopStands
  infer_instance

/-- The job that the worker has let through and not published yet. -/
def Worker.letThrough : Worker → List CmdJob
  | .register j | .publish j => [j.toCmdJob]
  | _ => []

namespace Sys

variable {F : Type} [CDouble F]

/-- The gate of `handle_command` holds in this step. While an ESTOP stands, a motion command comes
to the gate, and the robot state that is read there shows the stop. And an ESTOP is not published
while a motion command is between the gate and its publication. -/
def GateHolds (h : List (Event × List Obs)) (s : Sys F) : Event → Prop
  | .worker nowMs _ =>
      match s.worker with
      | .fresh j =>
          EstopStands h → s.robotStateFresh nowMs = true → j.motion = true → needsGate j = true
      | .gate j => EstopStands h → j.motion = true → getBool s.robotStateJson "estop" = some true
      | _ => True
  | .rx c _ =>
      match (s.clients c).todo with
      | .urgent .publish _ :: _ => ∀ j ∈ s.worker.letThrough, j.motion = false
      | _ => True
  | _ => True

/-- The gate holds in every step of the run. -/
def GatesHold (C : Type) [CFloat C] (F : Type) [CDouble F] (h : List (Event × List Obs)) : Prop :=
  ∀ pre x (s : Sys F), pre ++ [x] <+: h → Runs C anyStep pre s → s.GateHolds pre x.1

instance (h : List (Event × List Obs)) (s : Sys F) (e : Event) : Decidable (s.GateHolds h e) := by
  unfold GateHolds
  split <;> try split
  all_goals infer_instance

end Sys

/-- A reader of the answer finds that the command was refused because of an emergency stop. -/
def RefusedForEstop (text : Bytes) : Prop :=
  getBool text "ok" = some false ∧ getString text "reason" = (true, ascii "estop_active")

instance (text : Bytes) : Decidable (RefusedForEstop text) := by
  unfold RefusedForEstop
  infer_instance

/-- The robot handles the command `e`. -/
def Processes (e : CmdJob) (x : Event × List Obs) : Prop := e ∈ processed x.2

instance (e : CmdJob) (x : Event × List Obs) : Decidable (Processes e x) := by
  unfold Processes
  infer_instance

/-- Every RESET that the robot handles was sent before `e`, on the connection of `e`. -/
def OlderResets (e : CmdJob) (x : Event × List Obs) : Prop :=
  ∀ r ∈ processed x.2, r.reset = true → r.client = e.client ∧ r.index < e.index

instance (e : CmdJob) (x : Event × List Obs) : Decidable (OlderResets e x) := by
  unfold OlderResets
  infer_instance

/-- The callback of the robot that an event is. -/
def Event.call? : Event → Option Sim.Call
  | .robot e => some e.call
  | _ => none

/-- The robot is not configured anew. -/
def NotConfigured (x : Event × List Obs) : Prop := x.1.call? ≠ some .configure

instance (x : Event × List Obs) : Decidable (NotConfigured x) := by
  unfold NotConfigured
  infer_instance

end BotCockpit.Bridge
