import BotCockpit.Proofs.Bridge.Handshake

/-!
# `BotCockpit.Proofs.Bridge.Snapshot`: how a HELLO is handled

`handle_frame` accepts a HELLO with three accesses: it sends the HELLO_ACK, sets `hello_ok`, and
sends the snapshot. `Greets` is the order of the three in a batch, and `Notable` the frames of a
step that matter for the first state frame of a connection: the HELLO_ACK and the state frames.
-/

set_option autoImplicit false

namespace BotCockpit.Bridge

open BotCockpit.Lib
open BotCockpit.Wire (Frame)

/-- `b` may come next after `a`: the snapshot comes right after `hello_ok` is set, and that right
after the HELLO_ACK. -/
def RxOp.Greets (a b : RxOp) : Prop :=
  (a = .setHelloOk ↔ b = .snapshot) ∧ (b = .setHelloOk → ∃ seq, a = .helloAck seq true)

/-- The work of one frame in its order, between two tests of the connection. -/
theorem isChain_greets (index : Nat) (f : Frame) :
    (RxOp.checkFd :: (handleFrame index f ++ [.checkFd])).IsChain RxOp.Greets := by
  unfold handleFrame
  split
  · split <;> simp [RxOp.Greets]
  split
  · simp [RxOp.Greets]
  split
  · unfold enqueueCmd urgentEstop
    split <;> simp [RxOp.Greets]
  · simp [RxOp.Greets]

/-- So is the work of a batch. -/
theorem isChain_greets_batch (batch : List (Frame × Nat)) :
    (RxOp.checkFd :: (batchOps batch ++ [.checkFd])).IsChain RxOp.Greets := by
  unfold batchOps
  induction estopFirst batch with
  | nil => simp [RxOp.Greets]
  | cons x frames ih =>
      rw [List.flatMap_cons, List.append_assoc, List.append_assoc, List.singleton_append]
      have hframe := isChain_greets x.2 x.1
      rw [← List.cons_append] at hframe ⊢
      exact List.isChain_split.mpr ⟨hframe, ih⟩

/-- The frames to client `c` that matter: HELLO_ACK with `ok:true`, and state frames. -/
def notable (c : Nat) (o : List Obs) : List Frame :=
  (framesTo c o).filter fun f => isState f || isWelcome f

/-- The thread is between the HELLO_ACK and the end of the HELLO. -/
def Client.greeting (cl : Client) : Bool :=
  match cl.todo with
  | .setHelloOk :: _ | .snapshot :: _ => true
  | _ => false

/-- A snapshot that is due is the next thing to do. -/
theorem Client.snapshotDue_todo {cl : Client} (h : cl.snapshotDue = true) :
    ∃ rest, cl.todo = .snapshot :: rest := by
  unfold Client.snapshotDue at h
  split at h
  · exact ⟨_, ‹_›⟩
  · cases h

namespace Sys

variable {F : Type} [CDouble F] {C : Type} [CFloat C] {s t : Sys F} {e : Event} {o : List Obs}
  {allow : Sys F → Event → Prop} {h : List (Event × List Obs)} {c : Nat}

/-- Which notable frames a step sends to client `c`. -/
inductive Notable (s : Sys F) (e : Event) (c : Nat) : List Frame → Prop
  | none : Notable s e c []
  | welcome (f : Frame) (nowMs : UInt64) (seq : UInt16) (rest : List RxOp) (he : e = .rx c nowMs)
      (htodo : (s.clients c).todo = .helloAck seq true :: rest) (hf : isWelcome f = true)
      (hstate : isState f = false) : Notable s e c [f]
  | snapshot (f : Frame) (nowMs : UInt64) (rest : List RxOp) (he : e = .rx c nowMs)
      (htodo : (s.clients c).todo = .snapshot :: rest) (hopen : (s.clients c).fdOpen = true)
      (hf : f.type = msgStateSnapshot) : Notable s e c [f]
  | delta (f : Frame) (nowMs : UInt64) (body : Bytes) (clients : List Nat) (he : e = .ros nowMs)
      (hros : s.ros = .broadcast body (c :: clients)) (hgreeted : s.greeted c = true)
      (hf : f.type = msgStateDelta) : Notable s e c [f]

/-- What a frame that is sent means for the greeting of a client. -/
theorem notable_sendFrame (s : Sys F) (c d : Nat) (type : UInt8) (seq : UInt16) (payload : Bytes) :
    notable c (s.sendFrame d type seq payload) =
      if (s.clients c).fdOpen = true ∧ d = c ∧
          (isState { type := type, seq := seq, payload := payload } ||
            isWelcome { type := type, seq := seq, payload := payload }) = true then
        [{ type := type, seq := seq, payload := payload }]
      else [] := by
  unfold sendFrame
  by_cases hd : d = c
  · subst hd
    by_cases hopen : (s.clients d).fdOpen = true
    · simp [hopen, notable, framesTo, List.filter_cons]
    · simp [hopen, notable, framesTo]
  · split <;> simp [notable, framesTo, hd]

/-- What a step means for it. -/
theorem step_notable (hstep : s.step C e = some (t, o)) (c : Nat) :
    Notable s e c (notable c o) := by
  -- An acknowledgement is none of the frames that are noted.
  have hack : ∀ (d : Nat) (seq : UInt16) (text : Bytes),
      notable c (s.sendFrame d msgCmdAck seq text) = [] := by
    intro d seq text
    rw [notable_sendFrame, if_neg]
    rintro ⟨-, -, h⟩
    simp [isState, isWelcome, msgCmdAck, msgStateSnapshot, msgStateDelta, msgHelloAck] at h
  have hnil : notable c [] = [] := rfl
  cases step_effect hstep with
  | rx d nowMs op rest t o htodo _ =>
      have hrx : s.rxOp d nowMs rest op = (t, o) := by
        simpa only [step, htodo, Option.some.injEq] using hstep
      obtain rfl : (s.rxOp d nowMs rest op).2 = o := by rw [hrx]
      cases op with
      | helloAck seq ok =>
          -- Only a welcome is noted, and it is told from a rejection by its text.
          show Notable s _ c (notable c (s.sendFrame d msgHelloAck seq (helloAckText ok)))
          rw [notable_sendFrame]
          split
          · rename_i hsent
            obtain ⟨-, rfl, hkind⟩ := hsent
            cases ok with
            | true =>
                refine Notable.welcome _ nowMs seq rest rfl htodo ?_ ?_
                · simp [isWelcome]
                · simp [isState, msgHelloAck, msgStateSnapshot, msgStateDelta]
            | false =>
                have hne : helloAckText false ≠ helloAckText true := by decide
                simp [isState, isWelcome, msgHelloAck, msgStateSnapshot, msgStateDelta,
                  hne] at hkind
          · exact Notable.none
      | snapshot =>
          show Notable s _ c (notable c (s.sendFrame d msgStateSnapshot 0 _))
          rw [notable_sendFrame]
          split
          · rename_i hsent
            obtain ⟨hopen, rfl, -⟩ := hsent
            exact Notable.snapshot _ nowMs rest rfl htodo hopen rfl
          · exact Notable.none
      | heartbeat seq =>
          show Notable s _ c (notable c (s.sendFrame d msgHeartbeat seq _))
          rw [notable_sendFrame, if_neg]
          · exact Notable.none
          · rintro ⟨-, -, h⟩
            simp [isState, isWelcome, msgHeartbeat, msgStateSnapshot, msgStateDelta,
              msgHelloAck] at h
      | urgent u k => cases u <;> exact Notable.none
      | _ => exact Notable.none
  | worker nowMs steady t o heffect =>
      cases heffect with
      | refuse j reason o _ ho => rcases ho with rfl | rfl <;> exact Notable.none
      | ack j text hpc => exact (hack _ _ _).symm ▸ Notable.none
      | _ => exact Notable.none
  | ros nowMs t o _ =>
      have hros : s.rosStep nowMs = some (t, o) := hstep
      cases hpc : s.ros with
      | ackClients m seq clients =>
          cases clients with
          | nil =>
              simp only [rosStep, hpc, rosGoto, Option.some.injEq, Prod.mk.injEq] at hros
              exact hros.2 ▸ Notable.none
          | cons d clients =>
              -- The acknowledgements of a result.
              simp only [rosStep, hpc, Option.some.injEq, Prod.mk.injEq] at hros
              rw [← hros.2]
              split
              · exact (hack _ _ _).symm ▸ Notable.none
              · exact Notable.none
      | broadcast body clients =>
          cases clients with
          | nil =>
              simp only [rosStep, hpc, rosGoto, Option.some.injEq, Prod.mk.injEq] at hros
              exact hros.2 ▸ Notable.none
          | cons d clients =>
              -- A delta goes to the clients whose greeting is done.
              simp only [rosStep, hpc, Option.some.injEq, Prod.mk.injEq] at hros
              rw [← hros.2]
              split
              · rename_i hgreeted
                rw [notable_sendFrame]
                split
                · rename_i hsent
                  obtain ⟨-, rfl, -⟩ := hsent
                  exact Notable.delta _ nowMs body clients rfl hpc hgreeted rfl
                · exact Notable.none
              · exact Notable.none
      | idle => simp [rosStep, hpc] at hros
      | result m | deliver m seq =>
          simp only [rosStep, hpc, rosGoto, Option.some.injEq] at hros
          split at hros <;> exact (Prod.mk.inj hros).2 ▸ Notable.none
      | _ =>
          simp only [rosStep, hpc, rosGoto, Option.some.injEq, Prod.mk.injEq] at hros
          exact hros.2 ▸ Notable.none
  | _ => exact Notable.none

/-! ### The run -/

/-- The accesses of a HELLO stand in the batch in order, and a batch ends with a test of `fd`. -/
theorem Runs.greets (hrun : Runs C allow h s) (c : Nat) :
    ∃ a, (a :: ((s.clients c).todo ++ [.checkFd])).IsChain RxOp.Greets := by
  have hend : [RxOp.checkFd, .checkFd].IsChain RxOp.Greets := by simp [RxOp.Greets]
  refine hrun.invariant
    (P := fun s => ∃ a, (a :: ((s.clients c).todo ++ [.checkFd])).IsChain RxOp.Greets)
    ⟨.checkFd, hend⟩ fun s e t o ⟨a, ha⟩ _ hstep => ?_
  cases step_todo hstep c with
  | same h => exact ⟨a, h ▸ ha⟩
  | next nowMs op rest he htodo hnext =>
      rcases hnext with hnext | ⟨hnext, -, -⟩
      · rw [htodo, List.cons_append, List.isChain_cons_cons] at ha
        exact ⟨op, hnext ▸ ha.2⟩
      · rw [hnext]
        exact ⟨.checkFd, hend⟩
  | batch frames hopen htodo hreceived hnext => exact ⟨.checkFd, hnext ▸ isChain_greets_batch _⟩

/-- The operation after the next one. -/
theorem Runs.greets_next (hrun : Runs C allow h s) {op : RxOp} {rest : List RxOp}
    (htodo : (s.clients c).todo = op :: rest) :
    (op :: (rest ++ [.checkFd])).IsChain RxOp.Greets := by
  obtain ⟨a, ha⟩ := hrun.greets c
  rw [htodo, List.cons_append, List.isChain_cons_cons] at ha
  exact ha.2

/-- A client that has not come yet has not been greeted. -/
theorem Runs.unborn_hello (hrun : Runs C allow h s) (hc : s.accepted ≤ c) :
    (s.clients c).helloOk = false := by
  induction hrun with
  | nil => rfl
  | @snoc h s t e o hrun _ hstep ih =>
      have hbefore : s.accepted ≤ c := Nat.le_trans (step_open hstep).1 hc
      rw [← Bool.not_eq_true]
      intro hhello
      rcases step_greets hstep hhello with hyes | ⟨nowMs, rest, -, htodo⟩
      · exact absurd ((ih hbefore).symm.trans hyes) Bool.false_ne_true
      · rw [(Runs.unborn hrun hbefore).2] at htodo
        cases htodo

/-- The HELLO_ACK of an accepted HELLO goes out. -/
theorem notable_helloAck {nowMs : UInt64} {seq : UInt16} {rest : List RxOp}
    (hstep : s.step C (.rx c nowMs) = some (t, o))
    (htodo : (s.clients c).todo = .helloAck seq true :: rest)
    (hopen : (s.clients c).fdOpen = true) : ∃ f ∈ notable c o, isWelcome f = true := by
  simp only [step, htodo, rxOp, Option.some.injEq, Prod.mk.injEq] at hstep
  rw [← hstep.2, notable_sendFrame, if_pos ⟨hopen, rfl, by simp [isWelcome]⟩]
  exact ⟨_, List.mem_singleton_self _, by simp [isWelcome]⟩

/-- The snapshot goes out. -/
theorem notable_snapshot {nowMs : UInt64} {rest : List RxOp}
    (hstep : s.step C (.rx c nowMs) = some (t, o)) (htodo : (s.clients c).todo = .snapshot :: rest)
    (hopen : (s.clients c).fdOpen = true) : ∃ f ∈ notable c o, f.type = msgStateSnapshot := by
  simp only [step, htodo, rxOp, Option.some.injEq, Prod.mk.injEq] at hstep
  rw [← hstep.2, notable_sendFrame, if_pos ⟨hopen, rfl, by simp [isState]⟩]
  exact ⟨_, List.mem_singleton_self _, rfl⟩

/-- The first operation of a batch is no second part of a HELLO. -/
theorem greeting_batch {cl : Client} {batch : List (Frame × Nat)} (h : cl.todo = batchOps batch) :
    cl.greeting = false := by
  have hchain := isChain_greets_batch batch
  rw [← h] at hchain
  unfold Client.greeting
  split
  · rename_i rest htodo
    rw [htodo, List.cons_append, List.isChain_cons_cons] at hchain
    obtain ⟨seq, hseq⟩ := hchain.1.2 rfl
    cases hseq
  · rename_i rest htodo
    rw [htodo, List.cons_append, List.isChain_cons_cons] at hchain
    cases hchain.1.1.mpr rfl
  · rfl

/-- When the HELLO is accepted, the snapshot is next. -/
theorem snapshotDue_of_accepts (hrun : Runs C allow h s) {nowMs : UInt64} {rest : List RxOp}
    (hstep : s.step C (.rx c nowMs) = some (t, o))
    (htodo : (s.clients c).todo = .setHelloOk :: rest) : (t.clients c).snapshotDue = true := by
  have hchain := hrun.greets_next htodo
  simp only [step, htodo, rxOp, Option.some.injEq, Prod.mk.injEq] at hstep
  rw [← hstep.1, setClient_self]
  cases rest with
  | nil => simp [RxOp.Greets] at hchain
  | cons b rest =>
      rw [List.cons_append, List.isChain_cons_cons] at hchain
      obtain rfl := hchain.1.1.mp rfl
      rfl

end Sys

end BotCockpit.Bridge
