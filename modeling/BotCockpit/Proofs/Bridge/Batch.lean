import BotCockpit.Proofs.Bridge.Flow

/-!
# `BotCockpit.Proofs.Bridge.Batch`: what a receive thread still has to do

A receive thread takes a batch from its socket and works it off (`Sys.step_todo`). The accesses
of one `urgent_estop` stand in the batch one after the other (`RxOp.Before`), and every run keeps
them so (`Sys.Runs.batch`).
-/

set_option autoImplicit false

namespace BotCockpit.Bridge

open BotCockpit.Lib
open BotCockpit.Wire (Frame)
open BotCockpit.Sim (Output Node)

/-- The access of `urgent_estop` before this one. -/
def UrgentOp.prev? : UrgentOp → Option UrgentOp
  | .raise => none
  | .storeSeq => some .raise
  | .storeValid => some .storeSeq
  | .register => some .storeValid
  | .publish => some .register

/-- `b` may come next after `a`: an access of `urgent_estop` follows the one before it, and the
command is an ESTOP. -/
def RxOp.Before (a b : RxOp) : Prop :=
  ∀ u k, b = .urgent u k → k.urgent = true ∧ ∀ v, u.prev? = some v → a = .urgent v k

/-- An operation that is no access of `urgent_estop` may come at any time. -/
theorem RxOp.before_of_ne (a : RxOp) {b : RxOp} (h : ∀ u k, b ≠ .urgent u k) : a.Before b :=
  fun u k hb => absurd hb (h u k)

/-- What a frame leads to stands in order after anything. -/
theorem isChain_handleFrame (a : RxOp) (index : Nat) (f : Frame) :
    (a :: (handleFrame index f ++ [.checkFd])).IsChain RxOp.Before := by
  -- Work without a stop may stand anywhere.
  have hplain : ∀ (a : RxOp) (ops : List RxOp), (∀ op ∈ ops, ∀ u k, op ≠ .urgent u k) →
      (a :: ops).IsChain RxOp.Before := by
    intro a ops
    induction ops generalizing a with
    | nil => exact fun _ => List.isChain_singleton a
    | cons b ops ih =>
        intro h
        have hb := a.before_of_ne (h b (List.mem_cons_self ..))
        exact List.IsChain.cons_cons hb (ih b fun op hop => h op (List.mem_cons_of_mem b hop))
  unfold handleFrame
  split
  · split <;> exact hplain a _ (by simp)
  split
  · exact hplain a _ (by simp)
  split
  · unfold enqueueCmd
    split
    · exact hplain a _ (by simp)
    · -- The five accesses of an ESTOP.
      rename_i hforwarded hurgent
      rw [Bool.not_eq_false] at hurgent
      have hnext : ∀ (a : RxOp) (u : UrgentOp), (∀ v, u.prev? = some v → a = .urgent v
          { index := index, frame := f, forwarded := hforwarded }) →
            a.Before (.urgent u { index := index, frame := f, forwarded := hforwarded }) := by
        rintro a u ha _ _ ⟨rfl, rfl⟩
        exact ⟨hurgent, ha⟩
      refine List.IsChain.cons_cons (hnext a .raise (by simp [UrgentOp.prev?])) ?_
      refine List.IsChain.cons_cons (hnext _ .storeSeq (by simp [UrgentOp.prev?])) ?_
      refine List.IsChain.cons_cons (hnext _ .storeValid (by simp [UrgentOp.prev?])) ?_
      refine List.IsChain.cons_cons (hnext _ .register (by simp [UrgentOp.prev?])) ?_
      refine List.IsChain.cons_cons (hnext _ .publish (by simp [UrgentOp.prev?])) ?_
      exact hplain _ _ (by simp)
  · exact hplain a _ (by simp)

/-- The work of a batch in the order of its frames. -/
theorem isChain_batchOps (a : RxOp) (batch : List (Frame × Nat)) :
    (a :: batchOps batch).IsChain RxOp.Before := by
  unfold batchOps
  generalize estopFirst batch = frames
  induction frames generalizing a with
  | nil => exact List.isChain_singleton a
  | cons x frames ih =>
      rw [List.flatMap_cons, List.append_assoc, List.singleton_append]
      have hframe := isChain_handleFrame a x.2 x.1
      rw [← List.cons_append] at hframe ⊢
      exact List.isChain_split.mpr ⟨hframe, ih .checkFd⟩

namespace Sys

variable {F : Type} [CDouble F] {C : Type} [CFloat C] {s t : Sys F} {e : Event} {o : List Obs}

/-- Publishing a command accepts no client. -/
theorem publishCmd_accepted (j : CmdJob) (s : Sys F) : (s.publishCmd j).accepted = s.accepted := by
  unfold publishCmd
  split <;> rfl

/-- What a step does to the batch of client `c`. -/
inductive TodoEffect (s t : Sys F) (e : Event) (c : Nat) : Prop
  | same (h : (t.clients c).todo = (s.clients c).todo)
  | next (nowMs : UInt64) (op : RxOp) (rest : List RxOp) (he : e = .rx c nowMs)
      (htodo : (s.clients c).todo = op :: rest)
      (hnext : (t.clients c).todo = rest ∨
        (t.clients c).todo = [] ∧ op = .checkFd ∧ (s.clients c).fdOpen = false)
  | batch (frames : List Frame) (hopen : (s.clients c).fdOpen = true)
      (htodo : (s.clients c).todo = [])
      (hreceived : (t.clients c).received = (s.clients c).received ++ frames)
      (hnext : (t.clients c).todo = batchOps (frames.zipIdx (s.clients c).received.length))

/-- A step that replaces one client with another one, with the same batch. -/
theorem TodoEffect.of_set {d : Nat} (cl : Client)
    (hclients : t.clients = (s.setClient d cl).clients) (htodo : cl.todo = (s.clients d).todo)
    (c : Nat) : TodoEffect s t e c := by
  refine TodoEffect.same ?_
  rw [hclients]
  by_cases hc : c = d
  · subst hc
    rw [setClient_self, htodo]
  · rw [setClient_of_ne s cl hc]

/-- A step of the receive thread of `d`. -/
theorem TodoEffect.of_rx {d : Nat} {nowMs : UInt64} {op : RxOp} {rest : List RxOp} (cl : Client)
    (htodo : (s.clients d).todo = op :: rest)
    (hclients : t.clients = (s.setClient d cl).clients)
    (hnext : cl.todo = rest ∨ cl.todo = [] ∧ op = .checkFd ∧ (s.clients d).fdOpen = false)
    (c : Nat) :
    TodoEffect s t (.rx d nowMs) c := by
  by_cases hc : c = d
  · subst hc
    refine TodoEffect.next nowMs op rest rfl htodo ?_
    rw [hclients, setClient_self]
    exact hnext
  · refine TodoEffect.same ?_
    rw [hclients, setClient_of_ne s cl hc]

/-- What a step does to the work of a client's thread. -/
theorem step_todo (h : s.step C e = some (t, o)) (c : Nat) : TodoEffect s t e c := by
  cases step_effect h with
  | accept =>
      exact TodoEffect.of_set { s.clients s.accepted with fdOpen := true } (by rfl) rfl c
  | recv d chunk htodo hopen =>
      -- The thread has no work left, so the frames of the chunk are its next batch.
      obtain ⟨frames, rest, hdrain⟩ :
          ∃ frames rest, drain next ((s.clients d).buffer ++ chunk) = (frames, rest) :=
        ⟨_, _, rfl⟩
      have hreceive : (s.clients d).receive chunk =
          { s.clients d with
            buffer := rest
            received := (s.clients d).received ++ frames
            todo := batchOps (frames.zipIdx (s.clients d).received.length) } := by
        simp only [Client.receive, hdrain]
      rw [hreceive]
      -- Another client's batch is none of `c`.
      by_cases hc : c = d
      · subst hc
        exact TodoEffect.batch frames hopen htodo (by rw [setClient_self]) (by rw [setClient_self])
      · refine TodoEffect.same ?_
        rw [setClient_of_ne s _ hc]
  | gone e d _ =>
      exact TodoEffect.of_set { s.clients d with fdOpen := false } (by rfl) rfl c
  | rx d nowMs op rest t o htodo heffect =>
      cases heffect with
      | plain op helloOk todo o hop hrest _ =>
          exact TodoEffect.of_rx { s.clients d with helloOk := helloOk, todo := todo } htodo
            (by rfl)
            hrest c
      | enqueue k h =>
          exact TodoEffect.of_rx { s.clients d with todo := rest } htodo (by rfl) (Or.inl rfl) c
      | urgent u k =>
          refine TodoEffect.of_rx { s.clients d with todo := rest } htodo ?_ (Or.inl rfl) c
          cases u with
          | publish => exact (publishCmd_rest ..).1
          | _ => rfl
  | worker nowMs steady t o heffect =>
      cases heffect with
      | publish j hpc =>
          refine TodoEffect.same ?_
          show ((s.publishCmd j.toCmdJob).clients c).todo = _
          rw [(publishCmd_rest ..).1]
      | _ => exact TodoEffect.same rfl
  | ros nowMs t o heffect => cases heffect <;> exact TodoEffect.same rfl
  | lose topic i => cases topic <;> exact TodoEffect.same rfl
  | _ => exact TodoEffect.same rfl

/-- A step publishes nothing, an ESTOP of a receive thread, or the job of the worker. -/
theorem step_published {s t : Sys F} {e : Event} {o : List Obs}
    (h : s.step C e = some (t, o)) :
    published o = [] ∨
      (∃ c nowMs k rest, e = .rx c nowMs ∧ (s.clients c).todo = .urgent .publish k :: rest ∧
        (∀ d, (t.clients d).received = (s.clients d).received) ∧ published o = [⟨c, k⟩]) ∨
      ∃ j : QueuedJob, s.worker = .publish j ∧ published o = [j.toCmdJob] := by
  cases step_effect h with
  | rx c nowMs op rest t o htodo heffect =>
      cases heffect with
      | plain op helloOk todo o _ _ ho => exact Or.inl (published_plain ho)
      | enqueue k h => exact Or.inl rfl
      | urgent u k =>
          -- A stop is published by its receiving thread.
          cases u with
          | publish =>
              refine Or.inr (Or.inl ⟨c, nowMs, k, rest, rfl, htodo, fun d => ?_, rfl⟩)
              show ((publishCmd _ (s.setClient c _)).clients d).received = _
              rw [(publishCmd_rest _ _).1]
              exact received_setTodo s c rest d
          | _ => exact Or.inl rfl
  | worker nowMs steady t o heffect =>
      cases heffect with
      -- Another command is published by the worker.
      | publish j hpc => exact Or.inr (Or.inr ⟨j, hpc, rfl⟩)
      | refuse j reason o hpc ho =>
          refine Or.inl ?_
          rcases ho with rfl | rfl <;> rfl
      | ack j text hpc => exact Or.inl (flow_sendFrame ..).1
      | _ => exact Or.inl rfl
  | ros nowMs t o heffect =>
      cases heffect with
      | ackNext m seq d clients _ =>
          refine Or.inl ?_
          split
          · exact (flow_sendFrame ..).1
          · rfl
      | other r lastMs console o _ _ ho => exact Or.inl (published_plain ho)
      | _ => exact Or.inl rfl
  | _ => exact Or.inl rfl

/-- A connection is opened by `accept` only. -/
theorem step_open (h : s.step C e = some (t, o)) :
    s.accepted ≤ t.accepted ∧ ∀ c, (t.clients c).fdOpen = true →
      (s.clients c).fdOpen = true ∨ c = s.accepted ∧ s.accepted < t.accepted ∧ e = .accept := by
  -- One client is written back, and its connection is not opened by that.
  have hset : ∀ {t : Sys F} (d : Nat) (cl : Client), t.clients = (s.setClient d cl).clients →
      t.accepted = s.accepted → (cl.fdOpen = true → (s.clients d).fdOpen = true) →
        s.accepted ≤ t.accepted ∧ ∀ c, (t.clients c).fdOpen = true →
          (s.clients c).fdOpen = true ∨
            c = s.accepted ∧ s.accepted < t.accepted ∧ e = .accept := by
    intro t d cl hclients haccepted hopen
    refine ⟨Nat.le_of_eq haccepted.symm, fun c hc => Or.inl ?_⟩
    rw [hclients] at hc
    by_cases hd : c = d
    · subst hd
      rw [setClient_self] at hc
      exact hopen hc
    · rwa [setClient_of_ne s cl hd] at hc
  have hsame : ∀ {t : Sys F}, t.clients = s.clients → t.accepted = s.accepted →
      s.accepted ≤ t.accepted ∧ ∀ c, (t.clients c).fdOpen = true →
        (s.clients c).fdOpen = true ∨
          c = s.accepted ∧ s.accepted < t.accepted ∧ e = .accept := by
    intro t hclients haccepted
    exact ⟨Nat.le_of_eq haccepted.symm, fun c hc => Or.inl (hclients ▸ hc)⟩
  cases step_effect h with
  | accept =>
      refine ⟨Nat.le_succ _, fun c hc => ?_⟩
      -- The client that has just come is the next one.
      by_cases hd : c = s.accepted
      · exact Or.inr ⟨hd, Nat.lt_succ_self _, rfl⟩
      · exact Or.inl ((setClient_of_ne s _ hd).symm ▸ hc)
  | recv d chunk htodo hopen => exact hset d _ rfl rfl fun _ => hopen
  | gone e d _ => exact hset d _ rfl rfl fun h => by cases h
  | rx d nowMs op rest t o htodo heffect =>
      cases heffect with
      | plain op helloOk todo o hop hrest _ => exact hset d _ rfl rfl id
      | enqueue k h => exact hset d { s.clients d with todo := rest } rfl rfl id
      | urgent u k =>
          cases u with
          | publish =>
              exact hset d { s.clients d with todo := rest } (publishCmd_rest ..).1
                (publishCmd_accepted ..) id
          | _ => exact hset d { s.clients d with todo := rest } rfl rfl id
  | worker nowMs steady t o heffect =>
      cases heffect with
      | publish j hpc => exact hsame (publishCmd_rest ..).1 (publishCmd_accepted ..)
      | _ => exact hsame rfl rfl
  | ros nowMs t o heffect => cases heffect <;> exact hsame rfl rfl
  | lose topic i => cases topic <;> exact hsame rfl rfl
  | _ => exact hsame rfl rfl

/-! ### Runs -/

variable {allow : Sys F → Event → Prop} {h : List (Event × List Obs)}

/-- Every receive thread has its operations in order, after the one it has done last. -/
theorem Runs.batch (hrun : Runs C allow h s) (c : Nat) :
    ∃ a, (a :: (s.clients c).todo).IsChain RxOp.Before := by
  refine hrun.invariant (P := fun s => ∃ a, (a :: (s.clients c).todo).IsChain RxOp.Before)
    ⟨.checkFd, List.isChain_singleton _⟩ fun s e t o ⟨a, ha⟩ _ hstep => ?_
  cases step_todo hstep c with
  | same h => exact ⟨a, h ▸ ha⟩
  | next nowMs op rest he htodo hnext =>
      rcases hnext with hnext | ⟨hnext, -, -⟩
      · rw [htodo, List.isChain_cons_cons] at ha
        exact ⟨op, hnext ▸ ha.2⟩
      · exact ⟨op, hnext ▸ List.isChain_singleton op⟩
  | batch frames hopen htodo hreceived hnext => exact ⟨.checkFd, hnext ▸ isChain_batchOps _ _⟩

/-- The next access to `async_estop_*` or `pending_` of a receive thread follows the one that it
has made before. -/
theorem Runs.before (hrun : Runs C allow h s) {c : Nat} {op op' : RxOp} {rest : List RxOp}
    (htodo : (s.clients c).todo = op :: op' :: rest) : op.Before op' := by
  obtain ⟨a, ha⟩ := hrun.batch c
  rw [htodo, List.isChain_cons_cons, List.isChain_cons_cons] at ha
  exact ha.2.1

/-- What is passed on as an ESTOP is one. -/
theorem Runs.urgent (hrun : Runs C allow h s) {c : Nat} {u : UrgentOp} {k : Command}
    {rest : List RxOp} (htodo : (s.clients c).todo = .urgent u k :: rest) : k.urgent = true := by
  obtain ⟨a, ha⟩ := hrun.batch c
  rw [htodo, List.isChain_cons_cons] at ha
  exact (ha.1 u k rfl).1

/-- A client that has not come yet has no connection, and its thread has nothing to do. -/
theorem Runs.unborn (hrun : Runs C allow h s) {c : Nat} (hc : s.accepted ≤ c) :
    (s.clients c).fdOpen = false ∧ (s.clients c).todo = [] := by
  refine hrun.invariant
    (P := fun s => ∀ c, s.accepted ≤ c → (s.clients c).fdOpen = false ∧ (s.clients c).todo = [])
    (fun _ _ => ⟨rfl, rfl⟩) (fun s e t o ih _ hstep c hc => ?_) c hc
  obtain ⟨hle, hopen⟩ := step_open hstep
  obtain ⟨hclosed, hidle⟩ := ih c (Nat.le_trans hle hc)
  refine ⟨?_, ?_⟩
  · rw [← Bool.not_eq_true]
    intro h
    rcases hopen c h with h | ⟨rfl, hlt, -⟩
    · rw [hclosed] at h
      cases h
    · omega
  · cases step_todo hstep c with
    | same h => rw [h, hidle]
    | next nowMs op rest he htodo hnext =>
        rw [hidle] at htodo
        cases htodo
    | batch frames h _ _ _ =>
        rw [hclosed] at h
        cases h

end Sys

end BotCockpit.Bridge
