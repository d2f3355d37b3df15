import BotCockpit.Proofs.Bridge.Order

/-!
# `BotCockpit.Proofs.Bridge.Confirmation`: what becomes of the result of an ESTOP

`on_cmd_result` knows the ESTOP it waits for by one slot, which every `urgent_estop` overwrites.
When the slot does not hold the sequence number of a result, its sender is not told
(`estop_unconfirmed`). And no one erases the pending entry that `urgent_estop` makes.

`estop_confirmed_iff` says exactly when a result is confirmed as it should be. It has two halves:
`Callback.told_iff` follows one callback of the executor (`Handling`), and `Runs.leftover_iff`
follows one entry of `pending_` over the whole run.
-/

set_option autoImplicit false

namespace BotCockpit.Bridge.Sys

open BotCockpit.Lib

variable {F : Type} [CDouble F] {C : Type} [CFloat C] {s t u v : Sys F} {e : Event} {o : List Obs}
  {allow : Sys F → Event → Prop} {h pre mid : List (Event × List Obs)} {m : ResultMsg}

/-! ### The pending entries -/

/-- What a step does to the entry for `seq`. -/
structure EntryEffect (seq : UInt16) (s t : Sys F) (e : Event) : Prop where
  made : estopEntry seq (s, e) ∨ workerEntry seq (s, e) → (t.pending seq).isSome = true
  erased : workerErases seq (s, e) → (t.pending seq).isSome = false
  kept : ¬estopEntry seq (s, e) → ¬workerEntry seq (s, e) → ¬workerErases seq (s, e) →
    (t.pending seq).isSome = (s.pending seq).isSome

/-- A step that does not touch the entry. -/
theorem EntryEffect.of_same {seq : UInt16} (hpending : t.pending seq = s.pending seq)
    (hestop : ¬estopEntry seq (s, e)) (hmade : ¬workerEntry seq (s, e))
    (herased : ¬workerErases seq (s, e)) : EntryEffect seq s t e :=
  ⟨fun h => h.elim (absurd · hestop) (absurd · hmade), fun h => absurd h herased,
    fun _ _ _ => by rw [hpending]⟩

/-- A step that sets the entry of another number, or the one of `seq` for the first reason. -/
theorem EntryEffect.of_set {seq : UInt16} (seq' : UInt16) (p : PendingCmd)
    (hpending : t.pending = (s.setPending seq' (some p)).pending)
    (hmade : estopEntry seq (s, e) ∨ workerEntry seq (s, e) ↔ seq' = seq)
    (herased : ¬workerErases seq (s, e)) : EntryEffect seq s t e := by
  refine ⟨fun h => ?_, fun h => absurd h herased, fun he hw _ => ?_⟩
  · rw [hpending, hmade.mp h, setPending_self]
    rfl
  · have hne : seq ≠ seq' := fun h => (hmade.mpr h.symm).elim he hw
    rw [hpending, setPending_of_ne s _ hne]

/-- A step that erases the entry of `seq'`. -/
theorem EntryEffect.of_erase {seq : UInt16} (seq' : UInt16)
    (hpending : t.pending = (s.setPending seq' none).pending) (hestop : ¬estopEntry seq (s, e))
    (hmade : ¬workerEntry seq (s, e)) (herased : workerErases seq (s, e) ↔ seq' = seq) :
    EntryEffect seq s t e := by
  refine ⟨fun h => h.elim (absurd · hestop) (absurd · hmade), fun h => ?_, fun _ _ hr => ?_⟩
  · rw [hpending, herased.mp h, setPending_self]
    rfl
  · have hne : seq ≠ seq' := fun h => hr (herased.mpr h.symm)
    rw [hpending, setPending_of_ne s _ hne]

/-- Publishing a command leaves the table of the pending ones alone. -/
theorem publishCmd_pending (j : CmdJob) (s : Sys F) : (s.publishCmd j).pending = s.pending := by
  unfold publishCmd
  split <;> rfl

/-- The operations of a receive thread: `urgent_estop` makes an entry. -/
theorem rx_entry {c : Nat} {nowMs : UInt64} (hstep : s.step C (.rx c nowMs) = some (t, o))
    (seq : UInt16) : EntryEffect seq s t (.rx c nowMs) := by
  cases htodo : (s.clients c).todo with
  | nil => simp [step, htodo] at hstep
  | cons op rest =>
      have hrx : s.rxOp c nowMs rest op = (t, o) := by
        simpa only [step, htodo, Option.some.injEq] using hstep
      obtain rfl : (s.rxOp c nowMs rest op).1 = t := by rw [hrx]
      cases op with
      | urgent op k =>
          cases op with
          | register =>
              refine EntryEffect.of_set k.frame.seq {} rfl ?_ id
              simp [estopEntry, htodo, workerEntry]
          | publish =>
              refine EntryEffect.of_same ?_ (by simp [estopEntry, htodo]) id id
              exact congrFun (publishCmd_pending ⟨c, k⟩ _) seq
          | _ => exact EntryEffect.of_same rfl (by simp [estopEntry, htodo]) id id
      | _ => exact EntryEffect.of_same rfl (by simp [estopEntry, htodo]) id id

/-- The steps of the worker: it makes an entry before it publishes, and erases it at the end. -/
theorem worker_entry {nowMs : UInt64} {steady : Nat}
    (hstep : s.step C (.worker nowMs steady) = some (t, o)) (seq : UInt16) :
    EntryEffect seq s t (.worker nowMs steady) := by
  have hworker : s.workerStep nowMs steady = some (t, o) := hstep
  -- Places where the worker neither makes nor erases an entry.
  have hplain : t.pending = s.pending → (∀ j, s.worker ≠ .register j) →
      (∀ j, s.worker ≠ .abort j) → (∀ j, s.worker ≠ .expired j) →
        (∀ j d, s.worker = .checkDone j d → (s.pending j.seq).any PendingCmd.done ≠ true) →
          EntryEffect seq s t (.worker nowMs steady) := by
    intro hpending hregister habort hexpired hdone
    refine EntryEffect.of_same (by rw [hpending]) id ?_ ?_
    · unfold workerEntry
      cases hpc : s.worker with
      | register j => exact absurd hpc (hregister j)
      | _ => exact id
    · unfold workerErases
      cases hpc : s.worker with
      | abort j => exact absurd hpc (habort j)
      | expired j => exact absurd hpc (hexpired j)
      | checkDone j d => exact fun h => hdone j d hpc h.2
      | _ => exact id
  cases hpc : s.worker with
  | register j =>
      simp only [workerStep, hpc, goto, Option.some.injEq, Prod.mk.injEq] at hworker
      obtain ⟨rfl, rfl⟩ := hworker
      refine EntryEffect.of_set j.seq {} rfl ?_ ?_
      · simp [estopEntry, workerEntry, hpc]
      · simp [workerErases, hpc]
  | abort j | expired j =>
      simp only [workerStep, hpc, answer, Option.some.injEq, Prod.mk.injEq] at hworker
      obtain ⟨rfl, rfl⟩ := hworker
      refine EntryEffect.of_erase j.seq rfl id ?_ ?_
      · simp [workerEntry, hpc]
      · simp [workerErases, hpc]
  | checkDone j deadline =>
      simp only [workerStep, hpc, Option.some.injEq] at hworker
      cases hp : s.pending j.seq with
      | none =>
          simp only [hp, goto, Prod.mk.injEq] at hworker
          obtain ⟨rfl, rfl⟩ := hworker
          exact hplain rfl (by simp [hpc]) (by simp [hpc]) (by simp [hpc]) (by simp [hpc, hp])
      | some p =>
          by_cases hdone : p.done = true
          · simp only [hp, hdone, if_true, answer, Prod.mk.injEq] at hworker
            obtain ⟨rfl, rfl⟩ := hworker
            refine EntryEffect.of_erase j.seq rfl id ?_ ?_
            · simp [workerEntry, hpc]
            · simp [workerErases, hpc, hp, hdone]
          · simp only [hp, if_neg hdone, goto, Prod.mk.injEq] at hworker
            obtain ⟨rfl, rfl⟩ := hworker
            exact hplain rfl (by simp [hpc]) (by simp [hpc]) (by simp [hpc])
              (by simp [hpc, hp, hdone])
  | publish j =>
      simp only [workerStep, hpc, Option.some.injEq, Prod.mk.injEq] at hworker
      obtain ⟨rfl, rfl⟩ := hworker
      exact hplain (publishCmd_pending ..) (by simp [hpc]) (by simp [hpc]) (by simp [hpc])
        (by simp [hpc])
  | _ =>
      refine hplain ?_ (by simp [hpc]) (by simp [hpc]) (by simp [hpc]) (by simp [hpc])
      cases workerStep_effect hworker with
      | register j h => simp [hpc] at h
      | publish j h => simp [hpc] at h
      | giveUp j reason h => simp [hpc] at h
      | take j d p h => simp [hpc] at h
      | _ => rfl

/-- What a step does to the table's entry for a number. -/
theorem step_entry (hstep : s.step C e = some (t, o)) (seq : UInt16) :
    EntryEffect seq s t e := by
  cases step_effect hstep with
  | rx c nowMs op rest t o _ _ => exact rx_entry hstep seq
  | worker nowMs steady t o _ => exact worker_entry hstep seq
  | ros nowMs t o heffect =>
      cases heffect with
      | deliver m seq' p hpc hpending =>
          -- The entry is answered, and stays.
          refine ⟨fun h => h.elim False.elim False.elim, fun h => absurd h id, fun _ _ _ => ?_⟩
          by_cases hseq : seq = seq'
          · subst hseq
            show ((s.setPending seq _).pending seq).isSome = _
            rw [setPending_self, hpending]
            rfl
          · show ((s.setPending seq' _).pending seq).isSome = _
            rw [setPending_of_ne s _ hseq]
      | _ => exact EntryEffect.of_same rfl id id id
  | gone e c he => rcases he with rfl | rfl <;> exact EntryEffect.of_same rfl id id id
  | takeOther e r json topic _ _ he =>
      rcases he with rfl | ⟨_, rfl⟩ <;> exact EntryEffect.of_same rfl id id id
  | robot e call console node out _ he _ =>
      rcases he with ⟨_, _, rfl, -⟩ | rfl <;> exact EntryEffect.of_same rfl id id id
  | lose topic i => cases topic <;> exact EntryEffect.of_same rfl id id id
  | _ => exact EntryEffect.of_same rfl id id id

/-- **The entry of `urgent_estop` stays** until the worker handles a command with the same
sequence number. -/
theorem Runs.leftover_iff (hrun : Runs C allow h s) (seq : UInt16) :
    Leftover C h s seq ↔ ¬TakenOver C F h seq := by
  unfold TakenOver
  rw [not_not]
  induction hrun with
  | nil =>
      constructor
      · rintro ⟨hsome, -⟩
        cases hsome
      · intro hs
        obtain ⟨x, hx, -⟩ := hs.exists_mem
        exact absurd hx List.not_mem_nil
  | @snoc h s t e o hrun hallow hstep ih =>
      obtain ⟨hmade, herased, hkept⟩ := step_entry hstep seq
      have htrace : trace (step C) (init : Sys F) (h ++ [(e, o)]) = _ := hrun.trace_snoc e o
      unfold Leftover at ih ⊢
      rw [htrace, since_snoc, since_snoc]
      -- The entry is the stop's from the step on that makes it, until the worker makes or takes it.
      by_cases hestop : estopEntry seq (s, e)
      · simp only [hestop, true_or, and_true, iff_true]
        exact hmade (Or.inl hestop)
      by_cases hworker : workerEntry seq (s, e)
      · simp [hestop, hworker]
      by_cases herase : workerErases seq (s, e)
      · simp [hestop, herase, herased herase]
      · simp only [hestop, hworker, herase, hkept hestop hworker herase, false_or,
          not_false_eq_true,
          and_true]
        exact ih

/-! ### One callback -/

/-- Where the executor is with the result `m` of an ESTOP, when it has sent `told` to the sender.
`held` says that every look at the slot has found the number of the result. -/
inductive Handling (m : ResultMsg) (told : List UInt16) (held : Prop) : Ros → Prop
  | result (hheld : held) (htold : told = []) : Handling m told held (.result m)
  | validSeen (hheld : held) (htold : told = []) : Handling m told held (.validSeen m m.job.seq)
  | lower (estop : Option CmdJob) (hheld : held) (htold : told = []) :
      Handling m told held (.lower m m.job.seq estop)
  | invalidate (estop : Option CmdJob) (hheld : held) (htold : told = []) :
      Handling m told held (.invalidate m m.job.seq estop)
  | complete (estop : Option CmdJob) (hheld : held) (htold : told = []) :
      Handling m told held (.complete m m.job.seq estop)
  | ackClients (clients : List Nat) (hheld : held)
      (htold : m.job.client ∈ clients ∨ m.job.seq ∈ told) :
      Handling m told held (.ackClients m m.job.seq clients)
  | deliver (hheld : ¬held) (htold : told = []) : Handling m told held (.deliver m m.job.seq)
  | idle (h : m.job.seq ∈ told ↔ held) : Handling m told held .idle

/-- In a callback of the executor, a step of another thread leaves it where it is. -/
theorem step_busy (hstep : s.step C e = some (t, o)) (hbusy : s.ros ≠ .idle) :
    (∃ nowMs, e = .ros nowMs ∧ s.rosStep nowMs = some (t, o)) ∨
      t.ros = s.ros ∧ ∀ nowMs, e ≠ .ros nowMs := by
  by_cases he : ∃ nowMs, e = .ros nowMs
  · obtain ⟨nowMs, rfl⟩ := he
    exact Or.inl ⟨nowMs, rfl, hstep⟩
  · refine Or.inr ⟨?_, fun nowMs h => he ⟨nowMs, h⟩⟩
    cases step_effect hstep with
    | rx c nowMs op rest t o htodo heffect =>
        cases heffect with
        | urgent u k =>
            cases u with
            | publish => unfold urgentStep publishCmd; dsimp only; split <;> rfl
            | _ => rfl
        | _ => rfl
    | worker nowMs steady t o heffect =>
        cases heffect with
        | publish j hpc => unfold publishCmd; dsimp only; split <;> rfl
        | _ => rfl
    | takeResult m topic hpc _ => exact absurd hpc hbusy
    | takeOther e r json topic hpc _ _ => exact absurd hpc hbusy
    | ros nowMs t o _ => exact absurd ⟨nowMs, rfl⟩ he
    | lose topic i => cases topic <;> rfl
    | _ => rfl

/-- The ACK of `complete_async_ack` for a client that is there. -/
theorem acks_greeted {c : Nat} (hgreeted : s.greeted c = true) (seq : UInt16) (text : Bytes) :
    acks c (if s.greeted c then s.sendFrame c msgCmdAck seq text else []) = [seq] := by
  rw [if_pos hgreeted]
  have hopen : (s.clients c).fdOpen = true := by
    rw [greeted, Bool.and_eq_true] at hgreeted
    exact hgreeted.2
  simp [sendFrame, hopen, acks, Obs.ack?]

/-- One step of the executor in the callback. -/
theorem Handling.step {told : List UInt16} {held : Prop} {nowMs : UInt64}
    (hs : Handling m told held s.ros) (hseq : resultSeq m.text = some m.job.seq)
    (hstep : s.rosStep nowMs = some (t, o)) (hgreeted : s.greeted m.job.client = true)
    (haccepted : m.job.client < s.accepted) :
    Handling m (told ++ acks m.job.client o) (held ∧ slotHolds (s, .ros nowMs)) t.ros := by
  generalize hpc : s.ros = r at hs
  cases hs with
  | result hheld htold =>
      -- The first test of the slot: is it valid.
      simp only [rosStep, hpc, hseq, rosGoto, Option.some.injEq, Prod.mk.injEq] at hstep
      obtain ⟨rfl, rfl⟩ := hstep
      subst htold
      show Handling m [] _ (if s.asyncValid then _ else _)
      split
      · exact .validSeen ⟨hheld, by simpa [slotHolds, hpc]⟩ rfl
      · exact .deliver (by simp_all [slotHolds]) rfl
  | validSeen hheld htold =>
      -- The second test: does it stand for this number.
      simp only [rosStep, hpc, rosGoto, Option.some.injEq, Prod.mk.injEq] at hstep
      obtain ⟨rfl, rfl⟩ := hstep
      subst htold
      show Handling m [] _ (if s.asyncSeq = m.job.seq then _ else _)
      split
      · exact .lower _ ⟨hheld, by simpa [slotHolds, hpc]⟩ rfl
      · exact .deliver (by simp_all [slotHolds]) rfl
  | lower estop hheld htold =>
      simp only [rosStep, hpc, Option.some.injEq, Prod.mk.injEq] at hstep
      obtain ⟨rfl, rfl⟩ := hstep
      exact .invalidate estop ⟨hheld, by simp [slotHolds, hpc]⟩ (by rw [htold]; rfl)
  | invalidate estop hheld htold =>
      simp only [rosStep, hpc, Option.some.injEq, Prod.mk.injEq] at hstep
      obtain ⟨rfl, rfl⟩ := hstep
      exact .complete estop ⟨hheld, by simp [slotHolds, hpc]⟩ (by rw [htold]; rfl)
  | complete estop hheld htold =>
      simp only [rosStep, hpc, Option.some.injEq, Prod.mk.injEq] at hstep
      obtain ⟨rfl, rfl⟩ := hstep
      exact .ackClients _ ⟨hheld, by simp [slotHolds, hpc]⟩ (Or.inl (List.mem_range.mpr haccepted))
  | ackClients clients hheld htold =>
      -- The sender is still to come, or it has been told.
      have hslot : slotHolds (s, .ros nowMs) := by simp [slotHolds, hpc]
      cases clients with
      | nil =>
          simp only [rosStep, hpc, rosGoto, Option.some.injEq, Prod.mk.injEq] at hstep
          obtain ⟨rfl, rfl⟩ := hstep
          have hmem := htold.resolve_left List.not_mem_nil
          exact .idle ⟨fun _ => ⟨hheld, hslot⟩, fun _ => List.mem_append_left _ hmem⟩
      | cons d clients =>
          simp only [rosStep, hpc, Option.some.injEq, Prod.mk.injEq] at hstep
          obtain ⟨rfl, rfl⟩ := hstep
          refine .ackClients clients ⟨hheld, hslot⟩ ?_
          rcases htold with hmem | hmem
          · rcases List.mem_cons.mp hmem with rfl | hmem
            · rw [acks_greeted hgreeted]
              exact Or.inr (List.mem_append_right _ (List.mem_singleton_self _))
            · exact Or.inl hmem
          · exact Or.inr (List.mem_append_left _ hmem)
  | deliver hheld htold =>
      -- The result goes to the table, and nobody is told.
      have hidle : t.ros = .idle ∧ o = [] := by
        simp only [rosStep, hpc, rosGoto, Option.some.injEq] at hstep
        split at hstep <;> cases hstep <;> exact ⟨rfl, rfl⟩
      rw [hidle.1, hidle.2, htold]
      exact .idle ⟨fun h => absurd h List.not_mem_nil, fun h => absurd h.1 hheld⟩
  | idle h => simp [rosStep, hpc] at hstep

/-- A HELLO that was accepted stays accepted. -/
theorem step_helloOk (hstep : s.step C e = some (t, o)) {c : Nat}
    (hhello : (s.clients c).helloOk = true) : (t.clients c).helloOk = true := by
  -- A client that is written back does not lose the flag.
  have hset : ∀ (d : Nat) (cl : Client), ((s.clients d).helloOk = true → cl.helloOk = true) →
      ((s.setClient d cl).clients c).helloOk = true := by
    intro d cl hcl
    by_cases hd : c = d
    · subst hd
      rw [setClient_self]
      exact hcl hhello
    · rw [setClient_of_ne s cl hd]
      exact hhello
  cases step_effect hstep with
  | accept => exact hset _ _ id
  | recv d chunk _ _ => exact hset _ _ id
  | gone e d _ => exact hset _ _ id
  | rx d nowMs op rest t o htodo _ =>
      have hrx : s.rxOp d nowMs rest op = (t, o) := by
        simpa only [step, htodo, Option.some.injEq] using hstep
      obtain rfl : (s.rxOp d nowMs rest op).1 = t := by rw [hrx]
      cases op with
      | setHelloOk => exact hset _ _ fun _ => rfl
      | enqueue k h => exact hset _ { s.clients d with todo := rest } id
      | urgent u k =>
          cases u with
          | publish =>
              show ((publishCmd _ (s.setClient d _)).clients c).helloOk = true
              rw [(publishCmd_rest _ _).1]
              exact hset _ _ id
          | _ => exact hset _ { s.clients d with todo := rest } id
      | _ => exact hset _ _ id
  | worker nowMs steady t o heffect =>
      cases heffect with
      | publish j hpc =>
          show ((s.publishCmd j.toCmdJob).clients c).helloOk = true
          rw [(publishCmd_rest ..).1]
          exact hhello
      | _ => exact hhello
  | ros nowMs t o heffect => cases heffect <;> exact hhello
  | lose topic i => cases topic <;> exact hhello
  | _ => exact hhello

/-- The callback from the taking of the result on, while the client is connected. -/
theorem handling_of_run (hrun : Run (step C) anyStep t mid u) (hhand : t.ros = .result m)
    (hseq : resultSeq m.text = some m.job.seq)
    (hhello : (t.clients m.job.client).helloOk = true) (haccepted : m.job.client < t.accepted)
    (hbusy : ∀ x ∈ trace (step C) t mid, x.1.ros ≠ .idle)
    (hopen : (u.clients m.job.client).fdOpen = true) :
    Handling m (rosAcks m.job.client mid) (∀ x ∈ trace (step C) t mid, slotHolds x) u.ros := by
  -- The sender has greeted and stays a client.
  have hstays : ∀ {mid u}, Run (step C) anyStep t mid u →
      (u.clients m.job.client).helloOk = true ∧ m.job.client < u.accepted := by
    intro mid u hrun
    refine hrun.invariant
      (P := fun s => (s.clients m.job.client).helloOk = true ∧ m.job.client < s.accepted)
      ⟨hhello, haccepted⟩ fun s e t o hs _ hstep => ?_
    exact ⟨step_helloOk hstep hs.1, Nat.lt_of_lt_of_le hs.2 (step_open hstep).1⟩
  -- Step by step: the callback goes on, or another thread moves and leaves it alone.
  induction hrun with
  | nil =>
      rw [hhand]
      exact .result (fun x hx => absurd hx List.not_mem_nil) rfl
  | @snoc mid v w e o hrun _ hstep ih =>
      rw [hrun.trace_snoc e o] at hbusy ⊢
      obtain ⟨hgreeted, hlt⟩ := hstays hrun
      have hopen' : (v.clients m.job.client).fdOpen = true := by
        rcases (step_open hstep).2 _ hopen with h | ⟨h, -⟩
        · exact h
        · omega
      have hv := ih (fun x hx => hbusy x (List.mem_append_left _ hx)) hopen'
      have hall : (∀ x ∈ trace (step C) t mid ++ [(v, e)], slotHolds x) ↔
          (∀ x ∈ trace (step C) t mid, slotHolds x) ∧ slotHolds (v, e) := by
        simp only [List.mem_append, List.mem_singleton, or_imp, forall_and, forall_eq]
      have hacks : rosAcks m.job.client (mid ++ [(e, o)]) =
          rosAcks m.job.client mid ++ rosAcks? m.job.client (e, o) := by
        simp [rosAcks]
      rw [hall, hacks]
      rcases step_busy hstep (hbusy _ (List.mem_append_right _ (List.mem_singleton_self _))) with
        ⟨nowMs, rfl, hros⟩ | ⟨hros, hne⟩
      · exact hv.step hseq hros (by rw [greeted, hgreeted, hopen']; rfl) hlt
      · -- Another thread moves.
        have hslot : slotHolds (v, e) := by
          cases e with
          | ros nowMs => exact absurd rfl (hne nowMs)
          | _ => trivial
        have hnone : rosAcks? m.job.client (e, o) = [] := by
          cases e with
          | ros nowMs => exact absurd rfl (hne nowMs)
          | _ => rfl
        rw [hros, hnone, List.append_nil, and_iff_left hslot]
        exact hv

/-- **The sender is told** exactly when the slot holds the number of the result. -/
theorem Callback.told_iff (hcall : Callback C m pre mid s t u)
    (hgreeted : s.greeted m.job.client = true) (hopen : (u.clients m.job.client).fdOpen = true) :
    m.job.seq ∈ rosAcks m.job.client mid ↔ ∀ x ∈ trace (step C) t mid, slotHolds x := by
  have hrun : Runs C anyStep (pre ++ [(.takeResult, [])]) t :=
    Run.snoc hcall.before trivial hcall.takes
  have hseq : resultSeq m.text = some m.job.seq :=
    ((Runs.flying hrun).result m (Or.inr (by rw [hcall.hand]; rfl))).seq
  rw [greeted, Bool.and_eq_true] at hgreeted
  have hborn : m.job.client < s.accepted := by
    by_contra hlt
    rw [(Runs.unborn hcall.before (Nat.le_of_not_lt hlt)).1] at hgreeted
    cases hgreeted.2
  have hhandling := handling_of_run hcall.during hcall.hand hseq
    (step_helloOk hcall.takes hgreeted.1)
    (Nat.lt_of_lt_of_le hborn (step_open hcall.takes).1) hcall.busy hopen
  rw [hcall.done] at hhandling
  cases hhandling with
  | idle h => exact h

/-- **When an ESTOP gets its confirmation.** The sender is told exactly when the slot still holds
the sequence number of the ESTOP, and the entry of `urgent_estop` is gone exactly when the worker
has handled a command with the same number in the meantime. -/
theorem estop_confirmed_iff (hcall : Callback C m pre mid s t u)
    (hgreeted : s.greeted m.job.client = true) (hopen : (u.clients m.job.client).fdOpen = true) :
    Confirmed C m pre mid u ↔
      (∀ x ∈ trace (step C) t mid, slotHolds x) ∧
        TakenOver C F (pre ++ (.takeResult, []) :: mid) m.job.seq := by
  have hrun : Runs C anyStep (pre ++ (.takeResult, []) :: mid) u := by
    have htaken : Runs C anyStep (pre ++ [(.takeResult, [])]) t :=
      Run.snoc hcall.before trivial hcall.takes
    rw [List.append_cons]
    exact Run.trans htaken hcall.during
  unfold Confirmed
  rw [hcall.told_iff hgreeted hopen, Runs.leftover_iff hrun, not_not]

/-! ### Two ESTOPs at once, and one that is confirmed -/

instance : DecidablePred (Ros.idle = ·) := fun r =>
  match r with
  | .idle => isTrue rfl
  | .result _ | .validSeen _ _ | .lower _ _ _ | .invalidate _ _ _ | .complete _ _ _
  | .ackClients _ _ _ | .deliver _ _ | .stored | .delta _ | .broadcast _ _ | .console =>
      isFalse (by simp)

/-- A callback that was computed. -/
theorem Callback.of_run (hbefore : Runs C anyStep pre s)
    (htakes : s.step C .takeResult = some (t, o)) (hhand : t.ros.msg? = some m)
    (hurgent : m.job.urgent = true) (hduring : Run (step C) anyStep t mid u)
    (hbusy : ∀ x ∈ trace (step C) t mid, ¬Ros.idle = x.1.ros) (hdone : Ros.idle = u.ros) :
    Callback C m pre mid s t u := by
  have hresult : t.ros = .result m ∧ o = [] := by
    simp only [step] at htakes
    split at htakes
    · obtain ⟨rfl, ho⟩ := Prod.mk.inj (Option.some.inj htakes)
      exact ⟨by rw [← Option.some.inj hhand], ho.symm⟩
    · cases htakes
  exact ⟨hurgent, hbefore, hresult.2 ▸ htakes, hresult.1, hduring,
    fun x hx => Ne.symm (hbusy x hx), hdone.symm⟩

/-- Two ESTOPs are on their way to the robot before the first result is there. -/
def twoEstops : List Event :=
  bringUp ++ [Event.recv 0 (clientFrame msgCmdEstop 2 "" ++ clientFrame msgCmdEstop 3 "")] ++
    List.replicate 12 (Event.rx 0 6) ++ [Event.robotCmd 7, .robotCmd 8]

def twoRun : List (Event × List Obs) × Sys ℚ :=
  (exec (step Exact.Cost) anyStep init twoEstops).get (by decide +kernel)

/-- The executor takes the result of the first one. -/
def twoTaken : Sys ℚ × List Obs := (step Exact.Cost twoRun.2 .takeResult).get (by decide +kernel)

def twoMsg : ResultMsg := twoTaken.1.ros.msg?.get (by decide +kernel)

def twoCallback : List (Event × List Obs) × Sys ℚ :=
  (exec (step Exact.Cost) anyStep twoTaken.1 (List.replicate 3 (Event.ros 9))).get
    (by decide +kernel)

/-- The sender of the first ESTOP is not told, and its entry stays. -/
theorem estop_unconfirmed :
    ∃ (m : ResultMsg) (pre mid : List (Event × List Obs)) (s t u : Sys ℚ),
      Callback Exact.Cost m pre mid s t u ∧ s.greeted m.job.client = true ∧
        (u.clients m.job.client).fdOpen = true ∧ m.job.seq ∉ rosAcks m.job.client mid ∧
          Leftover Exact.Cost (pre ++ (.takeResult, []) :: mid) u m.job.seq ∧
            ¬Confirmed Exact.Cost m pre mid u := by
  have hcall :
      Callback Exact.Cost twoMsg twoRun.1 twoCallback.1 twoRun.2 twoTaken.1 twoCallback.2 :=
    Callback.of_run (Run.of_exec (Option.some_get _).symm) (Option.some_get _).symm
      (Option.some_get _).symm (by decide +kernel) (Run.of_exec (Option.some_get _).symm)
      (by decide +kernel) (by decide +kernel)
  have htold : twoMsg.job.seq ∉ rosAcks twoMsg.job.client twoCallback.1 := by decide +kernel
  exact ⟨twoMsg, twoRun.1, twoCallback.1, twoRun.2, twoTaken.1, twoCallback.2, hcall,
    by decide +kernel, by decide +kernel, htold, by decide +kernel, fun h => htold h.1⟩

/-- A client sends an ESTOP and a RESET with the same sequence number, and the worker gives the
RESET up because of the ESTOP. -/
def takenEvents : List Event :=
  bringUp ++ [Event.recv 0 (clientFrame msgCmdEstop 2 "" ++ clientFrame msgCmdReset 2 "")] ++
    List.replicate 8 (Event.rx 0 6) ++ List.replicate 11 (Event.worker 6 0) ++ [Event.robotCmd 7]

def takenRun : List (Event × List Obs) × Sys ℚ :=
  (exec (step Exact.Cost) anyStep init takenEvents).get (by decide +kernel)

def takenHand : Sys ℚ × List Obs :=
  (step Exact.Cost takenRun.2 .takeResult).get (by decide +kernel)

def takenMsg : ResultMsg := takenHand.1.ros.msg?.get (by decide +kernel)

def takenCallback : List (Event × List Obs) × Sys ℚ :=
  (exec (step Exact.Cost) anyStep takenHand.1 (List.replicate 7 (Event.ros 9))).get
    (by decide +kernel)

/-- A run in which the result of a stop confirms it. -/
theorem estop_confirmed_taken :
    Confirmed Exact.Cost takenMsg takenRun.1 takenCallback.1 takenCallback.2 := by
  have hcall : Callback Exact.Cost takenMsg takenRun.1 takenCallback.1 takenRun.2 takenHand.1
      takenCallback.2 :=
    Callback.of_run (Run.of_exec (Option.some_get _).symm) (Option.some_get _).symm
      (Option.some_get _).symm (by decide +kernel) (Run.of_exec (Option.some_get _).symm)
      (by decide +kernel) (by decide +kernel)
  exact (estop_confirmed_iff hcall (by decide +kernel) (by decide +kernel)).mpr
    ⟨by decide +kernel, by decide +kernel⟩

end BotCockpit.Bridge.Sys
