import BotCockpit.Proofs.Bridge.Batch
import BotCockpit.Proofs.Bridge.Robot

/-!
# `BotCockpit.Proofs.Bridge.Results`: the way of a result

Two invariants of every run. `Sys.Flying`: a result on the way is what the robot has published
for its command, and the sequence number in the hand of the executor is the one of that command.
`Sys.Async`: the slot for the asynchronous ESTOP holds the sequence number of an ESTOP whenever
it is valid.
-/

set_option autoImplicit false

namespace BotCockpit.Bridge

open BotCockpit.Lib
open BotCockpit.Sim (CmdResult Output Node)

/-- The result of a command stays one when more is shown. -/
theorem ResultOf.mono {o o' : List Obs} (hsub : o ⊆ o') {j : CmdJob} {text : Bytes}
    (h : ResultOf o j text) : ResultOf o' j text := by
  obtain ⟨results, hmem, hres⟩ := h
  exact ⟨results, hsub hmem, hres⟩

/-- The sequence number that the bridge reads from a result of the robot. -/
theorem ResultOf.seq {o : List Obs} {j : CmdJob} {text : Bytes} (h : ResultOf o j text) :
    resultSeq text = some j.seq := by
  obtain ⟨_, _, res, _, hseq, rfl⟩ := h
  rw [Sys.resultSeq_text, hseq]

/-- The result and the sequence number with which the executor goes on. -/
def Ros.read? : Ros → Option (ResultMsg × UInt16)
  | .validSeen m seq | .lower m seq _ | .invalidate m seq _ | .complete m seq _ => some (m, seq)
  | .ackClients m seq _ | .deliver m seq => some (m, seq)
  | _ => none

/-- The result that the executor takes for the one of an ESTOP. -/
def Ros.hit? : Ros → Option (ResultMsg × Option CmdJob)
  | .lower m _ estop | .invalidate m _ estop | .complete m _ estop => some (m, estop)
  | _ => none

/-- Between two results the callback has nothing in its hands. -/
theorem Ros.of_msg?_none {r : Ros} (h : r.msg? = none) :
    r.unmatched = [] ∧ r.read? = none ∧ r.hit? = none := by
  cases r <;> first | exact ⟨rfl, rfl, rfl⟩ | cases h

namespace Sys

variable {F : Type} [CDouble F] {C : Type} [CFloat C] {s t : Sys F} {e : Event} {o : List Obs}
  {allow : Sys F → Event → Prop} {h : List (Event × List Obs)}

/-- What was shown stays shown. -/
theorem shown_subset (h : List (Event × List Obs)) (e : Event) (o : List Obs) :
    shown h ⊆ shown (h ++ [(e, o)]) := by
  rw [shown_snoc]
  exact List.subset_append_left _ _

/-! ### Results on the way -/

/-- Where the results on the way come from in a step. -/
structure ResultEffect (s t : Sys F) (o : List Obs) : Prop where
  topic : ∀ m ∈ t.resultTopic,
    m ∈ s.resultTopic ∨ m.job ∈ s.cmdTopic ∧ ResultOf o m.job m.text
  hand : ∀ m, t.ros.msg? = some m → s.ros.msg? = some m ∨ m ∈ s.resultTopic
  unmatched : ∀ j ∈ t.ros.unmatched,
    j ∈ s.ros.unmatched ∨ ∃ m ∈ s.resultTopic, m.job = j
  read : ∀ m seq, t.ros.read? = some (m, seq) →
    s.ros.read? = some (m, seq) ∨ s.ros.msg? = some m ∧ resultSeq m.text = some seq

/-- The executor goes on with the same result. -/
theorem ResultEffect.of_keep (htopic : t.resultTopic = s.resultTopic)
    (hmsg : t.ros.msg? = s.ros.msg?) (hunmatched : t.ros.unmatched ⊆ s.ros.unmatched)
    (hread : t.ros.read? = s.ros.read?) : ResultEffect s t o :=
  ⟨fun _ hm => Or.inl (htopic ▸ hm), fun _ hm => Or.inl (hmsg ▸ hm),
    fun _ hj => Or.inl (hunmatched hj), fun _ _ hm => Or.inl (hread ▸ hm)⟩

/-- A step that does not touch results. -/
theorem ResultEffect.of_same (htopic : t.resultTopic = s.resultTopic) (hros : t.ros = s.ros) :
    ResultEffect s t o :=
  ResultEffect.of_keep htopic (by rw [hros]) (by rw [hros]; exact List.Subset.refl _) (by rw [hros])

/-- A callback of the executor that is not about results has none in hand. -/
theorem ResultEffect.of_none (htopic : t.resultTopic = s.resultTopic) (hros : t.ros.msg? = none) :
    ResultEffect s t o := by
  obtain ⟨hunmatched, hread, -⟩ := Ros.of_msg?_none hros
  refine ⟨fun _ hm => Or.inl (htopic ▸ hm), fun m hm => ?_, fun j hj => ?_, fun m seq hm => ?_⟩
  · rw [hros] at hm
    cases hm
  · rw [hunmatched] at hj
    cases hj
  · rw [hread] at hm
    cases hm

/-- A callback takes a result from the topic, or goes on with the one it has. -/
theorem RosEffect.result (h : RosEffect s t o) : ResultEffect s t o := by
  cases h with
  | finish m hpc => exact ResultEffect.of_none rfl rfl
  | look m seq r hpc hseq hr =>
      have hmsg : s.ros.msg? = some m := by rw [hpc]; rfl
      have hunmatched : s.ros.unmatched = [m.job] := by rw [hpc]; rfl
      rcases hr with ⟨rfl, -⟩ | rfl <;>
        refine ⟨fun _ hm => Or.inl hm, fun m' hm => Or.inl (hm ▸ hmsg),
          fun j hj => Or.inl (hunmatched ▸ hj), fun m' seq' hm => Or.inr ?_⟩ <;>
        · obtain ⟨rfl, rfl⟩ := Prod.mk.inj (Option.some.inj hm)
          exact ⟨hmsg, hseq⟩
  | miss m seq hpc =>
      exact ResultEffect.of_keep rfl (by rw [hpc]; rfl) (by rw [hpc]; exact List.Subset.refl _)
        (by rw [hpc]; rfl)
  | hit m seq hpc heq =>
      exact ResultEffect.of_keep rfl (by rw [hpc]; rfl) (List.nil_subset _) (by rw [hpc]; rfl)
  | lower m seq estop hpc =>
      exact ResultEffect.of_keep rfl (by rw [hpc]; rfl) (List.nil_subset _) (by rw [hpc]; rfl)
  | invalidate m seq estop hpc =>
      exact ResultEffect.of_keep rfl (by rw [hpc]; rfl) (List.nil_subset _) (by rw [hpc]; rfl)
  | complete m seq estop hpc =>
      exact ResultEffect.of_keep rfl (by rw [hpc]; rfl) (List.nil_subset _) (by rw [hpc]; rfl)
  | ackNext m seq d clients hpc =>
      exact ResultEffect.of_keep rfl (by rw [hpc]; rfl) (List.nil_subset _) (by rw [hpc]; rfl)
  | deliver m seq p hpc hpending => exact ResultEffect.of_none rfl rfl
  | other r lastMs console o hpc hr ho => exact ResultEffect.of_none rfl hr

/-- What a step does to the results. -/
theorem step_result (h : s.step C e = some (t, o)) : ResultEffect s t o := by
  cases step_effect h with
  | rx c nowMs op rest t o htodo heffect =>
      cases heffect with
      | plain op helloOk todo o _ _ _ => exact ResultEffect.of_same rfl rfl
      | enqueue k h => exact ResultEffect.of_same rfl rfl
      | urgent u k =>
          cases u with
          | publish =>
              refine ResultEffect.of_same ?_ ?_ <;>
                (unfold urgentStep publishCmd; dsimp only; split <;> rfl)
          | _ => exact ResultEffect.of_same rfl rfl
  | worker nowMs steady t o heffect =>
      cases heffect with
      | publish j hpc =>
          refine ResultEffect.of_same ?_ ?_ <;> (unfold publishCmd; dsimp only; split <;> rfl)
      | _ => exact ResultEffect.of_same rfl rfl
  | takeResult m topic hpc htopic =>
      -- The result goes from the topic into the callback's hands.
      refine ⟨fun m' hm => Or.inl ?_, fun m' hm => Or.inr ?_, fun j hj => Or.inr ⟨m, ?_, ?_⟩, nofun⟩
      · rw [htopic]
        exact List.mem_cons_of_mem m hm
      · rw [htopic, ← Option.some.inj hm]
        exact List.mem_cons_self ..
      · rw [htopic]
        exact List.mem_cons_self ..
      · exact (List.mem_singleton.mp hj).symm
  | takeOther e r json topic hpc hr he => exact ResultEffect.of_none rfl hr
  | ros nowMs t o heffect => exact heffect.result
  | robotCmd nowMs j topic node out htopic hnode =>
      -- The robot answers the command it takes, with the command's number.
      refine ⟨fun m hm => ?_, fun m hm => Or.inl hm, fun j hj => Or.inl hj,
        fun m seq hm => Or.inl hm⟩
      obtain ⟨res, hres, hseq⟩ := node_step_results hnode
      rcases List.mem_append.mp hm with hm | hm
      · exact Or.inl hm
      · rw [hres, List.map_singleton, List.mem_singleton] at hm
        rw [hm, hres, htopic]
        exact Or.inr ⟨List.mem_cons_self .., [res], List.mem_singleton.mpr rfl, res,
          List.mem_singleton.mpr rfl, hseq, rfl⟩
  | lose topic i =>
      cases topic with
      | result =>
          exact ⟨fun m hm => Or.inl (List.mem_of_mem_eraseIdx hm), fun m hm => Or.inl hm,
            fun j hj => Or.inl hj, fun m seq hm => Or.inl hm⟩
      | _ => exact ResultEffect.of_same rfl rfl
  | _ => exact ResultEffect.of_same rfl rfl

/-! ### Answers -/

/-- How `handle_command` comes to return `text` for `j`. A job that is refused before it is
registered does not wait any more. -/
inductive AnswerEffect (s t : Sys F) (o : List Obs) (j : QueuedJob) (text : Bytes) : Prop
  | refused (reason : Refusal) (hpc : s.worker.Early j)
      (htext : text = refusal reason j.cmdName j.seq)
      (hpub : published o = [])
      (hdrop : ∀ c p, t.waiting c p + (if j.client = c ∧ p j.toCmdJob = true then 1 else 0) =
        s.waiting c p)
  | gaveUp (reason : Refusal)
      (hpc : s.worker = .abort j ∧ reason = .estopActive ∨
        s.worker = .expired j ∧ reason = .timeout)
      (htext : text = refusal reason j.cmdName j.seq)
  | taken (deadline : Nat) (p : PendingCmd) (hpc : s.worker = .checkDone j deadline)
      (hpending : s.pending j.seq = some p) (hdone : p.done = true) (htext : text = p.ackJson)

/-- A frame that is sent is the one that was asked for. -/
theorem sendFrame_sent {c : Nat} {type : UInt8} {seq : UInt16} {payload : Bytes} {x : Obs}
    (hx : x ∈ s.sendFrame c type seq payload) :
    x = .sent c { type := type, flags := 0, seq := seq, payload := payload } := by
  unfold sendFrame at hx
  split at hx
  · exact List.mem_singleton.mp hx
  · exact absurd hx List.not_mem_nil

/-- The answers and completions among what a step shows. -/
theorem step_shown (h : s.step C e = some (t, o)) {x : Obs} (hx : x ∈ o) :
    (∀ j text, x = .answered j text → AnswerEffect s t o j text) ∧
      ∀ estop seq text, x = .completed estop seq text →
        ∃ m, s.ros = .complete m seq estop ∧ text = m.text := by
  -- A frame that is sent is neither an answer nor a completion.
  have hplain : x.Plain → (∀ j text, x = .answered j text → AnswerEffect s t o j text) ∧
      ∀ estop seq text, x = .completed estop seq text →
        ∃ m, s.ros = .complete m seq estop ∧ text = m.text := by
    intro hx
    cases x with
    | sent c f => exact ⟨nofun, nofun⟩
    | _ => exact absurd hx id
  cases step_effect h with
  | rx c nowMs op rest t o htodo heffect =>
      cases heffect with
      | plain op helloOk todo o _ _ ho => exact hplain (ho x hx)
      | enqueue k h => cases hx
      | urgent u k =>
          cases u with
          | publish =>
              rw [List.mem_singleton.mp hx]
              exact ⟨nofun, nofun⟩
          | _ => cases hx
  | worker nowMs steady t o heffect =>
      cases heffect with
      | publish j hpc =>
          rw [List.mem_singleton.mp hx]
          exact ⟨nofun, nofun⟩
      | refuse j reason o hpc ho =>
          rcases ho with rfl | rfl
          · cases hx
          · rw [List.mem_singleton.mp hx]
            refine ⟨fun j' text h => ?_, nofun⟩
            obtain ⟨rfl, rfl⟩ := Obs.answered.inj h
            exact AnswerEffect.refused reason hpc rfl rfl (waiting_of_refuse hpc _)
      | giveUp j reason hpc =>
          -- The worker answers for itself: its time is over, or a stop was raised.
          rw [List.mem_singleton.mp hx]
          refine ⟨fun j' text h => ?_, nofun⟩
          obtain ⟨rfl, rfl⟩ := Obs.answered.inj h
          exact AnswerEffect.gaveUp reason hpc rfl
      | take j deadline p hpc hpending hdone =>
          -- The answer is the text the callback has stored.
          rw [List.mem_singleton.mp hx]
          refine ⟨fun j' text h => ?_, nofun⟩
          obtain ⟨rfl, rfl⟩ := Obs.answered.inj h
          exact AnswerEffect.taken deadline p hpc hpending hdone rfl
      | ack j text hpc =>
          rw [sendFrame_sent hx]
          exact ⟨nofun, nofun⟩
      | _ => cases hx
  | ros nowMs t o heffect =>
      cases heffect with
      | complete m seq estop hpc =>
          rw [List.mem_singleton.mp hx]
          refine ⟨nofun, fun estop' seq' text h => ?_⟩
          obtain ⟨rfl, rfl, rfl⟩ := Obs.completed.inj h
          exact ⟨m, hpc, rfl⟩
      | ackNext m seq d clients hpc =>
          split at hx
          · rw [sendFrame_sent hx]
            exact ⟨nofun, nofun⟩
          · cases hx
      | other r lastMs console o _ _ ho => exact hplain (ho x hx)
      | _ => cases hx
  | robotCmd nowMs j topic node out htopic hnode =>
      rw [List.mem_singleton.mp hx]
      exact ⟨nofun, nofun⟩
  | _ => cases hx

/-- The robot answers a command with one result. -/
theorem Runs.processed_one (hrun : Runs C allow h s) {j : CmdJob} {results : List CmdResult}
    (hx : .processed j results ∈ shown h) : ∃ res, results = [res] ∧ res.seq = j.seq := by
  induction hrun with
  | nil => exact absurd hx List.not_mem_nil
  | @snoc h s t e o hrun _ hstep ih =>
      rw [shown_snoc] at hx
      rcases List.mem_append.mp hx with hx | hx
      · exact ih hx
      · have hj : j ∈ processed o := List.mem_filterMap.mpr ⟨_, hx, rfl⟩
        cases step_node hstep with
        | none _ hprocessed => exact absurd (hprocessed ▸ hj) List.not_mem_nil
        | other _ _ _ _ _ hprocessed => exact absurd (hprocessed ▸ hj) List.not_mem_nil
        | cmd nowMs i out hnode ho =>
            rw [ho, List.mem_singleton] at hx
            obtain ⟨rfl, rfl⟩ := Obs.processed.inj hx
            exact node_step_results hnode

/-- A command is published at most once. -/
theorem Runs.published_le_one (hrun : Runs C allow h s) (j : CmdJob) :
    s.waiting j.client (fun i => decide (i = j)) + (published (shown h)).count j ≤ 1 := by
  refine Nat.le_trans ?_ (Nat.le_trans (hrun.ledger j.client fun i => decide (i = j))
    (commands_le_one s j))
  refine Nat.add_le_add_left (List.countP_mono_left fun i _ hi => ?_) _
  have hi : i = j := eq_of_beq hi
  simp [hi]

/-- The robot handles a command at most once. -/
theorem Runs.processed_once (hrun : Runs C allow h s) {j : CmdJob}
    {results results' : List CmdResult}
    (hx : .processed j results ∈ shown h) (hx' : .processed j results' ∈ shown h) :
    results = results' := by
  have hcount : ((shown h).filter fun x => x.processed? == some j).length ≤ 1 := by
    rw [← List.countP_eq_length_filter]
    have hsub := ((List.sublist_append_left _ _).trans hrun.fifo).count_le j
    have hpub := hrun.published_le_one j
    have heq : (processed (shown h)).count j =
        (shown h).countP fun x => x.processed? == some j := List.count_filterMap
    omega
  have hmem : ∀ {rs : List CmdResult}, Obs.processed j rs ∈ shown h →
      Obs.processed j rs ∈ (shown h).filter fun x => x.processed? == some j :=
    fun h => List.mem_filter.mpr ⟨h, beq_self_eq_true _⟩
  obtain ⟨x, hone⟩ := List.length_eq_one_iff.mp
    (Nat.le_antisymm hcount (List.length_pos_of_mem (hmem hx)))
  have h₁ := List.mem_singleton.mp (hone ▸ hmem hx)
  have h₂ := List.mem_singleton.mp (hone ▸ hmem hx')
  exact (Obs.processed.inj (h₁.trans h₂.symm)).2

/-- Every result on the way is the robot's result for its command, and the executor has read the
sequence number of that command. -/
structure Flying (o : List Obs) (s : Sys F) : Prop where
  result : ∀ m, m ∈ s.resultTopic ∨ s.ros.msg? = some m → ResultOf o m.job m.text
  read : ∀ m seq, s.ros.read? = some (m, seq) → seq = m.job.seq

/-- In every run the results on their way are results of what was published. -/
theorem Runs.flying (hrun : Runs C allow h s) : Flying (shown h) s := by
  refine hrun.invariant_history (P := fun h s => Flying (shown h) s)
    ⟨fun m hm => hm.elim (fun hm => absurd hm List.not_mem_nil) nofun, nofun⟩
    fun h s e t o ih _ hstep => ?_
  have heffect := step_result hstep
  have hold := shown_subset h e o
  refine ⟨fun m hm => ?_, fun m seq hm => ?_⟩
  · rcases hm with hm | hm
    · rcases heffect.topic m hm with hm | ⟨-, hnew⟩
      · exact (ih.result m (Or.inl hm)).mono hold
      · rw [shown_snoc]
        exact hnew.mono (List.subset_append_right _ _)
    · rcases heffect.hand m hm with hm | hm
      · exact (ih.result m (Or.inr hm)).mono hold
      · exact (ih.result m (Or.inl hm)).mono hold
  · rcases heffect.read m seq hm with hm | ⟨hm, hseq⟩
    · exact ih.read m seq hm
    · have hread := (ih.result m (Or.inr hm)).seq
      exact Option.some.inj (hseq.symm.trans hread)

/-! ### The asynchronous ESTOP -/

/-- What a step does to the slot for the asynchronous ESTOP. -/
inductive AsyncEffect (s t : Sys F) (e : Event) : Prop
  | same (hseq : t.asyncSeq = s.asyncSeq) (hestop : t.asyncEstop = s.asyncEstop)
      (hvalid : t.asyncValid = s.asyncValid)
  | store (c : Nat) (nowMs : UInt64) (k : Command) (rest : List RxOp) (he : e = .rx c nowMs)
      (htodo : (s.clients c).todo = .urgent .storeSeq k :: rest) (hseq : t.asyncSeq = k.frame.seq)
      (hestop : t.asyncEstop = some ⟨c, k⟩) (hvalid : t.asyncValid = s.asyncValid)
  | validate (c : Nat) (nowMs : UInt64) (k : Command) (rest : List RxOp) (he : e = .rx c nowMs)
      (htodo : (s.clients c).todo = .urgent .storeValid k :: rest)
      (hseq : t.asyncSeq = s.asyncSeq) (hestop : t.asyncEstop = s.asyncEstop)
      (hvalid : t.asyncValid = true)
  | clear (m : ResultMsg) (seq : UInt16) (estop : Option CmdJob)
      (hpc : s.ros = .invalidate m seq estop) (hros : t.ros = .complete m seq estop)
      (hseq : t.asyncSeq = s.asyncSeq) (hestop : t.asyncEstop = s.asyncEstop)
      (hvalid : t.asyncValid = false)

/-- Publishing a command leaves the stop's own slot alone. -/
theorem publishCmd_async (j : CmdJob) (s : Sys F) :
    (s.publishCmd j).asyncSeq = s.asyncSeq ∧ (s.publishCmd j).asyncEstop = s.asyncEstop ∧
      (s.publishCmd j).asyncValid = s.asyncValid := by
  unfold publishCmd
  split <;> exact ⟨rfl, rfl, rfl⟩

/-- What a step does to that slot. -/
theorem step_async (h : s.step C e = some (t, o)) : AsyncEffect s t e := by
  cases step_effect h with
  | rx c nowMs op rest t o htodo heffect =>
      cases heffect with
      | plain op helloOk todo o _ _ _ => exact AsyncEffect.same rfl rfl rfl
      | enqueue k h => exact AsyncEffect.same rfl rfl rfl
      | urgent u k =>
          cases u with
          | storeSeq => exact AsyncEffect.store c nowMs k rest rfl htodo rfl rfl rfl
          | storeValid => exact AsyncEffect.validate c nowMs k rest rfl htodo rfl rfl rfl
          | publish =>
              obtain ⟨hseq, hestop, hvalid⟩ := publishCmd_async ⟨c, k⟩
                (s.setClient c { s.clients c with todo := rest })
              exact AsyncEffect.same hseq hestop hvalid
          | raise => exact AsyncEffect.same rfl rfl rfl
          | register => exact AsyncEffect.same rfl rfl rfl
  | worker nowMs steady t o heffect =>
      cases heffect with
      | publish j hpc =>
          obtain ⟨hseq, hestop, hvalid⟩ := publishCmd_async j.toCmdJob s
          exact AsyncEffect.same hseq hestop hvalid
      | _ => exact AsyncEffect.same rfl rfl rfl
  | ros nowMs t o heffect =>
      cases heffect with
      | invalidate m seq estop hpc => exact AsyncEffect.clear m seq estop hpc rfl rfl rfl rfl
      | _ => exact AsyncEffect.same rfl rfl rfl
  | lose topic i => cases topic <;> exact AsyncEffect.same rfl rfl rfl
  | _ => exact AsyncEffect.same rfl rfl rfl

/-- The slot stands for an ESTOP whenever it is valid or about to be. -/
structure Async (s : Sys F) : Prop where
  seq : ∀ e, s.asyncEstop = some e → s.asyncSeq = e.seq ∧ e.urgent = true
  valid : s.asyncValid = true → s.asyncEstop ≠ none
  validating : ∀ c, (s.clients c).validating = true → s.asyncEstop ≠ none
  seen : ∀ m seq, s.ros = .validSeen m seq → s.asyncValid = true

/-- The next operation of a thread that is about to set the slot valid. -/
theorem validating_iff {cl : Client} :
    cl.validating = true ↔ ∃ k rest, cl.todo = .urgent .storeValid k :: rest := by
  unfold Client.validating
  split <;> rename_i hmatch
  · simp [hmatch]
  · simp only [Bool.false_eq_true, false_iff, not_exists]
    exact fun k rest h => hmatch k rest h

/-- A thread that is about to set the slot valid was so before, or has just stored its ESTOP. -/
theorem Runs.validating (hrun : Runs C allow h s) (hstep : s.step C e = some (t, o)) {c : Nat}
    (hc : (t.clients c).validating = true) :
    (s.clients c).validating = true ∨ ∃ k rest,
      (s.clients c).todo = .urgent .storeSeq k :: rest ∧ t.asyncEstop = some ⟨c, k⟩ := by
  obtain ⟨k, rest, hk⟩ := validating_iff.mp hc
  cases step_todo hstep c with
  | same h => exact Or.inl (validating_iff.mpr ⟨k, rest, h ▸ hk⟩)
  | next nowMs op rest' he htodo hnext =>
      subst he
      rcases hnext with hnext | ⟨hnext, -, -⟩
      · obtain rfl := hnext.symm.trans hk
        obtain rfl := (hrun.before htodo _ _ rfl).2 .storeSeq rfl
        simp only [step, htodo, rxOp, urgentStep, Option.some.injEq, Prod.mk.injEq] at hstep
        exact Or.inr ⟨k, _, htodo, by rw [← hstep.1]⟩
      · rw [hnext] at hk
        cases hk
  | batch frames hopen htodo hreceived hnext =>
      have hchain := isChain_batchOps .checkFd (frames.zipIdx (s.clients c).received.length)
      rw [← hnext, hk, List.isChain_cons_cons] at hchain
      exact RxOp.noConfusion ((hchain.1 _ _ rfl).2 .storeSeq rfl)

/-- A step of another thread leaves the worker alone. -/
theorem step_worker (h : s.step C e = some (t, o)) :
    t.worker = s.worker ∨ (∃ nowMs steady, e = .worker nowMs steady) ∧ WorkerEffect s t o := by
  cases step_effect h with
  | rx c nowMs op rest t o htodo heffect =>
      refine Or.inl ?_
      cases heffect with
      | urgent u k =>
          cases u with
          | publish => exact (publishCmd_rest ..).2.2
          | _ => rfl
      | _ => rfl
  | worker nowMs steady t o heffect => exact Or.inr ⟨⟨nowMs, steady, rfl⟩, heffect⟩
  | ros nowMs t o heffect => cases heffect <;> exact Or.inl rfl
  | lose topic i => cases topic <;> exact Or.inl rfl
  | _ => exact Or.inl rfl

/-- What a step does to the executor. -/
inductive RosStep (s t : Sys F) (o : List Obs) : Prop
  | same (h : t.ros = s.ros)
  | take (m : ResultMsg) (h : t.ros = .result m)
  | other (h : t.ros.msg? = none)
  | ros (heffect : RosEffect s t o)

/-- What a step does to the callback. -/
theorem step_ros (h : s.step C e = some (t, o)) : RosStep s t o := by
  cases step_effect h with
  | rx c nowMs op rest t o htodo heffect =>
      refine RosStep.same ?_
      cases heffect with
      | urgent u k =>
          cases u with
          | publish => unfold urgentStep publishCmd; dsimp only; split <;> rfl
          | _ => rfl
      | _ => rfl
  | worker nowMs steady t o heffect =>
      refine RosStep.same ?_
      cases heffect with
      | publish j hpc => unfold publishCmd; dsimp only; split <;> rfl
      | _ => rfl
  | takeResult m topic hpc htopic => exact RosStep.take m rfl
  | takeOther e r json topic hpc hr he => exact RosStep.other hr
  | ros nowMs t o heffect => exact RosStep.ros heffect
  | lose topic i => cases topic <;> exact RosStep.same rfl
  | _ => exact RosStep.same rfl

/-- The executor goes on to the look at the sequence number only from a valid slot. -/
theorem step_validSeen (h : s.step C e = some (t, o)) {m : ResultMsg} {seq : UInt16}
    (hros : t.ros = .validSeen m seq) : s.ros = .validSeen m seq ∨ s.asyncValid = true := by
  cases step_ros h with
  | same h => exact Or.inl (h ▸ hros)
  | take m' h => cases h.symm.trans hros
  | other h =>
      rw [hros] at h
      cases h
  | ros heffect =>
      cases heffect with
      | look m' seq' r hpc hseq hr =>
          rcases hr with ⟨-, hvalid⟩ | rfl
          · exact Or.inr hvalid
          · cases hros
      | other r lastMs console o hpc hr ho =>
          obtain rfl : r = .validSeen m seq := hros
          cases hr
      | _ => cases hros

/-- In every run the slot is what its fields say. -/
theorem Runs.async (hrun : Runs C allow h s) : Async s := by
  induction hrun with
  | nil => exact ⟨nofun, nofun, fun c hc => Bool.noConfusion hc, nofun⟩
  | @snoc h s t e o hrun _ hstep ih =>
      -- A slot that was filled once stays filled.
      have hestop : s.asyncEstop ≠ none → t.asyncEstop ≠ none := by
        intro hs
        cases step_async hstep with
        | store c nowMs k rest _ _ _ hestop _ => rw [hestop]; exact Option.some_ne_none _
        | same _ hestop _ => rwa [hestop]
        | validate _ _ _ _ _ _ _ hestop _ => rwa [hestop]
        | clear _ _ _ _ _ _ hestop _ => rwa [hestop]
      refine ⟨fun a ha => ?_, fun hvalid => ?_, fun c hc => ?_, fun m seq hros => ?_⟩
      · cases step_async hstep with
        | store c nowMs k rest he htodo hseq hestop _ =>
            rw [hestop] at ha
            rw [hseq, ← Option.some.inj ha]
            exact ⟨rfl, Runs.urgent hrun htodo⟩
        | same hseq hestop _ => exact hseq ▸ ih.seq a (hestop ▸ ha)
        | validate _ _ _ _ _ _ hseq hestop _ => exact hseq ▸ ih.seq a (hestop ▸ ha)
        | clear _ _ _ _ _ hseq hestop _ => exact hseq ▸ ih.seq a (hestop ▸ ha)
      · cases step_async hstep with
        | same _ _ hsame => exact hestop (ih.valid (hsame ▸ hvalid))
        | store _ _ _ _ _ _ _ _ hsame => exact hestop (ih.valid (hsame ▸ hvalid))
        | validate c _ k rest _ htodo _ _ _ =>
            exact hestop (ih.validating c (validating_iff.mpr ⟨k, rest, htodo⟩))
        | clear _ _ _ _ _ _ _ hfalse =>
            rw [hfalse] at hvalid
            cases hvalid
      · rcases Runs.validating hrun hstep hc with hc | ⟨k, rest, -, hstored⟩
        · exact hestop (ih.validating c hc)
        · rw [hstored]
          exact Option.some_ne_none _
      · have hvalid : s.asyncValid = true :=
          (step_validSeen hstep hros).elim (ih.seen m seq) id
        cases step_async hstep with
        | same _ _ hsame => rw [hsame, hvalid]
        | store _ _ _ _ _ _ _ _ hsame => rw [hsame, hvalid]
        | validate _ _ _ _ _ _ _ _ htrue => exact htrue
        | clear _ _ _ _ hcomplete _ _ _ =>
            rw [hcomplete] at hros
            cases hros

end Sys

end BotCockpit.Bridge
