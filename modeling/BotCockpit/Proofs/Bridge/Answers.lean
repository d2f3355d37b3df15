import BotCockpit.Proofs.Bridge.Lanes

/-!
# `BotCockpit.Proofs.Bridge.Answers`: no ACK is made up

A CMD_ACK to a client is either a refusal that the bridge has written for a command of that
client, or the text of a result that the robot has published, byte for byte, for a command with the
same sequence number (`Runs.backed`). Which command that was, the sequence number alone does not
say: a number may be in use twice.
-/

set_option autoImplicit false

namespace BotCockpit.Bridge

open BotCockpit.Lib
open BotCockpit.Wire (Frame)

/-- The robot has published `text` as its result for some command with this sequence number. -/
def Published (o : List Obs) (seq : UInt16) (text : Bytes) : Prop :=
  ∃ j, ResultOf o j text ∧ j.seq = seq

/-- What was published stays published. -/
theorem Published.mono {o o' : List Obs} (hsub : o ⊆ o') {seq : UInt16} {text : Bytes}
    (h : Published o seq text) : Published o' seq text := by
  obtain ⟨j, hres, hseq⟩ := h
  exact ⟨j, hres.mono hsub, hseq⟩

namespace Sys

variable {F : Type} [CDouble F] {C : Type} [CFloat C] {s t : Sys F} {e : Event} {o : List Obs}
  {allow : Sys F → Event → Prop} {h : List (Event × List Obs)}

/-- The client of the job has sent its command. -/
def Sent (s : Sys F) (j : CmdJob) : Prop := j.command ∈ commandsOf (s.clients j.client).received

/-- A CMD_ACK to client `c` is a refusal for a command of this client, or a result of the robot. -/
def Backed (o : List Obs) (s : Sys F) (c : Nat) (f : Frame) : Prop :=
  (∃ j reason, j.client = c ∧ j.seq = f.seq ∧ s.Sent j ∧
    f.payload = refusal reason j.cmdName j.seq) ∨
    Published o f.seq f.payload

/-! ### One step -/

/-- A command that was sent stays one. -/
theorem Sent.step (hstep : s.step C e = some (t, o)) {j : CmdJob} (hj : s.Sent j) : t.Sent j := by
  obtain ⟨frames, hframes⟩ := (step_flow hstep).received j.client
  unfold Sent commandsOf at hj ⊢
  rw [← hframes, List.zipIdx_append, List.filterMap_append]
  exact List.mem_append_left _ hj

/-- A result that waits for its command was there before, or the executor has just matched it. -/
theorem step_pending (hstep : s.step C e = some (t, o)) {seq : UInt16} {p : PendingCmd}
    (hp : t.pending seq = some p) (hdone : p.done = true) :
    s.pending seq = some p ∨ ∃ m, s.ros = .deliver m seq ∧ p.ackJson = m.text := by
  -- A new entry is not done.
  have hnew : ∀ {s' : Sys F} {seq' : UInt16},
      (s'.setPending seq' (some {})).pending seq = some p → s'.pending seq = some p := by
    intro s' seq' hp
    by_cases hseq : seq = seq'
    · subst hseq
      rw [setPending_self] at hp
      rw [← Option.some.inj hp] at hdone
      cases hdone
    · rwa [setPending_of_ne s' _ hseq] at hp
  have herase : ∀ {s' : Sys F} {seq' : UInt16},
      (s'.setPending seq' none).pending seq = some p → s'.pending seq = some p := by
    intro s' seq' hp
    by_cases hseq : seq = seq'
    · subst hseq
      rw [setPending_self] at hp
      cases hp
    · rwa [setPending_of_ne s' _ hseq] at hp
  have hpublish : ∀ (s' : Sys F) (j : CmdJob), (s'.publishCmd j).pending = s'.pending := by
    intro s' j
    unfold publishCmd
    split <;> rfl
  cases step_effect hstep with
  | rx c nowMs op rest t o htodo heffect =>
      cases heffect with
      | urgent u k =>
          cases u with
          | register => exact .inl (hnew hp)
          | publish =>
              have hsame := hpublish (s.setClient c { s.clients c with todo := rest }) ⟨c, k⟩
              exact .inl ((congrFun hsame seq).symm.trans hp)
          | _ => exact .inl hp
      | _ => exact .inl hp
  | worker nowMs steady t o heffect =>
      cases heffect with
      | register q hpc => exact .inl (hnew hp)
      | publish q hpc => exact .inl ((congrFun (hpublish s q.toCmdJob) seq).symm.trans hp)
      | giveUp q reason hpc => exact .inl (herase hp)
      | take q deadline p' hpc hpending hdone' => exact .inl (herase hp)
      | _ => exact .inl hp
  | ros nowMs t o heffect =>
      cases heffect with
      | deliver m seq' p' hpc hpending =>
          by_cases hseq : seq = seq'
          · subst hseq
            have hself : (s.setPending seq (some { done := true, ackJson := m.text })).pending seq =
              some p := hp
            rw [setPending_self] at hself
            rw [← Option.some.inj hself]
            exact .inr ⟨m, hpc, rfl⟩
          · have hne : (s.setPending seq' (some { done := true, ackJson := m.text })).pending seq =
              some p := hp
            rw [setPending_of_ne s _ hseq] at hne
            exact .inl hne
      | _ => exact .inl hp
  | lose topic i => cases topic <;> exact .inl hp
  | _ => exact .inl hp

/-- A text that the worker is about to send was there before, is a refusal, or was in the pending
entry of its job. -/
theorem step_ackText (hstep : s.step C e = some (t, o)) {j : QueuedJob} {text : Bytes}
    (hw : t.worker = .ack j text) :
    s.worker = .ack j text ∨
      s.worker.job? = some j ∧ ((∃ reason, text = refusal reason j.cmdName j.seq) ∨
        ∃ p, s.pending j.seq = some p ∧ p.done = true ∧ text = p.ackJson) := by
  rcases step_worker hstep with hsame | ⟨-, heffect⟩
  · exact .inl (hsame ▸ hw)
  · cases heffect with
    | early q w hpc hnext =>
        rw [show w = .ack j text from hw] at hnext
        cases hnext
    | wait q w hpc hnext hraised =>
        rw [show w = .ack j text from hw] at hnext
        cases hnext
    | refuse q reason o hpc ho =>
        obtain ⟨rfl, rfl⟩ := Worker.ack.inj hw
        exact .inr ⟨hpc.job?_eq, .inl ⟨reason, rfl⟩⟩
    | giveUp q reason hpc =>
        obtain ⟨rfl, rfl⟩ := Worker.ack.inj hw
        refine .inr ⟨?_, .inl ⟨reason, rfl⟩⟩
        rcases hpc with ⟨hpc, -⟩ | ⟨hpc, -⟩ <;> rw [hpc] <;> rfl
    | take q deadline p hpc hpending hdone =>
        obtain ⟨rfl, rfl⟩ := Worker.ack.inj hw
        exact .inr ⟨by rw [hpc]; rfl, .inr ⟨p, hpending, hdone, rfl⟩⟩
    | pop q queue hpc hqueue => cases hw
    | drop q hpc => cases hw
    | register q hpc => cases hw
    | publish q hpc => cases hw
    | ack q text' hpc => cases hw

/-- The worker has a job in hand that it had before, or the first one of the queue. -/
theorem step_job (hstep : s.step C e = some (t, o)) {j : QueuedJob} (hj : t.worker.job? = some j) :
    s.worker.job? = some j ∨ j ∈ s.queue := by
  rcases step_worker hstep with hsame | ⟨-, heffect⟩
  · exact .inl (hsame ▸ hj)
  · cases heffect with
    | pop q queue hpc hqueue =>
        obtain rfl := Option.some.inj hj
        exact .inr (hqueue ▸ List.mem_cons_self)
    | early q w hpc hnext =>
        obtain rfl := Option.some.inj (hnext.job?_eq.symm.trans hj)
        exact .inl hpc.job?_eq
    | wait q w hpc hnext hraised =>
        obtain rfl := Option.some.inj (hnext.job?_eq.symm.trans hj)
        exact .inl hpc.job?_eq
    | refuse q reason o hpc ho =>
        obtain rfl := Option.some.inj hj
        exact .inl hpc.job?_eq
    | giveUp q reason hpc =>
        obtain rfl := Option.some.inj hj
        rcases hpc with ⟨hpc, -⟩ | ⟨hpc, -⟩ <;> exact .inl (by rw [hpc]; rfl)
    | register q hpc =>
        obtain rfl := Option.some.inj hj
        exact .inl (by rw [hpc]; rfl)
    | publish q hpc =>
        obtain rfl := Option.some.inj hj
        exact .inl (by rw [hpc]; rfl)
    | take q deadline p hpc hpending hdone =>
        obtain rfl := Option.some.inj hj
        exact .inl (by rw [hpc]; rfl)
    | drop q hpc => cases hj
    | ack q text hpc => cases hj

/-- A CMD_ACK is written by the worker, or while the executor completes an ESTOP. -/
theorem step_sent (hstep : s.step C e = some (t, o)) {c : Nat} {f : Frame} (hx : .sent c f ∈ o)
    (htype : f.type = msgCmdAck) :
    (∃ j text, s.worker = .ack j text ∧ j.client = c ∧ j.seq = f.seq ∧ text = f.payload) ∨
      ∃ m clients, s.ros = .ackClients m f.seq clients ∧ m.text = f.payload := by
  -- Plain observations hold no acknowledgement.
  have hplain : ∀ o : List Obs, (∀ x ∈ o, x.Plain) → .sent c f ∉ o :=
    fun o ho hx => ho _ hx htype
  cases step_effect hstep with
  | rx d nowMs op rest t o htodo heffect =>
      cases heffect with
      | plain op helloOk todo o _ _ ho => exact absurd hx (hplain o ho)
      | enqueue k h => cases hx
      | urgent u k =>
          cases u with
          | publish => cases List.mem_singleton.mp hx
          | _ => cases hx
  | worker nowMs steady t o heffect =>
      cases heffect with
      | publish j hpc => cases List.mem_singleton.mp hx
      | refuse j reason o hpc ho =>
          rcases ho with rfl | rfl
          · cases hx
          · cases List.mem_singleton.mp hx
      | giveUp j reason hpc => cases List.mem_singleton.mp hx
      | take j deadline p hpc hpending hdone => cases List.mem_singleton.mp hx
      | ack j text hpc =>
          -- The worker acknowledges the job it has in hand.
          obtain ⟨rfl, rfl⟩ := Obs.sent.inj (sendFrame_sent hx)
          exact .inl ⟨j, text, hpc, rfl, rfl, rfl⟩
      | _ => cases hx
  | ros nowMs t o heffect =>
      cases heffect with
      | complete m seq estop hpc => cases List.mem_singleton.mp hx
      | ackNext m seq d clients hpc =>
          -- The callback acknowledges a stop, to one client after the other.
          split at hx
          · obtain ⟨rfl, rfl⟩ := Obs.sent.inj (sendFrame_sent hx)
            exact .inr ⟨m, _, hpc, rfl⟩
          · cases hx
      | other r lastMs console o _ _ ho => exact absurd hx (hplain o ho)
      | _ => cases hx
  | robotCmd nowMs j topic node out htopic hnode => cases List.mem_singleton.mp hx
  | _ => cases hx

/-! ### Every run -/

/-- Everything that may become an ACK is backed: the job in hand was sent, what the worker is about
to send is a refusal or a result, and so is what waits in a pending entry. -/
structure Backing (o : List Obs) (s : Sys F) : Prop where
  job : ∀ j, s.worker.job? = some j → s.Sent j.toCmdJob
  ack : ∀ j text, s.worker = .ack j text →
    (∃ reason, text = refusal reason j.cmdName j.seq) ∨ Published o j.seq text
  pending : ∀ seq p, s.pending seq = some p → p.done = true → Published o seq p.ackJson

/-- A job in the queue was sent by its client. -/
theorem Runs.sent_queue (hrun : Runs C allow h s) {j : QueuedJob} (hj : j ∈ s.queue) :
    s.Sent j.toCmdJob := by
  have horder := hrun.lane_order j.client false
  have hlane : j.command ∈ s.lane j.client false := by
    have hahead : j.toCmdJob ∈ s.ahead :=
      List.mem_append_right _ (List.mem_map_of_mem hj)
    refine List.mem_append_left _ (List.mem_filter.mpr ⟨List.mem_filterMap.mpr ⟨_, hahead, ?_⟩, ?_⟩)
    · simp [CmdJob.commandFor?]
    · simp [j.notUrgent]
  exact (List.mem_filter.mp (horder.subset (List.mem_append_right _ hlane))).1

/-- In every run the answers are backed by what was published. -/
theorem Runs.backing (hrun : Runs C allow h s) : Backing (shown h) s := by
  induction hrun with
  | nil => exact ⟨nofun, nofun, nofun⟩
  | @snoc h s t e o hrun _ hstep ih =>
      have hold := shown_subset h e o
      have hflying := Runs.flying hrun
      refine ⟨fun j hj => ?_, fun j text hw => ?_, fun seq p hp hdone => ?_⟩
      · rcases step_job hstep hj with hj | hj
        · exact (ih.job j hj).step hstep
        · exact (Runs.sent_queue hrun hj).step hstep
      · rcases step_ackText hstep hw with hw | ⟨-, hrefusal | ⟨p, hp, hdone, rfl⟩⟩
        · exact (ih.ack j text hw).imp id fun hpub => hpub.mono hold
        · exact .inl hrefusal
        · exact .inr ((ih.pending j.seq p hp hdone).mono hold)
      · rcases step_pending hstep hp hdone with hp | ⟨m, hros, htext⟩
        · exact (ih.pending seq p hp hdone).mono hold
        · -- The executor has read the number of the command whose result it has in hand.
          have hres := hflying.result m (.inr (by rw [hros]; rfl))
          have hseq := hflying.read m seq (by rw [hros]; rfl)
          rw [htext]
          exact Published.mono hold ⟨m.job, hres, hseq.symm⟩

/-- In every run, each CMD_ACK that a thread sends to a client is a refusal for a command that this
client has sent, with its number, or the text of a result that the robot has published for a command
with this number. -/
theorem Runs.backed (hrun : Runs C allow h s) :
    ∀ c f, .sent c f ∈ shown h → f.type = msgCmdAck → s.Backed (shown h) c f := by
  induction hrun with
  | nil => exact fun c f hx => absurd hx List.not_mem_nil
  | @snoc h s t e o hrun _ hstep ih =>
      intro c f hx htype
      have hold := shown_subset h e o
      rw [shown_snoc] at hx
      rcases List.mem_append.mp hx with hx | hx
      · rcases ih c f hx htype with ⟨j, reason, hc, hseq, hsent, hpayload⟩ | hpub
        · exact .inl ⟨j, reason, hc, hseq, hsent.step hstep, hpayload⟩
        · exact .inr (hpub.mono hold)
      · rcases step_sent hstep hx htype with ⟨j, text, hw, hc, hseq, htext⟩ |
          ⟨m, clients, hros, htext⟩
        · have hjob : s.worker.job? = some j := by rw [hw]; rfl
          rcases (Runs.backing hrun).ack j text hw with ⟨reason, hreason⟩ | hpub
          · refine .inl ⟨j.toCmdJob, reason, hc, hseq, ((Runs.backing hrun).job j hjob).step hstep,
              ?_⟩
            rw [← htext, hreason]
          · rw [hseq, htext] at hpub
            exact .inr (hpub.mono hold)
        · have hres := (Runs.flying hrun).result m (.inr (by rw [hros]; rfl))
          have hseq := (Runs.flying hrun).read m f.seq (by rw [hros]; rfl)
          rw [htext] at hres
          exact .inr (Published.mono hold ⟨m.job, hres, hseq.symm⟩)

end Sys

end BotCockpit.Bridge
