import BotCockpit.Proofs.Bridge.Results

/-!
# `BotCockpit.Proofs.Bridge.Matching`: results and their commands

The bridge matches a result with a command by the sequence number alone. Clients choose the
numbers, so two commands in flight may have the same one, and then one is answered with the
result of the other (`result_of_another`).

`results_matched` is the promise under the condition that the numbers in flight differ. A step
brings at most one new command in flight (`Runs.inFlight`), and under the condition its number is
free. So equal numbers mean equal commands, which is what the comparison in the bridge relies on.
-/

set_option autoImplicit false

namespace BotCockpit.Bridge

open BotCockpit.Lib
open BotCockpit.Sim (Output Node)

/-- A worker that waits has its job registered. -/
theorem Worker.Waits.registered {j : QueuedJob} {w : Worker} (h : w.Waits j) :
    w.registered = [j.toCmdJob] := by
  cases h <;> rfl

/-- What is matched stays matched. -/
theorem Obs.Matched.mono {o o' : List Obs} {x : Obs} (hsub : o ⊆ o') (h : x.Matched o) :
    x.Matched o' := by
  cases x with
  | answered j text => exact h.imp id (ResultOf.mono hsub)
  | completed estop seq text =>
      obtain ⟨e, he, hurgent, hresult⟩ := h
      exact ⟨e, he, hurgent, hresult.mono hsub⟩
  | _ => trivial

namespace Sys

variable {F : Type} [CDouble F] {C : Type} [CFloat C] {s t : Sys F} {e : Event} {o : List Obs}
  {allow : Sys F → Event → Prop} {h : List (Event × List Obs)}

/-! ### Commands in flight -/

/-- The stops whose result is awaited. -/
theorem mem_awaited {j : CmdJob} :
    j ∈ s.awaited ↔ s.asyncEstop = some j ∧
      (s.asyncValid = true ∨ ∃ c < s.accepted, (s.clients c).validating = true) := by
  unfold awaited
  split
  · rename_i h
    simp only [List.mem_range] at h
    simp [h]
  · rename_i h
    simp only [List.mem_range] at h
    simp [h]

/-- The places where a command in flight can be. -/
theorem mem_inFlight {j : CmdJob} :
    j ∈ s.inFlight ↔ j ∈ s.worker.registered ∨
      (∃ c < s.accepted, j ∈ (s.clients c).passing c) ∨ j ∈ s.cmdTopic ∨
      (∃ m ∈ s.resultTopic, m.job = j) ∨ j ∈ s.ros.unmatched ∨ j ∈ s.awaited := by
  simp only [inFlight, List.mem_append, List.mem_flatMap, List.mem_range, List.mem_map, or_assoc]

/-- A stop that its receiving thread is passing on. -/
theorem mem_passing {c : Nat} {cl : Client} {j : CmdJob} :
    j ∈ cl.passing c ↔ ∃ u k rest, cl.todo = .urgent u k :: rest ∧ u ≠ .raise ∧ j = ⟨c, k⟩ := by
  unfold Client.passing
  split
  · rename_i u k rest htodo
    rw [htodo]
    by_cases hu : u = .raise
    · simp [hu]
    · simp [hu]
  · rename_i hmatch
    simp only [List.not_mem_nil, false_iff, not_exists, not_and]
    exact fun u k rest htodo => absurd htodo (hmatch u k rest)

/-- The command that a step brings in flight. -/
def Introduces (s : Sys F) (j : CmdJob) : Event → Prop
  | .worker _ _ => ∃ q : QueuedJob, s.worker = .register q ∧ j = q.toCmdJob
  | .rx c _ => ∃ k rest, (s.clients c).todo = .urgent .raise k :: rest ∧ j = ⟨c, k⟩
  | _ => False

/-- The condition makes the number of a new command free. -/
theorem Introduces.free {j : CmdJob} (h : Introduces s j e) (hallow : s.freshSeq e) :
    s.SeqFree j.seq := by
  cases e with
  | worker nowMs steady =>
      obtain ⟨q, hpc, rfl⟩ := h
      simp only [freshSeq, hpc] at hallow
      exact hallow
  | rx c nowMs =>
      obtain ⟨k, rest, htodo, rfl⟩ := h
      simp only [freshSeq, htodo] at hallow
      exact hallow
  | _ => exact absurd h id

/-- A step brings no two commands in flight. -/
theorem Introduces.unique {i j : CmdJob} (hi : Introduces s i e) (hj : Introduces s j e) :
    i = j := by
  cases e with
  | worker nowMs steady =>
      obtain ⟨q, hpc, rfl⟩ := hi
      obtain ⟨q', hpc', rfl⟩ := hj
      rw [Worker.register.inj (hpc.symm.trans hpc')]
  | rx c nowMs =>
      obtain ⟨k, rest, htodo, rfl⟩ := hi
      obtain ⟨k', rest', htodo', rfl⟩ := hj
      obtain ⟨hop, -⟩ := List.cons.inj (htodo.symm.trans htodo')
      rw [(RxOp.urgent.inj hop).2]
  | _ => exact absurd hi id

/-- An ESTOP between two accesses was so before the step, or the step is its first one. -/
theorem Runs.passing (hrun : Runs C allow h s) (hstep : s.step C e = some (t, o)) {c : Nat}
    {j : CmdJob} (hj : j ∈ (t.clients c).passing c) :
    j ∈ (s.clients c).passing c ∨ Introduces s j e := by
  obtain ⟨u, k, rest, htodo, hu, rfl⟩ := mem_passing.mp hj
  cases step_todo hstep c with
  | same h => exact Or.inl (mem_passing.mpr ⟨u, k, rest, h ▸ htodo, hu, rfl⟩)
  | next nowMs op rest' he htodo' hnext =>
      rcases hnext with hnext | ⟨hnext, -, -⟩
      · obtain rfl := hnext.symm.trans htodo
        obtain ⟨v, hv⟩ : ∃ v, u.prev? = some v := by
          cases u with
          | raise => exact absurd rfl hu
          | _ => exact ⟨_, rfl⟩
        obtain rfl := (hrun.before htodo' _ _ rfl).2 v hv
        by_cases hraise : v = .raise
        · subst hraise he
          exact Or.inr ⟨k, _, htodo', rfl⟩
        · exact Or.inl (mem_passing.mpr ⟨v, k, _, htodo', hraise, rfl⟩)
      · rw [hnext] at htodo
        cases htodo
  | batch frames hopen hidle hreceived hnext =>
      have hchain := isChain_batchOps .checkFd (frames.zipIdx (s.clients c).received.length)
      rw [← hnext, htodo, List.isChain_cons_cons] at hchain
      obtain ⟨v, hv⟩ : ∃ v, u.prev? = some v := by
        cases u with
        | raise => exact absurd rfl hu
        | _ => exact ⟨_, rfl⟩
      exact RxOp.noConfusion ((hchain.1 _ _ rfl).2 v hv)

/-- A thread with something to do is the thread of a client that has come. -/
theorem Runs.lt_accepted (hrun : Runs C allow h s) {c : Nat} {op : RxOp} {rest : List RxOp}
    (htodo : (s.clients c).todo = op :: rest) : c < s.accepted := by
  by_contra hle
  rw [(hrun.unborn (Nat.le_of_not_lt hle)).2] at htodo
  cases htodo

/-- It is in flight. -/
theorem Runs.inFlight_of_passing (hrun : Runs C allow h s) {c : Nat} {j : CmdJob}
    (hj : j ∈ (s.clients c).passing c) : j ∈ s.inFlight := by
  obtain ⟨u, k, rest, htodo, -, -⟩ := mem_passing.mp hj
  exact mem_inFlight.mpr (Or.inr (Or.inl ⟨c, hrun.lt_accepted htodo, hj⟩))

/-- A job is registered by the step that introduces it. -/
theorem step_registered (hstep : s.step C e = some (t, o)) {j : CmdJob}
    (hj : j ∈ t.worker.registered) : j ∈ s.worker.registered ∨ Introduces s j e := by
  rcases step_worker hstep with hsame | ⟨⟨nowMs, steady, rfl⟩, heffect⟩
  · exact Or.inl (hsame ▸ hj)
  cases heffect with
  | register q hpc => exact Or.inr ⟨q, hpc, List.mem_singleton.mp hj⟩
  | publish q hpc => exact Or.inl (hpc ▸ hj)
  | early q w hpc hnext => cases hnext <;> cases hj
  | wait q w hpc hnext hraised =>
      rw [show Worker.registered w = _ from hnext.registered] at hj
      exact Or.inl (hpc.registered.symm ▸ hj)
  | _ => cases hj

/-- What is put on the cmd topic was passed on by a receive thread or by the worker. -/
theorem Runs.cmdTopic (hrun : Runs C allow h s) (hstep : s.step C e = some (t, o)) {j : CmdJob}
    (hj : j ∈ t.cmdTopic) : j ∈ s.inFlight := by
  have hold : j ∈ s.cmdTopic → j ∈ s.inFlight := fun h =>
    mem_inFlight.mpr (Or.inr (Or.inr (Or.inl h)))
  have htopic : j ∈ s.cmdTopic ++ published o :=
    (step_flow hstep).topic.subset (List.mem_append_right _ hj)
  rcases List.mem_append.mp htopic with hj | hj
  · exact hold hj
  · rcases step_published hstep with hnone | ⟨c, nowMs, k, rest, rfl, htodo, -, hpub⟩ |
      ⟨q, hpc, hpub⟩
    · rw [hnone] at hj
      exact absurd hj List.not_mem_nil
    · rw [hpub, List.mem_singleton] at hj
      exact hrun.inFlight_of_passing (mem_passing.mpr ⟨.publish, k, rest, htodo, nofun, hj⟩)
    · rw [hpub] at hj
      exact mem_inFlight.mpr (Or.inl (hpc ▸ hj))

/-- The ESTOP that results are compared with was so before the step, or a receive thread has it
in hand. -/
theorem Runs.awaited (hrun : Runs C allow h s) (hstep : s.step C e = some (t, o)) {j : CmdJob}
    (hj : j ∈ t.awaited) : j ∈ s.inFlight := by
  -- The stop was awaited before, or its thread was about to say that the slot is valid.
  have hold : s.asyncEstop = some j →
      (s.asyncValid = true ∨ ∃ c, (s.clients c).validating = true) → j ∈ s.inFlight := by
    intro hestop hvalid
    refine mem_inFlight.mpr (Or.inr (Or.inr (Or.inr (Or.inr (Or.inr (mem_awaited.mpr ?_))))))
    refine ⟨hestop, hvalid.imp id ?_⟩
    rintro ⟨c, hc⟩
    obtain ⟨k, rest, htodo⟩ := validating_iff.mp hc
    exact ⟨c, hrun.lt_accepted htodo, hc⟩
  -- The stop has just been stored by its thread, which had it in hand.
  have hstored : ∀ {c k rest}, (s.clients c).todo = .urgent .storeSeq k :: rest →
      t.asyncEstop = some ⟨c, k⟩ → j ∈ s.inFlight := by
    intro c k rest htodo hstored
    have hj := Option.some.inj ((mem_awaited.mp hj).1.symm.trans hstored)
    exact hrun.inFlight_of_passing (mem_passing.mpr ⟨.storeSeq, k, rest, htodo, nofun, hj⟩)
  obtain ⟨hestop, hvalid⟩ := mem_awaited.mp hj
  cases step_async hstep with
  | store c nowMs k rest he htodo hseq hstore _ => exact hstored htodo hstore
  | validate c nowMs k rest he htodo hseq hsame _ =>
      exact hold (hsame ▸ hestop) (Or.inr ⟨c, validating_iff.mpr ⟨k, rest, htodo⟩⟩)
  | same hseq hsame hvalid' =>
      rcases hvalid with hvalid | ⟨c, -, hc⟩
      · exact hold (hsame ▸ hestop) (Or.inl (hvalid' ▸ hvalid))
      · rcases hrun.validating hstep hc with hc | ⟨k, rest, htodo, hstore⟩
        · exact hold (hsame ▸ hestop) (Or.inr ⟨c, hc⟩)
        · exact hstored htodo hstore
  | clear m seq estop hpc hros hseq hsame hfalse =>
      rcases hvalid with hvalid | ⟨c, -, hc⟩
      · rw [hfalse] at hvalid
        cases hvalid
      · rcases hrun.validating hstep hc with hc | ⟨k, rest, htodo, hstore⟩
        · exact hold (hsame ▸ hestop) (Or.inr ⟨c, hc⟩)
        · exact hstored htodo hstore

/-- **What is in flight after a step** was so before, or the step introduces it. -/
theorem Runs.inFlight (hrun : Runs C allow h s) (hstep : s.step C e = some (t, o)) {j : CmdJob}
    (hj : j ∈ t.inFlight) : j ∈ s.inFlight ∨ Introduces s j e := by
  have heffect := step_result hstep
  rcases mem_inFlight.mp hj with hj | ⟨c, -, hj⟩ | hj | ⟨m, hm, rfl⟩ | hj | hj
  · exact (step_registered hstep hj).imp (fun hj => mem_inFlight.mpr (Or.inl hj)) id
  · exact (hrun.passing hstep hj).imp hrun.inFlight_of_passing id
  · exact Or.inl (hrun.cmdTopic hstep hj)
  · refine Or.inl (mem_inFlight.mpr (Or.inr (Or.inr ?_)))
    rcases heffect.topic m hm with hm | ⟨hm, -⟩
    · exact Or.inr (Or.inl ⟨m, hm, rfl⟩)
    · exact Or.inl hm
  · refine Or.inl (mem_inFlight.mpr (Or.inr (Or.inr (Or.inr ?_))))
    rcases heffect.unmatched j hj with hj | hj
    · exact Or.inr (Or.inl hj)
    · exact Or.inl hj
  · exact Or.inl (hrun.awaited hstep hj)

/-- **Under the condition, commands in flight with the same number are the same.** -/
theorem Runs.inFlight_unique (hrun : Runs C freshSeq h s) :
    ∀ i ∈ s.inFlight, ∀ j ∈ s.inFlight, i.seq = j.seq → i = j := by
  induction hrun with
  | nil => exact fun i hi => by cases hi
  | @snoc h s t e o hrun hallow hstep ih =>
      intro i hi j hj hseq
      rcases Runs.inFlight hrun hstep hi with hi | hi
      · rcases Runs.inFlight hrun hstep hj with hj | hj
        · exact ih i hi j hj hseq
        · exact absurd hseq (hj.free hallow i hi)
      · rcases Runs.inFlight hrun hstep hj with hj | hj
        · exact absurd hseq.symm (hi.free hallow j hj)
        · exact hi.unique hj

/-! ### Pending entries -/

/-- The entry that the worker waits for is done after a step: it was so before, or the executor
has just stored the result that it had in hand. -/
theorem step_done (hstep : s.step C e = some (t, o)) {j : CmdJob}
    (hj : j ∈ t.worker.registered) {p : PendingCmd} (hp : t.pending j.seq = some p)
    (hdone : p.done = true) :
    j ∈ s.worker.registered ∧
      (s.pending j.seq = some p ∨ ∃ m, s.ros = .deliver m j.seq ∧ p.ackJson = m.text) := by
  -- A new entry is not done.
  have hnew : ∀ {s' : Sys F} {seq : UInt16},
      (s'.setPending seq (some {})).pending j.seq = some p → s'.pending j.seq = some p := by
    intro s' seq hp
    by_cases hseq : j.seq = seq
    · subst hseq
      rw [setPending_self] at hp
      rw [← Option.some.inj hp] at hdone
      cases hdone
    · rwa [setPending_of_ne s' _ hseq] at hp
  cases step_effect hstep with
  | rx c nowMs op rest t o htodo heffect =>
      cases heffect with
      | urgent u k =>
          cases u with
          | register => exact ⟨hj, Or.inl (hnew hp)⟩
          | publish =>
              refine ⟨?_, Or.inl ?_⟩
              · have hworker := (publishCmd_rest ⟨c, k⟩
                  (s.setClient c { s.clients c with todo := rest })).2.2
                exact (congrArg (j ∈ Worker.registered ·) hworker).mp hj
              · rw [← hp]
                unfold urgentStep publishCmd
                dsimp only
                split <;> rfl
          | _ => exact ⟨hj, Or.inl hp⟩
      | _ => exact ⟨hj, Or.inl hp⟩
  | worker nowMs steady t o heffect =>
      cases heffect with
      | register q hpc =>
          obtain rfl := List.mem_singleton.mp hj
          have hself : (s.setPending q.seq (some {})).pending q.seq = some p := hp
          rw [setPending_self] at hself
          rw [← Option.some.inj hself] at hdone
          cases hdone
      | publish q hpc =>
          refine ⟨hpc ▸ hj, Or.inl ?_⟩
          rw [← hp]
          show _ = (s.publishCmd q.toCmdJob).pending _
          unfold publishCmd
          split <;> rfl
      | early q w hpc hnext => cases hnext <;> cases hj
      | wait q w hpc hnext hraised =>
          refine ⟨?_, Or.inl hp⟩
          rw [show Worker.registered w = _ from hnext.registered] at hj
          exact hpc.registered.symm ▸ hj
      | _ => cases hj
  | ros nowMs t o heffect =>
      cases heffect with
      | deliver m seq p' hpc hpending =>
          refine ⟨hj, ?_⟩
          by_cases hseq : j.seq = seq
          · subst hseq
            have hself : (s.setPending j.seq (some { done := true, ackJson := m.text })).pending
              j.seq = some p := hp
            rw [setPending_self] at hself
            rw [← Option.some.inj hself]
            exact Or.inr ⟨m, hpc, rfl⟩
          · have hne : (s.setPending seq (some { done := true, ackJson := m.text })).pending
              j.seq = some p := hp
            rw [setPending_of_ne s _ hseq] at hne
            exact Or.inl hne
      | _ => exact ⟨hj, Or.inl hp⟩
  | lose topic i => cases topic <;> exact ⟨hj, Or.inl hp⟩
  | _ => exact ⟨hj, Or.inl hp⟩

/-- A result that is taken for the one of an ESTOP was so before the step, or has the number that
was stored last. -/
theorem step_hit (hstep : s.step C e = some (t, o)) {m : ResultMsg} {estop : Option CmdJob}
    (hhit : t.ros.hit? = some (m, estop)) :
    s.ros.hit? = some (m, estop) ∨ s.ros = .validSeen m s.asyncSeq ∧ estop = s.asyncEstop := by
  cases step_ros hstep with
  | same h => exact Or.inl (h ▸ hhit)
  | take m' h =>
      rw [h] at hhit
      cases hhit
  | other h =>
      rw [(Ros.of_msg?_none h).2.2] at hhit
      cases hhit
  | ros heffect =>
      cases heffect with
      | hit m' seq hpc heq =>
          obtain ⟨rfl, rfl⟩ := Prod.mk.inj (Option.some.inj hhit)
          exact Or.inr ⟨heq ▸ hpc, rfl⟩
      | look m' seq r hpc hseq hr => rcases hr with ⟨rfl, -⟩ | rfl <;> cases hhit
      | lower m' seq estop' hpc => exact Or.inl (by rw [hpc]; exact hhit)
      | invalidate m' seq estop' hpc => exact Or.inl (by rw [hpc]; exact hhit)
      | other r lastMs console o hpc hr ho =>
          cases (Ros.of_msg?_none hr).2.2.symm.trans hhit
      | _ => cases hhit

/-- What the bridge has matched belongs together. -/
structure Matching (o : List Obs) (s : Sys F) : Prop where
  done : ∀ j ∈ s.worker.registered, ∀ p, s.pending j.seq = some p → p.done = true →
    ResultOf o j p.ackJson
  hit : ∀ m estop, s.ros.hit? = some (m, estop) → estop = some m.job ∧ m.job.urgent = true
  shown : ∀ x ∈ o, x.Matched o

/-- In every run the results match. -/
theorem Runs.matching (hrun : Runs C freshSeq h s) : Matching (Bridge.shown h) s := by
  induction hrun with
  | nil => exact ⟨fun _ hj => absurd hj List.not_mem_nil, nofun,
      fun _ hx => absurd hx List.not_mem_nil⟩
  | @snoc h s t e o hrun hallow hstep ih =>
      -- Two commands in flight have two numbers, so a number names its command.
      have hunique := Runs.inFlight_unique hrun
      have hflying := Runs.flying hrun
      have hasync := Runs.async hrun
      have hold := shown_subset h e o
      refine ⟨fun j hj p hp hdone => ?_, fun m estop hhit => ?_, fun x hx => ?_⟩
      · obtain ⟨hj, hp | ⟨m, hpc, htext⟩⟩ := step_done hstep hj hp hdone
        · exact (ih.done j hj p hp hdone).mono hold
        · -- The result in hand has the number of the job, so it is the one for the job.
          have hread : j.seq = m.job.seq := hflying.read m _ (by rw [hpc]; rfl)
          have hhand : m.job ∈ s.inFlight :=
            mem_inFlight.mpr (by rw [hpc]; simp [Ros.unmatched])
          have hsame := hunique j (mem_inFlight.mpr (Or.inl hj)) m.job hhand hread
          rw [htext, hsame]
          exact (hflying.result m (Or.inr (by rw [hpc]; rfl))).mono hold
      · rcases step_hit hstep hhit with hhit | ⟨hpc, rfl⟩
        · exact ih.hit m estop hhit
        · -- The slot is valid, so it stands for an ESTOP in flight with the number of the result.
          have hvalid := hasync.seen m _ hpc
          obtain ⟨a, ha⟩ := Option.ne_none_iff_exists'.mp (hasync.valid hvalid)
          obtain ⟨hseq, hurgent⟩ := hasync.seq a ha
          have hread : s.asyncSeq = m.job.seq := hflying.read m _ (by rw [hpc]; rfl)
          have hhand : m.job ∈ s.inFlight :=
            mem_inFlight.mpr (by rw [hpc]; simp [Ros.unmatched])
          have hslot : a ∈ s.inFlight :=
            mem_inFlight.mpr (by simp [mem_awaited, ha, hvalid])
          have hsame := hunique a hslot m.job hhand (hseq.symm.trans hread)
          rw [ha, hsame]
          exact ⟨rfl, hsame ▸ hurgent⟩
      · rw [shown_snoc] at hx
        rcases List.mem_append.mp hx with hx | hx
        · exact (ih.shown x hx).mono hold
        · obtain ⟨hanswered, hcompleted⟩ := step_shown hstep hx
          cases x with
          | answered j text =>
              cases hanswered j text rfl with
              | refused reason hpc htext _ _ => exact Or.inl ⟨reason, htext⟩
              | gaveUp reason hpc htext => exact Or.inl ⟨reason, htext⟩
              | taken deadline p hpc hpending hdone htext =>
                  -- The worker answers with what was stored for its job.
                  have hj : j.toCmdJob ∈ s.worker.registered := by
                    rw [hpc]
                    exact List.mem_singleton.mpr rfl
                  exact Or.inr (htext ▸ (ih.done _ hj p hpending hdone).mono hold)
          | completed estop seq text =>
              obtain ⟨m, hpc, rfl⟩ := hcompleted estop seq text rfl
              obtain ⟨rfl, hurgent⟩ := ih.hit m estop (by rw [hpc]; rfl)
              exact ⟨m.job, rfl, hurgent,
                (hflying.result m (Or.inr (by rw [hpc]; rfl))).mono hold⟩
          | _ => trivial

/-! ### The promise and its failure -/

/-- **Results are matched to the right command**, in every run in which the bridge takes no
command in hand while one in flight has its sequence number. -/
theorem results_matched (hrun : Runs C freshSeq h s) :
    ∀ x ∈ Bridge.shown h, x.Matched (Bridge.shown h) :=
  (Runs.matching hrun).shown

/-- Client 0 asks for TELEOP with sequence number 2 and is told that the robot did not answer in
time. Client 1 then asks for a RESET with the same number, and the late result arrives. -/
def lateEvents : List Event :=
  bringUp ++ [Event.accept, .recv 1 (clientFrame msgHello 1 "")] ++
    List.replicate 4 (Event.rx 1 5) ++
    [Event.recv 0 (clientFrame msgCmdMode 2 "\x7b\"mode\":\"TELEOP\"\x7d"), .rx 0 6, .rx 0 6] ++
    List.replicate 7 (Event.worker 7 0) ++ List.replicate 3 (Event.worker 8 2000) ++
    [Event.recv 1 (clientFrame msgCmdReset 2 ""), .rx 1 8, .rx 1 8] ++
    List.replicate 7 (Event.worker 9 2000) ++ [Event.robotCmd 10, .takeResult] ++
    List.replicate 2 (Event.ros 11) ++ List.replicate 3 (Event.worker 12 2000)

/-- The run of these events. -/
def lateRun : List (Event × List Obs) × Sys ℚ :=
  (exec (step Exact.Cost) anyStep init lateEvents).get (by decide +kernel)

/-- The RESET is answered with the result for TELEOP, although the robot has not seen it. -/
theorem result_of_another :
    ∃ (h : List (Event × List Obs)) (s : Sys ℚ), Runs Exact.Cost anyStep h s ∧
      ∃ x ∈ Bridge.shown h, ¬x.Matched (Bridge.shown h) := by
  refine ⟨lateRun.1, lateRun.2, Run.of_exec (Option.some_get _).symm, ?_⟩
  decide +kernel

/-- The same with a number of its own for the RESET. -/
def numberedEvents : List Event :=
  bringUp ++ [Event.accept, .recv 1 (clientFrame msgHello 1 "")] ++
    List.replicate 4 (Event.rx 1 5) ++
    [Event.recv 0 (clientFrame msgCmdMode 2 "\x7b\"mode\":\"TELEOP\"\x7d"), .rx 0 6, .rx 0 6] ++
    List.replicate 7 (Event.worker 7 0) ++ List.replicate 3 (Event.worker 8 2000) ++
    [Event.recv 1 (clientFrame msgCmdReset 3 ""), .rx 1 8, .rx 1 8] ++
    List.replicate 7 (Event.worker 9 2000) ++ [Event.robotCmd 10, .robotCmd 10, .takeResult] ++
    List.replicate 2 (Event.ros 11) ++ [Event.takeResult] ++ List.replicate 2 (Event.ros 11) ++
    List.replicate 3 (Event.worker 12 2000)

/-- The events of the run are possible. -/
theorem exec_numbered :
    (exec (step (F := ℚ) Exact.Cost) freshSeq init numberedEvents).isSome = true := by
  decide +kernel

/-- Every answer of this run belongs to its command. -/
theorem results_matched_numbered :
    Bridge.shown ((exec (step (F := ℚ) Exact.Cost) freshSeq init numberedEvents).get
        exec_numbered).1 ≠ [] ∧
      ∀ x ∈ Bridge.shown ((exec (step (F := ℚ) Exact.Cost) freshSeq init numberedEvents).get
          exec_numbered).1,
        x.Matched (Bridge.shown ((exec (step (F := ℚ) Exact.Cost) freshSeq init
          numberedEvents).get exec_numbered).1) :=
  ⟨by decide +kernel, results_matched (Run.of_exec (Option.some_get exec_numbered).symm)⟩

end Sys

end BotCockpit.Bridge
