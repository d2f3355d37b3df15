import BotCockpit.Proofs.Bridge.Confirmation

/-!
# `BotCockpit.Proofs.Bridge.Handshake`: commands that came before the HELLO

The worker tests `hello_ok` when it takes a job from the queue, and not when the frame comes. A
HELLO that is accepted in between lets the command through (`command_before_hello`).

`no_command_before_hello` is the promise for the runs in which no HELLO is accepted while an
earlier command of its client waits. Its invariant is that the client of a job that was queued
early, and waits to be tested, has not been greeted (`Runs.early`).
-/

set_option autoImplicit false

namespace BotCockpit.Bridge

open BotCockpit.Lib

/-- The job that the worker tests next. -/
def Worker.testing? : Worker → Option QueuedJob
  | .greeted j => some j
  | _ => none

/-- The worker tests a job only behind the test of the greeting. -/
theorem Worker.eq_greeted {w : Worker} {j : QueuedJob} (h : w.testing? = some j) :
    w = .greeted j := by
  cases w with
  | greeted i => rw [Option.some.inj h]
  | _ => cases h

namespace Sys

variable {F : Type} [CDouble F] {C : Type} [CFloat C] {s t : Sys F} {e : Event} {o : List Obs}
  {allow : Sys F → Event → Prop} {h : List (Event × List Obs)} {c : Nat}

/-- The jobs that wait for the test. -/
def untested (s : Sys F) : List QueuedJob := s.queue ++ s.worker.untested

/-- The worker takes its jobs from the queue. -/
theorem workerStep_untested {nowMs : UInt64} {steady : Nat}
    (hstep : s.workerStep nowMs steady = some (t, o)) {j : QueuedJob} (hj : j ∈ t.untested) :
    j ∈ s.untested := by
  rcases List.mem_append.mp hj with hj | hj
  · -- The queue only gets shorter.
    cases workerStep_effect hstep with
    | pop i queue hpc hqueue =>
        refine List.mem_append_left _ ?_
        rw [hqueue]
        exact List.mem_cons_of_mem i hj
    | publish i hpc =>
        refine List.mem_append_left _ ?_
        rwa [(publishCmd_rest i.toCmdJob s).2.1] at hj
    | _ => exact List.mem_append_left _ hj
  · unfold workerStep at hstep
    cases hpc : s.worker with
    | idle =>
        cases hqueue : s.queue with
        | nil => simp [hpc, hqueue] at hstep
        | cons i queue =>
            simp only [hpc, hqueue, Option.some.injEq, Prod.mk.injEq] at hstep
            obtain ⟨rfl, rfl⟩ := hstep
            refine List.mem_append_left _ ?_
            rw [hqueue, List.mem_singleton.mp hj]
            exact List.mem_cons_self ..
    | popped i =>
        simp only [hpc, Option.some.injEq] at hstep
        refine List.mem_append_right _ ?_
        rw [hpc]
        split at hstep <;> (simp only [goto, Prod.mk.injEq] at hstep; obtain ⟨rfl, rfl⟩ := hstep)
        · exact hj
        · exact absurd hj List.not_mem_nil
    | greeted i =>
        simp only [hpc, Option.some.injEq] at hstep
        split at hstep
        all_goals
          simp only [goto, Prod.mk.injEq] at hstep
          obtain ⟨rfl, rfl⟩ := hstep
          exact absurd hj List.not_mem_nil
    | fresh i | loop i deadline | checkRaised i deadline =>
        -- The next place depends on a test, and is none of the two.
        simp only [hpc, Option.some.injEq] at hstep
        have hworker : t.worker.untested = [] := by
          rw [← show _ = t from congrArg Prod.fst hstep]
          simp only [goto, answer]
          split <;> first | rfl | (split <;> rfl)
        rw [hworker] at hj
        exact absurd hj List.not_mem_nil
    | gate i | checkDone i deadline =>
        simp only [hpc, Option.some.injEq] at hstep
        have hworker : t.worker.untested = [] := by
          rw [← show _ = t from congrArg Prod.fst hstep]
          split <;> first | rfl | (split <;> rfl)
        rw [hworker] at hj
        exact absurd hj List.not_mem_nil
    | _ =>
        simp only [hpc, goto, answer, Option.some.injEq, Prod.mk.injEq] at hstep
        obtain ⟨rfl, -⟩ := hstep
        exact absurd hj List.not_mem_nil

/-- A job that waits for the test did so before, or is put in the queue in this step. -/
theorem step_untested (hstep : s.step C e = some (t, o)) {j : QueuedJob} (hj : j ∈ t.untested) :
    j ∈ s.untested ∨ queuesJob j.toCmdJob (s, e) := by
  have hsame : t.queue = s.queue → t.worker = s.worker → j ∈ s.untested := by
    intro hqueue hworker
    rwa [untested, hqueue, hworker] at hj
  cases step_effect hstep with
  | rx d nowMs op rest t o htodo heffect =>
      cases heffect with
      | plain op helloOk todo o _ _ _ => exact Or.inl (hsame rfl rfl)
      | enqueue k h =>
          have hcases : j ∈ s.untested ∨ j = { client := d, command := k, notUrgent := h } := by
            have hmem : j ∈ (s.queue ++ [{ client := d, command := k, notUrgent := h }]) ++
                s.worker.untested := hj
            simp only [List.mem_append, List.mem_singleton] at hmem
            simp only [untested, List.mem_append]
            tauto
          refine hcases.imp_right ?_
          rintro rfl
          simp [queuesJob, htodo]
      | urgent u k =>
          cases u with
          | publish =>
              obtain ⟨-, hqueue, hworker⟩ := publishCmd_rest ⟨d, k⟩
                (s.setClient d { s.clients d with todo := rest })
              exact Or.inl (hsame hqueue hworker)
          | _ => exact Or.inl (hsame rfl rfl)
  | worker nowMs steady t o heffect =>
      exact Or.inl (workerStep_untested hstep hj)
  | ros nowMs t o heffect => cases heffect <;> exact Or.inl (hsame rfl rfl)
  | lose topic i => cases topic <;> exact Or.inl (hsame rfl rfl)
  | _ => exact Or.inl (hsame rfl rfl)

/-- Only the receive thread of a client accepts its HELLO. -/
theorem step_greets (hstep : s.step C e = some (t, o)) (hhello : (t.clients c).helloOk = true) :
    (s.clients c).helloOk = true ∨
      ∃ nowMs rest, e = .rx c nowMs ∧ (s.clients c).todo = .setHelloOk :: rest := by
  -- A client that is written back with the same flag.
  have hset : ∀ (d : Nat) (cl : Client), cl.helloOk = (s.clients d).helloOk →
      ((s.setClient d cl).clients c).helloOk = true → (s.clients c).helloOk = true := by
    intro d cl hcl h
    by_cases hd : c = d
    · subst hd
      rwa [setClient_self, hcl] at h
    · rwa [setClient_of_ne s cl hd] at h
  cases step_effect hstep with
  | accept =>
      exact Or.inl (hset s.accepted { s.clients s.accepted with fdOpen := true } rfl hhello)
  | recv d chunk _ _ => exact Or.inl (hset d ((s.clients d).receive chunk) rfl hhello)
  | gone e d _ => exact Or.inl (hset d { s.clients d with fdOpen := false } rfl hhello)
  | rx d nowMs op rest t o htodo _ =>
      have hrx : s.rxOp d nowMs rest op = (t, o) := by
        simpa only [step, htodo, Option.some.injEq] using hstep
      obtain rfl : (s.rxOp d nowMs rest op).1 = t := by rw [hrx]
      cases op with
      | setHelloOk =>
          -- The one place where the flag is set.
          by_cases hd : c = d
          · subst hd
            exact Or.inr ⟨nowMs, rest, rfl, htodo⟩
          · refine Or.inl ?_
            rwa [show (s.rxOp d nowMs rest .setHelloOk).1.clients c = s.clients c from
              setClient_of_ne s _ hd] at hhello
      | enqueue k h => exact Or.inl (hset d { s.clients d with todo := rest } rfl hhello)
      | urgent u k =>
          refine Or.inl (hset d { s.clients d with todo := rest } rfl ?_)
          cases u with
          | publish =>
              have hclients := (publishCmd_rest ⟨d, k⟩
                (s.setClient d { s.clients d with todo := rest })).1
              rw [← hclients]
              exact hhello
          | _ => exact hhello
      | checkFd =>
          exact Or.inl (hset d
            { s.clients d with todo := if (s.clients d).fdOpen then rest else [] } rfl hhello)
      | _ => exact Or.inl (hset d { s.clients d with todo := rest } rfl hhello)
  | worker nowMs steady t o heffect =>
      refine Or.inl ?_
      cases heffect with
      | publish j hpc =>
          rw [← (publishCmd_rest j.toCmdJob s).1]
          exact hhello
      | _ => exact hhello
  | ros nowMs t o heffect => cases heffect <;> exact Or.inl hhello
  | lose topic i => cases topic <;> exact Or.inl hhello
  | _ => exact Or.inl hhello

/-- While a job waits that was queued early, its client has not been greeted. -/
theorem Runs.early (hrun : Runs C helloFirst h s) {j : QueuedJob} (hj : j ∈ s.untested)
    (hearly : QueuedEarly C F h j.toCmdJob) : (s.clients j.client).helloOk = false := by
  induction hrun with
  | nil => exact absurd hj List.not_mem_nil
  | @snoc h s t e o hrun hallow hstep ih =>
      rw [QueuedEarly, show trace (step C) (init : Sys F) (h ++ [(e, o)]) = _ from
        hrun.trace_snoc e o, since_snoc] at hearly
      rw [← Bool.not_eq_true]
      intro hhello
      have hgreets := step_greets hstep hhello
      rcases hearly with ⟨hqueues, hno⟩ | ⟨hearly, hqueues⟩
      · -- The job is put in the queue now, and no HELLO is accepted.
        rcases hgreets with hyes | ⟨nowMs, rest, rfl, htodo⟩
        · exact absurd (hno.symm.trans hyes) Bool.false_ne_true
        · simp [queuesJob, htodo] at hqueues
      · have hold := (step_untested hstep hj).resolve_right hqueues
        have hno := ih hold hearly
        rcases hgreets with hyes | ⟨nowMs, rest, rfl, htodo⟩
        · exact absurd (hno.symm.trans hyes) Bool.false_ne_true
        · simp only [helloFirst, htodo] at hallow
          rcases hallow with hyes | hnone
          · exact absurd (hno.symm.trans hyes) Bool.false_ne_true
          · exact hnone j hold rfl

/-- **No command before the HELLO**: a command that was queued before the HELLO of its client was
accepted is answered with `proto_error`, in every run in which no HELLO is accepted while an
earlier command of its client waits. -/
theorem no_command_before_hello (hrun : Runs C helloFirst h s) {j : QueuedJob}
    (hpc : s.worker = .greeted j) (hearly : QueuedEarly C F h j.toCmdJob) {nowMs : UInt64}
    {steady : Nat} (hstep : s.step C (.worker nowMs steady) = some (t, o)) :
    t.worker = .ack j (refusal .protoError j.cmdName j.seq) := by
  have hmem : j ∈ s.untested := by
    rw [untested, hpc]
    exact List.mem_append_right _ (List.mem_singleton_self j)
  have hno := Runs.early hrun hmem hearly
  have hworker : s.workerStep nowMs steady = some (t, o) := hstep
  simp only [workerStep, hpc, hno, Bool.false_eq_true, if_false, goto, Option.some.injEq,
    Prod.mk.injEq] at hworker
  rw [← hworker.1]

/-! ### A HELLO that comes late -/

/-- A RESET comes first, and the HELLO before the worker has looked at the RESET. -/
def lateHello : List Event :=
  [Event.accept, .recv 0 (clientFrame msgCmdReset 1 ""), .rx 0 1, .rx 0 1,
    .recv 0 (clientFrame msgHello 2 "")] ++ List.replicate 4 (Event.rx 0 2) ++
    List.replicate 2 (Event.worker 3 0)

def lateHelloRun : List (Event × List Obs) × Sys ℚ :=
  (exec (step Exact.Cost) anyStep init lateHello).get (by decide +kernel)

def lateJob : QueuedJob := lateHelloRun.2.worker.testing?.get (by decide +kernel)

/-- A command that was queued before the HELLO is passed to `handle_command`. -/
theorem command_before_hello :
    ∃ (h : List (Event × List Obs)) (s t : Sys ℚ) (j : QueuedJob) (o : List Obs),
      Runs Exact.Cost anyStep h s ∧ s.worker = .greeted j ∧
        QueuedEarly Exact.Cost ℚ h j.toCmdJob ∧
          s.step Exact.Cost (.worker 3 0) = some (t, o) ∧ t.worker = .fresh j := by
  have hpc : lateHelloRun.2.worker = .greeted lateJob :=
    Worker.eq_greeted (Option.some_get _).symm
  have hhello : (lateHelloRun.2.clients lateJob.client).helloOk = true := by decide +kernel
  refine ⟨lateHelloRun.1, lateHelloRun.2, { lateHelloRun.2 with worker := .fresh lateJob }, lateJob,
    [], Run.of_exec (Option.some_get _).symm, hpc, by decide +kernel, ?_, rfl⟩
  simp only [step, workerStep, hpc, hhello, if_true, goto]

/-- The RESET alone, up to its test. -/
def earlyEvents : List Event :=
  [Event.accept, .recv 0 (clientFrame msgCmdReset 1 ""), .rx 0 1, .rx 0 1] ++
    List.replicate 2 (Event.worker 3 0)

def earlyRun : List (Event × List Obs) × Sys ℚ :=
  (exec (step Exact.Cost) helloFirst init earlyEvents).get (by decide +kernel)

def earlyJob : QueuedJob := earlyRun.2.worker.testing?.get (by decide +kernel)

def earlyStep : Sys ℚ × List Obs :=
  (step Exact.Cost earlyRun.2 (.worker 3 0)).get (by decide +kernel)

/-- A command before the greeting, and its refusal. -/
theorem no_command_before_hello_early :
    earlyStep.1.worker = .ack earlyJob (refusal .protoError earlyJob.cmdName earlyJob.seq) := by
  have hstep : earlyRun.2.step Exact.Cost (.worker 3 0) = some earlyStep :=
    (Option.some_get _).symm
  exact no_command_before_hello (Run.of_exec (Option.some_get _).symm)
    (Worker.eq_greeted (Option.some_get _).symm) (by decide +kernel) hstep

end Sys

end BotCockpit.Bridge
