import BotCockpit.Proofs.Bridge.Matching

/-!
# `BotCockpit.Proofs.Bridge.Refusal`: what a refusal is worth

A wait that an ESTOP breaks off is answered as a refusal, although the envelope has been
published and the robot may have accepted it (`refused_and_accepted`).

`refusal_honest` is the promise for the runs in which no wait is broken off. A refusal is then
given before the job is published, and the job is not published later either (`Verdict.unsent`),
or it is the robot's own.
-/

set_option autoImplicit false

namespace BotCockpit.Bridge.Sys

open BotCockpit.Lib
open BotCockpit.Sim (Output Node CmdResult)

variable {F : Type} [CDouble F] {C : Type} [CFloat C] {s t : Sys F} {e : Event} {o : List Obs}
  {allow : Sys F → Event → Prop} {h : List (Event × List Obs)}

/-- The job has not been published, and never will be. -/
structure Unsent (o : List Obs) (s : Sys F) (j : CmdJob) : Prop where
  published : j ∉ published o
  waiting : s.waiting j.client (fun i => decide (i = j)) = 0
  received : j.index < (s.clients j.client).received.length

/-- A command that was not sent stays unsent over a step, or is sent by it. -/
theorem Unsent.step (hstep : s.step C e = some (t, o)) {j : CmdJob}
    (hj : Unsent (shown h) s j) : Unsent (shown (h ++ [(e, o)])) t j := by
  have hflow := step_flow hstep
  -- A new frame has a position that is not the one of the job.
  have hno : ¬(0 < t.waiting j.client (fun i => decide (i = j)) ∨ j ∈ Bridge.published o) := by
    intro hnew
    rcases hflow.old_or_new hnew with hold | hnew
    · rw [hj.waiting] at hold
      exact absurd hold (Nat.lt_irrefl 0)
    · exact absurd hj.received (Nat.not_lt.mpr hnew)
  refine ⟨?_, ?_, ?_⟩
  · rw [shown_snoc, published_append, List.mem_append]
    rintro (hold | hnew)
    · exact hj.published hold
    · exact hno (Or.inr hnew)
  · by_contra hpos
    exact hno (Or.inl (Nat.pos_of_ne_zero hpos))
  · exact Nat.lt_of_lt_of_le hj.received (hflow.received j.client).length_le

/-- A job that is refused before it is registered will not be published. -/
theorem Runs.unsent_of_refused (hrun : Runs C allow h s) (hstep : s.step C e = some (t, o))
    {j : QueuedJob} (hpub : Bridge.published o = [])
    (hdrop : ∀ c p, t.waiting c p + (if j.client = c ∧ p j.toCmdJob = true then 1 else 0) =
      s.waiting c p) :
    Unsent (shown (h ++ [(e, o)])) t j.toCmdJob := by
  have hone := hrun.published_le_one j.toCmdJob
  have hwait := hdrop j.client fun i => decide (i = j.toCmdJob)
  simp only [decide_true, and_self, if_true] at hwait
  refine ⟨?_, by omega, ?_⟩
  · rw [shown_snoc, published_append, hpub, List.append_nil]
    intro hmem
    have hpos := List.count_pos_iff.mpr hmem
    omega
  · have hledger := hrun.ledger j.client fun i => decide (i = j.toCmdJob)
    have hsent : 0 < s.commands j.client (fun i => decide (i = j.toCmdJob)) := by omega
    exact Nat.lt_of_lt_of_le (index_lt_of_commands hsent)
      ((step_flow hstep).received j.client).length_le

/-- What an answer is worth. -/
inductive Verdict (o : List Obs) (s : Sys F) (j : QueuedJob) (text : Bytes) : Prop
  | unsent (h : Unsent o s j.toCmdJob)
  | timeout (h : text = refusal .timeout j.cmdName j.seq)
  | result (h : ResultOf o j.toCmdJob text)

/-- No wait is being broken off, and every answer is worth something. -/
structure Honest (o : List Obs) (s : Sys F) : Prop where
  worker : ∀ j, s.worker ≠ .abort j
  answered : ∀ j text, .answered j text ∈ o → Verdict o s j text

/-- A wait is broken off only after the loop has seen the stop. -/
theorem step_abort (hstep : s.step C e = some (t, o)) {j : QueuedJob} (hj : t.worker = .abort j) :
    s.worker = .abort j ∨ s.stopSeen e := by
  rcases step_worker hstep with hsame | ⟨⟨nowMs, steady, rfl⟩, heffect⟩
  · exact Or.inl (hsame ▸ hj)
  cases heffect with
  | early q w hpc hnext =>
      obtain rfl : w = .abort j := hj
      cases hnext
  | wait q w hpc hnext hraised =>
      obtain rfl : w = .abort j := hj
      cases hnext
      obtain ⟨hstop, deadline, hcheck⟩ := hraised rfl
      refine Or.inr ?_
      unfold stopSeen
      rw [hcheck]
      exact hstop
  | _ => cases hj

/-- In every run without a job given up early the refusals are honest. -/
theorem Runs.honest (hrun : Runs C waitsOut h s) : Honest (shown h) s := by
  induction hrun with
  | nil => exact ⟨nofun, fun _ _ hx => absurd hx List.not_mem_nil⟩
  | @snoc h s t e o hrun hallow hstep ih =>
      refine ⟨fun j hj => ?_, fun j text hx => ?_⟩
      · rcases step_abort hstep hj with hj | hseen
        · exact ih.worker j hj
        · exact hallow.2 hseen
      · rw [shown_snoc] at hx
        rcases List.mem_append.mp hx with hx | hx
        · cases ih.answered j text hx with
          | unsent h => exact Verdict.unsent (h.step hstep)
          | timeout h => exact Verdict.timeout h
          | result h => exact Verdict.result (h.mono (shown_subset _ _ _))
        · cases (step_shown hstep hx).1 j text rfl with
          | refused reason hpc htext hpub hdrop =>
              exact Verdict.unsent (Runs.unsent_of_refused hrun hstep hpub hdrop)
          | gaveUp reason hpc htext =>
              -- The worker gives up for the time only; giving up for a stop is excluded.
              rcases hpc with ⟨hpc, -⟩ | ⟨-, rfl⟩
              · exact absurd hpc (ih.worker j)
              · exact Verdict.timeout htext
          | taken deadline p hpc hpending hdone htext =>
              have hmatching := Runs.matching (Run.mono (fun _ _ h => h.1) hrun)
              have hj : j.toCmdJob ∈ s.worker.registered := by
                rw [hpc]
                exact List.mem_singleton.mpr rfl
              exact Verdict.result
                (htext ▸ (hmatching.done _ hj p hpending hdone).mono (shown_subset _ _ _))

/-- **A refusal is honest**, in every run in which no wait is broken off and the numbers in flight
differ: a command that is answered as refused because of an emergency stop is not accepted by the
robot, before or after. -/
theorem refusal_honest (hrun : Runs C waitsOut h s) {j : QueuedJob} {text : Bytes}
    (hanswered : .answered j text ∈ shown h) (hrefused : RefusedForEstop text)
    {results : List CmdResult} (hprocessed : .processed j.toCmdJob results ∈ shown h) :
    ∀ res ∈ results, res.ok = false := by
  have hpublished : j.toCmdJob ∈ published (shown h) :=
    hrun.fifo.subset (List.mem_append_left _ (List.mem_filterMap.mpr ⟨_, hprocessed, rfl⟩))
  cases (Runs.honest hrun).answered j text hanswered with
  | unsent hunsent => exact absurd hpublished hunsent.published
  | timeout htext =>
      have hreason := hrefused.2
      rw [htext, CmdJob.cmdName, getString_refusal .timeout j.command.forwarded] at hreason
      exact absurd (Prod.mk.inj hreason).2 (by decide)
  | result hresult =>
      -- The robot has answered once, with the result that the reader has.
      obtain ⟨results', hprocessed', res', hmem, -, rfl⟩ := hresult
      obtain rfl := hrun.processed_once hprocessed hprocessed'
      obtain ⟨res, rfl, -⟩ := hrun.processed_one hprocessed
      obtain rfl := List.mem_singleton.mp hmem
      intro res hres
      obtain rfl := List.mem_singleton.mp hres
      have hok := hrefused.1
      rw [getBool_text, Option.some.injEq] at hok
      exact hok

/-- The third frame of client 0, a request for a mode. -/
def modeJob (payload : String) : QueuedJob :=
  let frame : Wire.Frame := { type := msgCmdMode, flags := 0, seq := 3, payload := ascii payload }
  { client := 0
    command := { index := 2, frame := frame, forwarded := show msgCmdMode ∈ _ by decide }
    notUrgent := rfl }

/-- The robot is stopped, but the bridge has not seen its state yet, so a request for AUTO gets
through to the robot, which refuses it. -/
def refusedEvents : List Event :=
  bringUp ++ [Event.recv 0 (clientFrame msgCmdEstop 2 "")] ++ List.replicate 6 (Event.rx 0 6) ++
    [Event.robotCmd 7, .takeResult] ++ List.replicate 7 (Event.ros 8) ++
    [Event.recv 0 (clientFrame msgCmdMode 3 "\x7b\"mode\":\"AUTO\"\x7d"), .rx 0 9, .rx 0 9] ++
    List.replicate 7 (Event.worker 9 0) ++ [Event.robotCmd 10, .takeResult, .ros 11, .ros 11] ++
    List.replicate 4 (Event.worker 12 0)

/-- The run of these events. -/
def refusedRun : List (Event × List Obs) × Sys ℚ :=
  (exec (step Exact.Cost) waitsOut init refusedEvents).get (by decide +kernel)

/-- The refusal of AUTO in this run is the robot's own. -/
theorem refusal_honest_auto :
    RefusedForEstop (CmdResult.rejected 3 (ascii "CMD_MODE") .estopActive).text ∧
      ∀ res ∈ [CmdResult.rejected 3 (ascii "CMD_MODE") .estopActive], res.ok = false := by
  have hanswered : Obs.answered (modeJob "\x7b\"mode\":\"AUTO\"\x7d")
      (CmdResult.rejected 3 (ascii "CMD_MODE") .estopActive).text ∈
        shown refusedRun.1 := by
    decide +kernel
  have hrefused : RefusedForEstop (CmdResult.rejected 3 (ascii "CMD_MODE") .estopActive).text := by
    decide +kernel
  exact ⟨hrefused, refusal_honest (s := refusedRun.2) (Run.of_exec (Option.some_get _).symm)
    hanswered hrefused (by decide +kernel)⟩

/-- The worker has published a request for TELEOP and waits when an ESTOP is raised. The robot
takes the request first. -/
def brokenOffEvents : List Event :=
  bringUp ++ [Event.recv 0 (clientFrame msgHeartbeat 2 ""), .rx 0 6, .rx 0 6] ++
    [Event.recv 0 (clientFrame msgCmdMode 3 "\x7b\"mode\":\"TELEOP\"\x7d"), .rx 0 7, .rx 0 7] ++
    List.replicate 7 (Event.worker 8 0) ++ [Event.recv 0 (clientFrame msgCmdEstop 4 "")] ++
    List.replicate 6 (Event.rx 0 9) ++ List.replicate 3 (Event.worker 10 0) ++ [Event.robotCmd 11]

/-- The run of these events. -/
def brokenOffRun : List (Event × List Obs) × Sys ℚ :=
  (exec (step Exact.Cost) anyStep init brokenOffEvents).get (by decide +kernel)

/-- TELEOP is answered as refused because of an emergency stop, and the robot has accepted it. -/
theorem refused_and_accepted :
    ∃ (h : List (Event × List Obs)) (s : Sys ℚ), Runs Exact.Cost anyStep h s ∧
      ∃ j text results, .answered j text ∈ shown h ∧ RefusedForEstop text ∧
        .processed j.toCmdJob results ∈ shown h ∧ ¬∀ res ∈ results, res.ok = false := by
  refine ⟨brokenOffRun.1, brokenOffRun.2, Run.of_exec (Option.some_get _).symm,
    modeJob "\x7b\"mode\":\"TELEOP\"\x7d", refusal .estopActive (ascii "CMD_MODE") 3,
    [.accepted 3 (ascii "CMD_MODE")], ?_, ?_, ?_, ?_⟩
  all_goals decide +kernel

end BotCockpit.Bridge.Sys
