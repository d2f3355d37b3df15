import BotCockpit.Proofs.Bridge.Refusal

/-!
# `BotCockpit.Proofs.Bridge.EstopGate`: motion commands during an ESTOP

`handle_command` keeps motion commands back by a look at the last robot state. That state may be
older than the ESTOP, and an ESTOP may be published between the look and the publication. So a
motion command may be published while an ESTOP stands (`motion_in_estop`).

`no_motion_in_estop` is the promise under the condition that the gate holds. It rests on one
invariant: while an ESTOP stands, the worker has let no motion command through
(`Runs.letThrough_still`). `step_letThrough` is its step lemma, and `motion_slips` says that the
condition leaves nothing out: where it fails, two steps of the worker publish a motion command.
-/

set_option autoImplicit false

namespace BotCockpit.Bridge.Sys

open BotCockpit.Lib
open BotCockpit.Sim (Output Node)

variable {F : Type} [CDouble F] {C : Type} [CFloat C] {s t : Sys F} {e : Event} {o : List Obs}
  {allow : Sys F → Event → Prop} {h : List (Event × List Obs)}

/-! ### Letting a job through -/

/-- The worker lets a job through when the robot state is fresh and the job does not come to the
gate, or when the state at the gate shows no stop. -/
theorem step_letThrough (hstep : s.step C e = some (t, o)) {j : CmdJob}
    (hj : j ∈ t.worker.letThrough) :
    j ∈ s.worker.letThrough ∨
      ∃ nowMs steady, e = .worker nowMs steady ∧ published o = [] ∧
        ∃ q : QueuedJob, j = q.toCmdJob ∧
          (s.worker = .fresh q ∧ s.robotStateFresh nowMs = true ∧ needsGate q = false ∨
            s.worker = .gate q ∧ getBool s.robotStateJson "estop" ≠ some true) := by
  rcases step_worker hstep with hsame | ⟨⟨nowMs, steady, rfl⟩, heffect⟩
  · exact Or.inl (hsame ▸ hj)
  have hworker : s.workerStep nowMs steady = some (t, o) := hstep
  cases heffect with
  | early q w hpc hnext =>
      have hw : j ∈ w.letThrough := hj
      cases hnext with
      | register =>
          obtain rfl : j = q.toCmdJob := List.mem_singleton.mp hw
          -- The two places from which a job goes on to be registered.
          generalize hs : s.worker = v at hpc hworker
          cases hpc with
          | popped =>
              simp only [workerStep, hs, Option.some.injEq] at hworker
              split at hworker <;> cases congrArg (fun x => x.1.worker) hworker
          | greeted =>
              simp only [workerStep, hs, Option.some.injEq] at hworker
              split at hworker <;> cases congrArg (fun x => x.1.worker) hworker
          | fresh =>
              simp only [workerStep, hs, Option.some.injEq] at hworker
              split at hworker
              · rename_i hfresh
                have hgoto := congrArg (fun x => x.1.worker) hworker
                simp only [goto] at hgoto
                split at hgoto
                · cases hgoto
                · rename_i hgate
                  refine Or.inr ⟨nowMs, steady, rfl, rfl, q, rfl, Or.inl ⟨rfl, hfresh, ?_⟩⟩
                  simpa using hgate
              · cases congrArg (fun x => x.1.worker) hworker
          | gate =>
              simp only [workerStep, hs, Option.some.injEq] at hworker
              split at hworker
              · cases congrArg (fun x => x.1.worker) hworker
              · rename_i hstop
                refine Or.inr ⟨nowMs, steady, rfl, rfl, q, rfl, Or.inr ⟨rfl, fun hread => ?_⟩⟩
                rw [hread] at hstop
                exact hstop rfl
          | register =>
              refine Or.inl ?_
              exact List.mem_singleton_self _
      | _ => cases hw
  | register q hpc =>
      obtain rfl : j = q.toCmdJob := List.mem_singleton.mp hj
      refine Or.inl ?_
      rw [hpc]
      exact List.mem_singleton_self _
  | wait q w hpc hnext hraised =>
      have hw : j ∈ w.letThrough := hj
      cases hnext <;> cases hw
  | _ => cases hj

/-! ### The run -/

/-- A stop stands after one more event: it is new, or it stood and nothing reset it. -/
theorem estopStands_snoc : EstopStands (h ++ [(e, o)]) ↔
    (∃ j ∈ published o, j.urgent = true) ∨
      EstopStands h ∧ ∀ j ∈ published o, j.reset = false :=
  since_snoc

/-- While an ESTOP stands, the worker has let no motion command through. -/
theorem Runs.letThrough_still (hrun : Runs C anyStep h s) (hgate : GatesHold C F h)
    (hstands : EstopStands h) : ∀ j ∈ s.worker.letThrough, j.motion = false := by
  induction hrun with
  | nil =>
      obtain ⟨x, hx, -⟩ := hstands.exists_mem
      exact absurd hx List.not_mem_nil
  | @snoc h s t e o hrun _ hstep ih =>
      have hhere : s.GateHolds h e := hgate h (e, o) s (List.prefix_refl _) hrun
      have hbefore : GatesHold C F h :=
        fun pre x u hpre => hgate pre x u (hpre.trans (List.prefix_append _ _))
      intro j hj
      rcases estopStands_snoc.mp hstands with ⟨k, hk, hurgent⟩ | ⟨hold, -⟩
      · -- The ESTOP is published now, and the worker does not move.
        rcases step_published hstep with hnone | ⟨c, nowMs, k', rest, rfl, htodo, -, -⟩ |
          ⟨q, -, hone⟩
        · rw [hnone] at hk
          cases hk
        · simp only [GateHolds, htodo] at hhere
          rcases step_worker hstep with hsame | ⟨⟨_, _, he⟩, -⟩
          · exact hhere j (hsame ▸ hj)
          · cases he
        · rw [hone] at hk
          obtain rfl := List.mem_singleton.mp hk
          rw [show q.toCmdJob.urgent = false from q.notUrgent] at hurgent
          cases hurgent
      · -- The stop was published before: the job was let through before, or passes a gate now.
        rcases step_letThrough hstep hj with hj | ⟨nowMs, steady, rfl, -, q, rfl, hpc⟩
        · exact ih hbefore hold j hj
        · rw [← Bool.not_eq_true]
          intro hmotion
          rcases hpc with ⟨hpc, hfresh, hno⟩ | ⟨hpc, hno⟩
          · simp only [GateHolds, hpc] at hhere
            rw [hhere hold hfresh hmotion] at hno
            cases hno
          · simp only [GateHolds, hpc] at hhere
            exact hno (hhere hold hmotion)

/-- An ESTOP is no motion command. -/
theorem motion_of_urgent {j : CmdJob} (h : j.urgent = true) : j.motion = false := by
  have htype : j.command.frame.type = msgCmdEstop := by
    simpa [CmdJob.urgent, Command.urgent] using h
  have hname : j.cmdName = ascii "CMD_ESTOP" := by
    unfold CmdJob.cmdName
    rw [htype]
    rfl
  have hne : ascii "CMD_ESTOP" ≠ ascii "CMD_TASK" ∧ ascii "CMD_ESTOP" ≠ ascii "CMD_MODE" := by
    decide
  simp [CmdJob.motion, hname, hne.1, hne.2]

/-- **No motion command is published during an ESTOP**, in every run in which the gate holds:
after an ESTOP was published and until a RESET is, no task and no request for AUTO is. -/
theorem no_motion_in_estop (hrun : Runs C anyStep h s) (hgate : GatesHold C F h)
    {pre : List (Event × List Obs)} {x : Event × List Obs} (hpre : pre ++ [x] <+: h)
    (hstands : EstopStands pre) : ∀ j ∈ published x.2, j.motion = false := by
  obtain ⟨u, hu⟩ := hrun.of_prefix hpre
  obtain ⟨r, hr, -, hstep⟩ := Run.snoc_inv (e := x.1) (o := x.2) hu
  have hbefore : GatesHold C F pre :=
    fun pre' y u h => hgate pre' y u (h.trans ((List.prefix_append _ _).trans hpre))
  intro j hj
  rcases step_published hstep with hnone | ⟨c, nowMs, k, rest, -, htodo, -, hone⟩ |
    ⟨q, hpc, hone⟩
  · rw [hnone] at hj
    cases hj
  · rw [hone] at hj
    obtain rfl := List.mem_singleton.mp hj
    exact motion_of_urgent (Runs.urgent hr htodo)
  · rw [hone] at hj
    obtain rfl := List.mem_singleton.mp hj
    refine Runs.letThrough_still hr hbefore hstands _ ?_
    rw [hpc]
    exact List.mem_singleton_self _

/-! ### The condition leaves nothing out -/

/-- A motion command that was let through is published by the worker alone. -/
theorem publishes_letThrough {q : QueuedJob}
    (hpc : s.worker = .register q ∨ s.worker = .publish q) :
    ∃ (mid : List (Event × List Obs)) (u v : Sys F), Run (step C) anyStep s mid u ∧
      published (shown mid) = [] ∧
      u.step C (.worker 0 0) = some (v, [.published q.toCmdJob]) := by
  rcases hpc with hpc | hpc
  · refine ⟨[(.worker 0 0, [])], { s.setPending q.seq (some {}) with worker := .publish q },
      { publishCmd q.toCmdJob { s.setPending q.seq (some {}) with worker := .publish q } with
        worker := .enter q }, ?_, rfl, rfl⟩
    refine Run.snoc (h := []) Run.nil trivial ?_
    simp [step, workerStep, hpc, goto]
  · refine ⟨[], s, { s.publishCmd q.toCmdJob with worker := .enter q }, Run.nil, rfl, ?_⟩
    simp [step, workerStep, hpc]

/-- Without publications an ESTOP stands as before. -/
theorem estopStands_append {mid : List (Event × List Obs)} (hstands : EstopStands h)
    (hmid : published (shown mid) = []) : EstopStands (h ++ mid) := by
  obtain ⟨pre, x, post, rfl, hx, hpost⟩ := hstands
  refine ⟨pre, x, post ++ mid, by simp, hx, fun y hy => ?_⟩
  rcases List.mem_append.mp hy with hy | hy
  · exact hpost y hy
  · intro j hj
    have hmem : j ∈ published (shown mid) := by
      obtain ⟨z, hz, hjz⟩ := List.mem_filterMap.mp hj
      exact List.mem_filterMap.mpr ⟨z, List.mem_flatMap.mpr ⟨y, hy, hz⟩, hjz⟩
    rw [hmid] at hmem
    cases hmem

/-- Where the gate does not hold, the worker goes on to publish a motion command while an ESTOP
stands. -/
theorem motion_slips (hrun : Runs C anyStep h s) (hstep : s.step C e = some (t, o))
    (hno : ¬s.GateHolds h e) :
    ∃ (mid : List (Event × List Obs)) (u v : Sys F) (j : CmdJob),
      Runs C anyStep (h ++ (e, o) :: mid) u ∧ EstopStands (h ++ (e, o) :: mid) ∧
      u.step C (.worker 0 0) = some (v, [.published j]) ∧ j.motion = true := by
  -- It is enough that the step leaves an ESTOP standing and a motion command let through.
  have hgo : ∀ q : QueuedJob, q.motion = true →
      (t.worker = .register q ∨ t.worker = .publish q) → EstopStands (h ++ [(e, o)]) →
      ∃ (mid : List (Event × List Obs)) (u v : Sys F) (j : CmdJob),
        Runs C anyStep (h ++ (e, o) :: mid) u ∧ EstopStands (h ++ (e, o) :: mid) ∧
        u.step C (.worker 0 0) = some (v, [.published j]) ∧ j.motion = true := by
    intro q hmotion hpc hstands
    obtain ⟨mid, u, v, hmid, hquiet, hpub⟩ := publishes_letThrough (C := C) hpc
    have hassoc : h ++ (e, o) :: mid = (h ++ [(e, o)]) ++ mid := by simp
    refine ⟨mid, u, v, q.toCmdJob, ?_, ?_, hpub, hmotion⟩
    · rw [hassoc]
      exact Run.trans (Run.snoc hrun trivial hstep) hmid
    · rw [hassoc]
      exact estopStands_append hstands hquiet
  unfold GateHolds at hno
  split at hno
  · -- The worker lets the job through: at the test of the age, or at the gate.
    rename_i nowMs steady
    have hworker : s.workerStep nowMs steady = some (t, o) := hstep
    split at hno
    · rename_i q hpc
      simp only [Classical.not_imp, Bool.not_eq_true] at hno
      obtain ⟨hstands, hfresh, hmotion, hgate⟩ := hno
      simp only [workerStep, hpc, hfresh, if_true, hgate, goto, Option.some.injEq,
        Prod.mk.injEq] at hworker
      obtain ⟨rfl, rfl⟩ := hworker
      exact hgo q hmotion (Or.inl rfl)
        (hstands.extend fun j hj => absurd hj List.not_mem_nil)
    · rename_i q hpc
      simp only [Classical.not_imp] at hno
      obtain ⟨hstands, hmotion, hread⟩ := hno
      -- The gate is open as soon as the state does not say that the robot is stopped.
      have hpass : ¬(getBool s.robotStateJson "estop").getD false = true := by
        cases hb : getBool s.robotStateJson "estop" with
        | none => simp
        | some b =>
            cases b with
            | true => exact absurd hb hread
            | false => simp
      simp only [workerStep, hpc, if_neg hpass, goto, Option.some.injEq, Prod.mk.injEq] at hworker
      obtain ⟨rfl, rfl⟩ := hworker
      exact hgo q hmotion (Or.inl rfl)
        (hstands.extend fun j hj => absurd hj List.not_mem_nil)
    · exact absurd trivial hno
  · rename_i c nowMs
    split at hno
    · -- A stop is published while the worker has let a motion command through.
      rename_i k rest htodo
      simp only [not_forall, Bool.not_eq_false] at hno
      obtain ⟨j, hj, hmotion⟩ := hno
      have hstands : EstopStands (h ++ [(Event.rx c nowMs, o)]) := by
        refine Since.start h ⟨⟨c, k⟩, ?_, Runs.urgent hrun htodo⟩
        simp only [step, htodo, rxOp, urgentStep, Option.some.injEq, Prod.mk.injEq] at hstep
        rw [← hstep.2]
        exact List.mem_singleton_self _
      have hworker : t.worker = s.worker := by
        rcases step_worker hstep with hsame | ⟨⟨_, _, he⟩, -⟩
        · exact hsame
        · cases he
      rw [← hworker] at hj
      cases hpc : t.worker with
      | register q =>
          rw [hpc] at hj
          obtain rfl := List.mem_singleton.mp hj
          exact hgo q hmotion (Or.inl hpc) hstands
      | publish q =>
          rw [hpc] at hj
          obtain rfl := List.mem_singleton.mp hj
          exact hgo q hmotion (Or.inr hpc) hstands
      | _ =>
          rw [hpc] at hj
          cases hj
    · exact absurd trivial hno
  · exact absurd trivial hno

/-! ### A gate that fails, and one that holds -/

/-- The ESTOP is published, and a task arrives before the bridge has a new robot state. -/
def slippedEvents : List Event :=
  bringUp ++ [Event.recv 0 (clientFrame msgCmdEstop 2 "")] ++ List.replicate 6 (Event.rx 0 6) ++
    [Event.recv 0 (clientFrame msgCmdTask 3 "\x7b\"type\":\"goto\",\"x\":3\x7d")] ++
    List.replicate 2 (Event.rx 0 7) ++
    List.replicate 6 (Event.worker 8 0)

/-- The run of these events. -/
def slippedRun : List (Event × List Obs) × Sys ℚ :=
  (exec (step Exact.Cost) anyStep init slippedEvents).get (by decide +kernel)

/-- The next step of the worker. -/
def slippedStep : Sys ℚ × List Obs :=
  (step Exact.Cost slippedRun.2 (.worker 9 0)).get (by decide +kernel)

/-- A task is published while an ESTOP stands. -/
theorem motion_in_estop :
    ∃ (h : List (Event × List Obs)) (x : Event × List Obs) (s : Sys ℚ),
      Runs Exact.Cost anyStep (h ++ [x]) s ∧ EstopStands h ∧
        ∃ j ∈ published x.2, j.motion = true := by
  refine ⟨slippedRun.1, (.worker 9 0, slippedStep.2), slippedStep.1, ?_, ?_⟩
  · exact Run.snoc (Run.of_exec (Option.some_get _).symm) trivial (Option.some_get _).symm
  · decide +kernel

/-- The bridge has the state of the stopped robot when a task and a request for TELEOP arrive. -/
def gatedEvents : List Event :=
  bringUp ++ [Event.recv 0 (clientFrame msgCmdEstop 2 "")] ++ List.replicate 6 (Event.rx 0 6) ++
    [Event.robotCmd 7, .takeState, .ros 8] ++
    [Event.recv 0 (clientFrame msgCmdTask 3 "\x7b\"type\":\"goto\",\"x\":3\x7d")] ++
    List.replicate 2 (Event.rx 0 9) ++
    List.replicate 6 (Event.worker 10 0) ++
    [Event.recv 0 (clientFrame msgCmdMode 4 "\x7b\"mode\":\"TELEOP\"\x7d"), .rx 0 11, .rx 0 11] ++
    List.replicate 5 (Event.worker 12 0)

/-- The run of these events. -/
def gatedRun : List (Event × List Obs) × Sys ℚ :=
  (exec (step Exact.Cost) anyStep init gatedEvents).get (by decide +kernel)

/-- The next step of the worker, which publishes the request for TELEOP. -/
def gatedStep : Sys ℚ × List Obs :=
  (step Exact.Cost gatedRun.2 (.worker 12 0)).get (by decide +kernel)

/-- The task is kept back, and the request for TELEOP is let through. -/
theorem no_motion_gated :
    published gatedStep.2 ≠ [] ∧ ∀ j ∈ published gatedStep.2, j.motion = false := by
  have hrun : Runs Exact.Cost anyStep
      (gatedRun.1 ++ [(Event.worker 12 0, gatedStep.2)]) gatedStep.1 :=
    Run.snoc (Run.of_exec (Option.some_get _).symm) trivial (Option.some_get _).symm
  refine ⟨by decide +kernel, no_motion_in_estop hrun ?_ (List.prefix_refl _) ?_⟩
  · intro pre x s hpre hrun
    refine Run.of_checkAll (P := fun h s e => s.GateHolds h e) ?_ hpre hrun
    decide +kernel
  · decide +kernel

end BotCockpit.Bridge.Sys
