import BotCockpit.Proofs.Sim.Startup

/-!
# `BotCockpit.Proofs.Sim.BlockingFault`: an error stays until it is cleared

Every fault is listed at the level of its code, and a listed error shows in the phase
(`Reported`). So the fault that `CMD_RESET` looks for by code and the one that the recomputation
looks for by level are the same, and a robot with a blocking fault is halted: `faulted_step` is
the step, `fault_held` the run. `reset_accepted` is the other half: without such a fault a
confirmed RESET is carried out.
-/

set_option autoImplicit false

namespace BotCockpit.Sim

open BotCockpit.Lib
open Relation (ReflTransGen)

variable {F : Type} [CDouble F] {C : Type} [CFloat C]

namespace FakeRobot

/-! ### Errors show in the phase -/

/-- The phases of a robot with an error. -/
def Halted (r : FakeRobot F) : Prop :=
  r.phase = .fault ∨ r.phase = .estop ∨ r.phase = .initializing ∨ r.phase = .boot

/-- Every listed fault is as the source lists it, and an error shows in the phase. -/
structure Reported (r : FakeRobot F) : Prop where
  wellFormed : ∀ f ∈ r.faults, f.WellFormed
  halted : ∀ f ∈ r.faults, f.level = .error → Halted r

/-- Whether the robot is halted is a matter of its phase. -/
theorem Halted.of_phase {r s : FakeRobot F} (h : Halted r) (hphase : s.phase = r.phase) :
    Halted s := by
  unfold Halted
  rwa [hphase]

/-- A halted robot does not run. -/
theorem Halted.not_running {r : FakeRobot F} (h : Halted r) : r.phase ≠ .running := by
  rcases h with h | h | h | h <;> simp [h]

/-- A halted robot is blocked. -/
theorem Halted.blocked {r : FakeRobot F} (h : Halted r) (hcons : Consistent r) : r.blocked := by
  rcases h with h | h | h | h
  · simp [FakeRobot.blocked, h]
  · exact blocked_of_estop (hcons.locked h)
  · simp [FakeRobot.blocked, h]
  · simp [FakeRobot.blocked, h]

/-- Recomputing with an error halts the robot. -/
theorem recompute_halted {r : FakeRobot F} {f : FaultItem} (hf : f ∈ r.faults)
    (hactive : f.active = true) (hlevel : f.level = .error) :
    Halted (recomputePhaseAndControl r) := by
  have herr : r.hasErrorCondition = true := by
    simp only [hasErrorCondition, Bool.or_eq_true, List.any_eq_true]
    exact Or.inl ⟨f, hf, by simp [hactive, hlevel]⟩
  rcases recompute_cases r with ⟨-, hr⟩ | ⟨-, hstart, hr⟩ | ⟨-, -, hr⟩ | ⟨-, he, -⟩ |
    ⟨-, he, -⟩ | ⟨-, he, -⟩
  · simp [Halted, hr]
  · rcases hstart with hs | hs <;> simp [Halted, hr, hs]
  · simp [Halted, hr]
  all_goals
    rw [herr] at he
    cases he

/-- Recomputing from well-formed faults. -/
theorem recompute_reported {r s : FakeRobot F} (hwf : ∀ f ∈ r.faults, f.WellFormed)
    (hs : SamePhase (recomputePhaseAndControl r) s) : Reported s := by
  have hfaults : s.faults = r.faults := by rw [hs.faults, recompute_faults]
  refine ⟨fun f hf => hwf f (hfaults ▸ hf), fun f hf hlevel => ?_⟩
  rw [hfaults] at hf
  exact (recompute_halted hf (hwf f hf).1 hlevel).of_phase hs.phase

/-- What grows by well-formed faults stays well formed. -/
theorem Grows.wellFormed {r s : FakeRobot F} (h : Grows r s)
    (hwf : ∀ f ∈ r.faults, f.WellFormed) : ∀ f ∈ s.faults, f.WellFormed := by
  obtain ⟨new, heq, hnew⟩ := h
  intro f hf
  rw [heq] at hf
  rcases List.mem_append.mp hf with hf | hf
  · exact hwf f hf
  · exact hnew f hf

/-- A step that settles keeps the reported faults. -/
theorem Reported.settles {due : Prop} {r s : FakeRobot F} (hs : Settles due r s)
    (h : Reported r) : Reported s := by
  cases hs with
  | same hs =>
      refine ⟨fun f hf => h.wellFormed f (hs.faults ▸ hf), fun f hf hlevel => ?_⟩
      exact (h.halted f (hs.faults ▸ hf) hlevel).of_phase hs.phase
  | recomputed t _ _ hfaults _ hs => exact recompute_reported (hfaults.wellFormed h.wellFormed) hs

/-- So does the outcome of a command. -/
theorem Reported.outcome {q : Request} {r s : FakeRobot F} (hcons : Consistent r)
    (ho : Outcome q r s) (h : Reported r) : Reported s := by
  cases ho with
  | settles hs => exact h.settles hs
  | stopped hphase _ hfaults _ =>
      exact ⟨hfaults.wellFormed h.wellFormed, fun _ _ _ => Or.inr (Or.inl hphase)⟩
  | started hfree _ _ hfaults _ =>
      -- A robot that starts a motion lists no error.
      refine ⟨fun f hf => h.wellFormed f (hfaults ▸ hf), fun f hf hlevel => ?_⟩
      exact absurd ((h.halted f (hfaults ▸ hf) hlevel).blocked hcons) hfree
  | cleared _ t _ _ hfaults _ hs => exact recompute_reported (by simp [hfaults]) hs
  | reset _ hs _ => constructor <;> simp [hs.faults]

/-- **Every callback keeps the report.** -/
theorem handle_reported {r s : FakeRobot F} {e : Event} {out : List (Output F)} (hinv : Inv r)
    (hrep : Reported r) (h : handle C r e = some (s, out)) : Reported s := by
  cases handle_cases h with
  | configure hc =>
      -- The list is empty.
      have hfaults : (onConfigure e.nowMs r).1.faults = [] := rfl
      constructor <;> simp [hfaults]
  | activate now hc | deactivate hc =>
      -- The life cycle keeps the list, and the robot is starting or offline.
      exact ⟨hrep.wellFormed, fun _ _ _ => Or.inr (Or.inr (Or.inl rfl))⟩
  | cleanup hc | shutdown hc =>
      exact ⟨hrep.wellFormed, fun _ _ _ => Or.inr (Or.inr (Or.inr rfl))⟩
  | console data hc hready =>
      have hchain : ReflTransGen (Settles False) r (onConsole e.nowMs data r).1 :=
        onConsole_settles e.nowMs data r
      exact settles_chain (fun _ _ hs h => Reported.settles hs h) hchain hrep
  | noCmd data hc hready hq => exact hrep
  | cmd data q hc hready hq =>
      exact hrep.outcome (hinv.consistent hready) (dispatch_outcome (C := C) q r)
  | tick now fuel s out hc htick =>
      rcases tick_settles htick with ⟨-, heq⟩ | ⟨-, hchain⟩
      · rw [heq]
        exact hrep
      · exact settles_chain (fun _ _ hs h => Reported.settles hs h) hchain hrep

end FakeRobot

open FakeRobot

/-- In every reachable state the faults are reported. -/
theorem Reachable.reported {r : FakeRobot F} (h : Reachable C r) : Reported r := by
  obtain ⟨_, _, hrun, rfl⟩ := h
  exact (hrun.invariant (P := fun n => Inv n.robot ∧ Reported n.robot)
    ⟨inv_init, by constructor <;> simp [Node.init]⟩
    fun _ _ _ _ hn _ hstep =>
      ⟨(handle_inv hn.1 (Node.step_handle hstep)).1,
        handle_reported hn.1 hn.2 (Node.step_handle hstep)⟩).2

namespace FakeRobot

/-! ### A fault that blocks -/

/-- What RESET looks for by code is what the level says. -/
theorem hasBlocking_iff {r : FakeRobot F} (hrep : Reported r) :
    r.hasBlocking = true ↔ ∃ f ∈ r.faults, Blocks f := by
  simp only [hasBlocking, List.any_eq_true, Bool.and_eq_true, Bool.not_eq_true',
    Bool.or_eq_false_iff, decide_eq_true_eq, decide_eq_false_iff_not]
  constructor
  · rintro ⟨f, hf, ⟨-, hcode⟩, hlevel⟩
    exact ⟨f, hf, hlevel, hcode⟩
  · rintro ⟨f, hf, hlevel, hcode⟩
    have hwf : f.level = f.code.level := (hrep.wellFormed f hf).2
    -- The other two codes are listed as warnings.
    refine ⟨f, hf, ⟨⟨fun hc => ?_, fun hc => ?_⟩, hcode⟩, hlevel⟩
    · simp [hwf, hc, FaultCode.level] at hlevel
    · simp [hwf, hc, FaultCode.level] at hlevel

/-- The robot is halted and lists `f`. -/
structure Faulted (f : FaultItem) (r : FakeRobot F) : Prop where
  listed : f ∈ r.faults
  halted : Halted r

/-- An error that is listed stays listed while nothing clears it. -/
theorem Faulted.settles {f : FaultItem} (hwf : f.WellFormed) (herror : f.level = .error)
    {due : Prop} {r s : FakeRobot F} (hs : Settles due r s) (h : Faulted f r) :
    Faulted f s := by
  have hlisted := hs.grows.mem h.listed
  cases hs with
  | same hs => exact ⟨hlisted, h.halted.of_phase hs.phase⟩
  | recomputed t _ _ hfaults _ hs =>
      exact ⟨hlisted, (recompute_halted (hfaults.mem h.listed) hwf.1 herror).of_phase hs.phase⟩

/-- The callbacks other than a configuration and a `CLEAR_FAULT`. -/
def notCleared (_ : FakeRobot F) (e : Event) : Prop :=
  match e.call with
  | .configure => False
  | .cmd data => ∀ name ∈ clearNames, extractString data "cmd" ≠ some name
  | _ => True

/-- A halted robot answers no goto, no resume and no request for AUTO with `ok`. -/
theorem halted_refuses {r s : FakeRobot F} {e : Event} {out : List (Output F)} (hinv : Inv r)
    (hhalted : Halted r) (h : handle C r e = some (s, out)) (hok : Entry.AnsweredOk (e, out)) :
    ¬Entry.AsksTask (e, out) "goto" ∧ ¬Entry.AsksTask (e, out) "resume" ∧
      ¬Entry.AsksMode (e, out) "AUTO" := by
  by_cases hready : r.topicsReady = true
  · exact onCmd_refuses (hhalted.blocked (hinv.consistent hready)) h hok
  · -- Without the subscription no message is handled.
    refine ⟨?_, ?_, ?_⟩
    all_goals
      rintro ⟨data, hc, -⟩
      exact hready (handle_cmd hc h).1

/-- The answer to a RESET while a fault blocks it, whether it is confirmed or not. -/
theorem reset_refused {r s : FakeRobot F} {e : Event} {out : List (Output F)}
    (hno : e.AsksReset → r.hasBlocking = true) (h : handle C r e = some (s, out))
    (hasks : Entry.Asks (e, out) "CMD_RESET") : Entry.Refused (e, out) ∧ s = r := by
  obtain ⟨data, hc, hcmd⟩ := hasks
  obtain ⟨hready, honcmd⟩ := handle_cmd hc h
  simp only [onCmd, hcmd] at honcmd
  rw [dispatch_reset rfl] at honcmd
  generalize hq : ({ nowMs := e.nowMs, data := data, cmd := ascii "CMD_RESET",
                     seq := extractSeq F data } : Request) = q at honcmd
  have hdata : q.data = data := by rw [← hq]
  by_cases hconfirm : extractBool q.data "confirm" = some true
  · have hblock := hno ⟨data, hc, hcmd, hdata ▸ hconfirm⟩
    rw [cmdReset_blocked hconfirm hblock] at honcmd
    obtain ⟨rfl, rfl⟩ := Prod.mk.inj honcmd
    refine ⟨⟨⟨.rejected q.seq q.cmd .phaseBusy, ?_⟩, fun res hres => ?_⟩, rfl⟩
    · simp [publishCmdResult, hready]
    · rcases List.mem_append.mp hres with hres | hres
      · simp only [publishCmdResult, hready, if_true, List.mem_singleton,
          Output.result.injEq] at hres
        simp [hres, CmdResult.rejected]
      · exact absurd hres result_not_mem_publishState
  · rw [cmdReset_unconfirmed r hconfirm] at honcmd
    obtain ⟨rfl, rfl⟩ := Prod.mk.inj honcmd
    refine ⟨⟨⟨.rejected q.seq q.cmd .confirmRequired, ?_⟩, fun res hres => ?_⟩, rfl⟩
    · simp [publishCmdResult, hready]
    · simp only [publishCmdResult, hready, if_true, List.mem_singleton,
        Output.result.injEq] at hres
      simp [hres, CmdResult.rejected]

/-- A confirmed RESET that no fault blocks is carried out. -/
theorem reset_accepted {r s : FakeRobot F} {e : Event} {out : List (Output F)}
    (hasks : e.AsksReset) (hblock : r.hasBlocking = false) (h : handle C r e = some (s, out)) :
    Entry.Accepted (e, out) ∧ WasReset r s := by
  obtain ⟨data, hc, hcmd, hconfirm⟩ := hasks
  obtain ⟨hready, honcmd⟩ := handle_cmd hc h
  simp only [onCmd, hcmd] at honcmd
  rw [dispatch_reset rfl] at honcmd
  generalize hq : ({ nowMs := e.nowMs, data := data, cmd := ascii "CMD_RESET",
                     seq := extractSeq F data } : Request) = q at honcmd
  have hdata : q.data = data := by rw [← hq]
  rw [cmdReset_accepted (by rw [hdata, hconfirm]) hblock] at honcmd
  obtain ⟨rfl, rfl⟩ := Prod.mk.inj honcmd
  refine ⟨⟨.accepted q.seq q.cmd, ?_, rfl, rfl⟩, wasReset r⟩
  have hready' : (resetState r).topicsReady = true := hready
  simp [publishCmdResult, hready']

/-- A callback on a robot with a blocking fault: the fault stays, and the robot stays halted and
where it is. -/
theorem faulted_step {f : FaultItem} {r s : FakeRobot F} {e : Event} {out : List (Output F)}
    (hinv : Inv r) (hrep : Reported r) (hblocks : Blocks f) (hfault : Faulted f r)
    (hallow : notCleared r e) (h : handle C r e = some (s, out)) :
    Faulted f s ∧ s.pose = r.pose := by
  have hwf := hrep.wellFormed f hfault.listed
  cases handle_cases h with
  | configure hc =>
      -- Only the configuration forgets the list, and it is excluded.
      simp only [notCleared, hc] at hallow
  | activate now hc | deactivate hc =>
      exact ⟨⟨hfault.listed, Or.inr (Or.inr (Or.inl rfl))⟩, rfl⟩
  | cleanup hc | shutdown hc =>
      exact ⟨⟨hfault.listed, Or.inr (Or.inr (Or.inr rfl))⟩, rfl⟩
  | console data hc hready =>
      have hchain : ReflTransGen (Settles False) r (onConsole e.nowMs data r).1 :=
        onConsole_settles e.nowMs data r
      exact ⟨settles_chain (fun _ _ hs h => Faulted.settles hwf hblocks.1 hs h) hchain hfault,
        (onConsole_spec e.nowMs data r).pose⟩
  | noCmd data hc hready hq => exact ⟨hfault, rfl⟩
  | cmd data q hc hready hq =>
      -- What a command makes of the list is in its outcome.
      obtain ⟨t, res, ha⟩ := dispatch_answers C q r
      have ho := dispatch_outcome (C := C) q r
      rw [ha.state] at ho ⊢
      refine ⟨?_, ha.safe.pose⟩
      cases ho with
      | settles hs => exact hfault.settles hwf hblocks.1 hs
      | stopped hphase _ hfaults _ => exact ⟨hfaults.mem hfault.listed, Or.inr (Or.inl hphase)⟩
      | started hfree _ _ _ _ =>
          -- A start needs a robot that is not blocked, and the fault blocks it.
          exact absurd (hfault.halted.blocked (hinv.consistent hready)) hfree
      | cleared hname _ _ _ _ _ _ =>
          simp only [notCleared, hc] at hallow
          exact absurd (request?_eq hq).1 (hallow q.cmd hname)
      | reset htakes _ _ =>
          -- A RESET is taken only when no fault blocks.
          have hblock := (hasBlocking_iff hrep).mpr ⟨f, hfault.listed, hblocks⟩
          rw [htakes.2.2] at hblock
          cases hblock
  | tick now fuel s out hc htick =>
      -- A tick settles; it moves only a robot that runs at the motion point.
      obtain ⟨-, -, ⟨-, rfl, -⟩ | ⟨-, -, hpose⟩⟩ := tick_spec hinv.running htick
      · exact ⟨hfault, rfl⟩
      · have hpoint := settles_chain (fun _ _ hs h => Faulted.settles hwf hblocks.1 hs h)
          (motionPoint_settles now e.nowMs r) hfault
        refine ⟨?_, hpose fun hm => hpoint.halted.not_running hm.2.1⟩
        rcases tick_settles htick with ⟨-, heq⟩ | ⟨-, hchain⟩
        · rw [heq]
          exact hfault
        · exact settles_chain (fun _ _ hs h => Faulted.settles hwf hblocks.1 hs h) hchain hfault

end FakeRobot

/-! ### The run -/

/-- From a reachable state with a blocking fault, over every run without a configuration and
without a `CLEAR_FAULT`, the fault stays. -/
theorem fault_held {f : FaultItem} {r s : FakeRobot F} {h : List (Entry F)}
    (hreach : Reachable C r) (hf : f ∈ r.faults) (hblocks : Blocks f)
    (hrun : Run (handle C) notCleared r h s) : FaultHeld C f r h s := by
  have hall : Inv s ∧ Reported s ∧ Faulted f s ∧ s.pose = r.pose ∧
      ∀ x : Entry F, x ∈ h → x.AnsweredOk →
        ¬x.AsksTask "goto" ∧ ¬x.AsksTask "resume" ∧ ¬x.AsksMode "AUTO" := by
    refine hrun.invariant_history
      (P := fun h s => Inv s ∧ Reported s ∧ Faulted f s ∧ s.pose = r.pose ∧
        ∀ x : Entry F, x ∈ h → x.AnsweredOk →
          ¬x.AsksTask "goto" ∧ ¬x.AsksTask "resume" ∧ ¬x.AsksMode "AUTO")
      ⟨hreach.inv, hreach.reported, ⟨hf, hreach.reported.halted f hf hblocks.1⟩, rfl,
        fun _ hx => absurd hx List.not_mem_nil⟩ ?_
    intro h s e s' out ⟨hinv, hrep, hfault, hpose, hrefused⟩ hallow hstep
    obtain ⟨hfault', hpose'⟩ := faulted_step hinv hrep hblocks hfault hallow hstep
    refine ⟨(handle_inv hinv hstep).1, handle_reported hinv hrep hstep, hfault',
      hpose'.trans hpose, fun x hx hok => ?_⟩
    rcases List.mem_append.mp hx with hx | hx
    · exact hrefused x hx hok
    · obtain rfl := List.mem_singleton.mp hx
      exact halted_refuses hinv hfault.halted hstep hok
  obtain ⟨-, hrep, hfault, hpose, hrefused⟩ := hall
  refine ⟨hfault.listed, hfault.halted, hpose, hrefused, fun e s' out hstep hasks => ?_⟩
  exact reset_refused (fun _ => (hasBlocking_iff hrep).mpr ⟨f, hfault.listed, hblocks⟩) hstep hasks

/-- **Errors latch, and RESET is all or nothing.** In every reachable state a blocking fault stays,
over every run without a configuration and without a `CLEAR_FAULT`. In a reachable state without
one, a RESET with `confirm:true` is accepted and brings the robot to `IDLE`, and any other RESET is
refused and changes nothing. -/
theorem errors_latch {r : FakeRobot F} (hreach : Reachable C r) :
    (∀ f ∈ r.faults, Blocks f → ∀ h s, Run (handle C) notCleared r h s → FaultHeld C f r h s) ∧
    ((∀ f ∈ r.faults, ¬Blocks f) →
      ∀ e s out, handle C r e = some (s, out) → Entry.Asks (e, out) "CMD_RESET" →
        (e.AsksReset → Entry.Accepted (e, out) ∧ WasReset r s) ∧
        (¬e.AsksReset → Entry.Refused (e, out) ∧ s = r)) := by
  refine ⟨fun f hf hblocks h s hrun => fault_held hreach hf hblocks hrun, ?_⟩
  intro hno e s out hstep hasks
  have hblock : r.hasBlocking = false := by
    rw [← Bool.not_eq_true, hasBlocking_iff hreach.reported]
    rintro ⟨f, hf, hblocks⟩
    exact hno f hf hblocks
  exact ⟨fun hconfirm => reset_accepted hconfirm hblock hstep,
    fun hno => reset_refused (fun hconfirm => absurd hconfirm hno) hstep hasks⟩

/-! ### A robot with a fault -/

/-- A robot that was brought up and in which an operator injects a fault. -/
def faultyRun : Node.History ℚ × Node ℚ :=
  (exec (Node.step Exact.Cost) anyStep Node.init (readyEvents ++
    [⟨5, .cmd (ascii "\x7b\"seq\":1,\"cmd\":\"INJECT_FAULT\"\x7d")⟩])).get (by decide +kernel)

/-- The fault that `INJECT_FAULT` lists. -/
def injectedFault : FaultItem :=
  { code := .nodeTimeout, level := .error, detail := ascii "injected by operator" }

instance (r : FakeRobot F) : (e : Event) → Decidable (notCleared r e)
  | ⟨_, .configure⟩ => instDecidableFalse
  | ⟨_, .cmd data⟩ =>
      inferInstanceAs (Decidable (∀ name ∈ clearNames, extractString data "cmd" ≠ some name))
  | ⟨_, .activate _⟩ | ⟨_, .deactivate⟩ | ⟨_, .cleanup⟩ | ⟨_, .shutdown⟩
  | ⟨_, .console _⟩ | ⟨_, .tick _ _⟩ => instDecidableTrue

/-- An ESTOP, an unconfirmed and a confirmed RESET, a goto, and a new activation with a tick after
the start-up pause. -/
def harassEvents : List Event :=
  [⟨6, .cmd (ascii "\x7b\"cmd\":\"CMD_ESTOP\"\x7d")⟩,
    ⟨7, .cmd (ascii "\x7b\"cmd\":\"CMD_RESET\"\x7d")⟩,
    ⟨8, .cmd (ascii "\x7b\"cmd\":\"CMD_RESET\",\"confirm\":true\x7d")⟩,
    ⟨9, .cmd (ascii "\x7b\"cmd\":\"CMD_TASK\",\"type\":\"goto\",\"x\":3\x7d")⟩,
    ⟨10, .deactivate⟩, ⟨11, .activate 700000000⟩, ⟨12, .tick 1300000000 1⟩]

/-- The run of these callbacks. -/
def harassRun : List (Entry ℚ) × FakeRobot ℚ :=
  (exec (handle Exact.Cost) notCleared faultyRun.2.robot harassEvents).get (by decide +kernel)

/-- The injected fault has stayed through this run. -/
theorem errors_latch_injected :
    FaultHeld Exact.Cost injectedFault faultyRun.2.robot harassRun.1 harassRun.2 :=
  (errors_latch ⟨faultyRun.1, faultyRun.2, Run.of_exec (Option.some_get _).symm, rfl⟩).1
    injectedFault
    (by decide +kernel) ⟨rfl, by decide⟩ _ _ (Run.of_exec (Option.some_get _).symm)

end BotCockpit.Sim
