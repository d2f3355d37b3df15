import BotCockpit.Proofs.Sim.EstopLatch
import BotCockpit.Proofs.Sim.Outcome

/-!
# `BotCockpit.Proofs.Sim.Startup`: no control before the robot is up

From `on_configure` on the robot takes commands, although it is not active yet. `Dormant` is what
keeps it from acting: its phase is `INITIALIZING` or `ESTOP`. Every callback of a node that is
starting up keeps it (`dormant_step`), a RESET that nothing blocks apart, because `CMD_RESET` sets
`IDLE` without a look at the lifecycle. `held_while_starting` says that this is the only way out.
-/

set_option autoImplicit false

namespace BotCockpit.Sim

open BotCockpit.Lib
open Relation (ReflTransGen)

variable {F : Type} [CDouble F] {C : Type} [CFloat C]

namespace FakeRobot

/-- The phase of a robot that is starting up or stopped. -/
def Dormant (r : FakeRobot F) : Prop :=
  r.phase = .initializing ∨ r.phase = .estop ∧ r.estop = true

/-- A robot that is starting is blocked. -/
theorem Dormant.blocked {r : FakeRobot F} (h : Dormant r) : r.blocked := by
  rcases h with h | ⟨-, h⟩
  · simp [FakeRobot.blocked, h]
  · exact blocked_of_estop h

/-- So the control is off. -/
theorem Dormant.control {r : FakeRobot F} (h : Dormant r) (hcons : Consistent r) :
    r.controlEnabled = false := by
  rw [hcons.controlEnabled_eq]
  rcases h with h | ⟨h, -⟩ <;> simp [h]

/-- Being dormant is a matter of the phase and the latch. -/
theorem Dormant.of_same {r s : FakeRobot F} (h : Dormant r) (hphase : s.phase = r.phase)
    (hestop : s.estop = r.estop) : Dormant s := by
  unfold Dormant
  rwa [hphase, hestop]

/-- Recomputing leaves a dormant robot dormant. -/
theorem Dormant.recompute {r : FakeRobot F} (h : Dormant r) :
    Dormant (recomputePhaseAndControl r) := by
  rcases recompute_cases r with ⟨he, hr⟩ | ⟨-, -, hr⟩ | ⟨he, -, -⟩ | ⟨he, -, -, -⟩ |
    ⟨he, -, -, hrun, -⟩ | ⟨he, -, -, -, -⟩
  · rw [hr]
    exact Or.inr ⟨rfl, he⟩
  · rw [hr]
    exact h
  all_goals
    rcases h with h | ⟨-, h⟩
    · simp_all [recomputePhaseAndControl, Dormant]
    · rw [h] at he
      cases he

/-- A dormant robot is not awake. -/
theorem Dormant.not_awake {r : FakeRobot F} (h : Dormant r) : ¬Awake r := by
  rcases h with h | ⟨h, -⟩ <;> simp [Awake, h]

/-- A block keeps a robot dormant while the start-up pause lasts. -/
theorem Dormant.settles {due : Prop} (hdue : ¬due) {r s : FakeRobot F}
    (hs : Settles due r s) (h : Dormant r) : Dormant s := by
  cases hs with
  | same hs => exact h.of_same hs.phase hs.estop
  | recomputed t hestop hphase _ _ hs =>
      rcases hphase with hphase | ⟨-, hawake | ⟨htrue, -⟩⟩
      · have ht := (h.of_same hphase hestop).recompute
        exact ht.of_same hs.phase (by rw [hs.estop, recompute_estop])
      · exact absurd hawake h.not_awake
      · exact absurd htrue hdue

/-- So does a command other than a RESET that nothing blocks. -/
theorem Dormant.outcome {q : Request} {r s : FakeRobot F} (ho : Outcome q r s)
    (hreset : ¬TakesReset q r) (h : Dormant r) : Dormant s := by
  cases ho with
  | settles hs => exact h.settles id hs
  | stopped hphase hestop _ _ => exact Or.inr ⟨hphase, hestop⟩
  | started hfree _ _ _ _ => exact absurd h.blocked hfree
  | cleared _ t hphase hestop _ _ hs =>
      have ht := (h.of_same hphase hestop).recompute
      exact ht.of_same hs.phase (by rw [hs.estop, recompute_estop])
  | reset htakes _ _ => exact absurd htakes hreset

/-- RESET reaches its handler. -/
theorem dispatch_reset {q : Request} (h : q.cmd = ascii "CMD_RESET") (r : FakeRobot F) :
    dispatch C q r = cmdReset q r := by
  have hne : ascii "CMD_RESET" ≠ ascii "CMD_ESTART" ∧ ascii "CMD_RESET" ≠ ascii "CMD_ESTOP" := by
    decide
  unfold dispatch
  rw [h, if_neg (by simp [hne]), if_pos rfl]

/-- A message leaves the publishers and the activation alone, as does a tick. -/
theorem handle_wiring {r s : FakeRobot F} {e : Event} {out : List (Output F)} (hinv : Inv r)
    (h : handle C r e = some (s, out))
    (hcall : (∃ data, e.call = .console data) ∨ (∃ data, e.call = .cmd data) ∨
      ∃ now fuel, e.call = .tick now fuel) :
    s.topicsReady = r.topicsReady ∧ s.active = r.active := by
  cases handle_cases h with
  | configure hc | activate _ hc | deactivate hc | cleanup hc | shutdown hc => simp [hc] at hcall
  | console data hc hready =>
      have hheard := onConsole_spec e.nowMs data r
      exact ⟨hheard.ready, hheard.active⟩
  | noCmd data hc hready hq => exact ⟨rfl, rfl⟩
  | cmd data q hc hready hq =>
      obtain ⟨t, res, ha⟩ := dispatch_answers C q r
      rw [ha.state]
      exact ⟨ha.safe.ready, ha.safe.active⟩
  | tick now fuel s out hc htick =>
      have hstart := (tick_spec hinv.running htick).1
      exact ⟨hstart.ready, hstart.active⟩

end FakeRobot

open FakeRobot

/-! ### The node -/

/-- The flags of the robot agree with the lifecycle. -/
structure Node.Wired (n : Node F) : Prop where
  ready : n.robot.topicsReady = true ↔ n.lifecycle = .inactive ∨ n.lifecycle = .active
  active : n.robot.active = true ↔ n.lifecycle = .active

/-- A step is a callback that the lifecycle allows. -/
theorem Node.step_after {n m : Node F} {e : Event} {out : List (Output F)}
    (h : Node.step C n e = some (m, out)) : n.lifecycle.after e.call = some m.lifecycle := by
  unfold Node.step at h
  split at h
  · cases h
  · split at h
    · cases h
    · simp only [Option.some.injEq, Prod.mk.injEq] at h
      obtain ⟨rfl, -⟩ := h
      assumption

/-- A message or a tick leaves the lifecycle alone. -/
theorem Node.step_lifecycle {n m : Node F} {e : Event} {out : List (Output F)}
    (h : Node.step C n e = some (m, out))
    (hcall : (∃ data, e.call = .console data) ∨ (∃ data, e.call = .cmd data) ∨
      ∃ now fuel, e.call = .tick now fuel) : m.lifecycle = n.lifecycle := by
  have hafter := Node.step_after h
  rcases hcall with ⟨data, hc⟩ | ⟨data, hc⟩ | ⟨now, fuel, hc⟩
  all_goals
    rw [hc] at hafter
    cases hl : n.lifecycle <;> simp_all [LifecycleState.after]

/-! What the lifecycle allows. -/

/-- Configuring leads from unconfigured to inactive. -/
theorem LifecycleState.after_configure {s t : LifecycleState}
    (h : s.after .configure = some t) : s = .unconfigured ∧ t = .inactive := by
  cases s <;> simp_all [LifecycleState.after]

/-- Activating leads from inactive to active. -/
theorem LifecycleState.after_activate {s t : LifecycleState} {now : Int}
    (h : s.after (.activate now) = some t) : s = .inactive ∧ t = .active := by
  cases s <;> simp_all [LifecycleState.after]

/-- Deactivating leads back. -/
theorem LifecycleState.after_deactivate {s t : LifecycleState}
    (h : s.after .deactivate = some t) : s = .active ∧ t = .inactive := by
  cases s <;> simp_all [LifecycleState.after]

/-- Cleaning up and shutting down lead to neither. -/
theorem LifecycleState.after_down {s t : LifecycleState}
    (h : s.after .cleanup = some t ∨ s.after .shutdown = some t) :
    t ≠ .inactive ∧ t ≠ .active := by
  rcases h with h | h <;> cases s <;> simp only [LifecycleState.after] at h <;> cases h <;> simp

/-- A callback keeps the node wired: the flags follow its life cycle. -/
theorem wired_step {n m : Node F} {e : Event} {out : List (Output F)} (hinv : Inv n.robot)
    (hwired : n.Wired) (h : Node.step C n e = some (m, out)) : m.Wired := by
  have hhandle := Node.step_handle h
  have hafter := Node.step_after h
  obtain ⟨hready, hactive⟩ := hwired
  generalize hm : m.robot = s at hhandle
  cases handle_cases hhandle with
  | console _ hc | noCmd _ hc | cmd _ _ hc | tick _ _ _ _ hc =>
      -- The three callbacks that leave the life cycle alone.
      have hcall : (∃ data, e.call = .console data) ∨ (∃ data, e.call = .cmd data) ∨
          ∃ now fuel, e.call = .tick now fuel := by simp [hc]
      obtain ⟨hr, ha⟩ := handle_wiring hinv (Node.step_handle h) hcall
      have hl := Node.step_lifecycle h hcall
      exact ⟨by rw [hr, hl, hready], by rw [ha, hl, hactive]⟩
  | configure hc =>
      rw [hc] at hafter
      obtain ⟨hl, hl'⟩ := LifecycleState.after_configure hafter
      have hon : m.robot.topicsReady = true := by rw [hm]; rfl
      have hoff : m.robot.active = n.robot.active := by rw [hm]; rfl
      exact ⟨by simp [hon, hl'], by rw [hoff, hactive, hl, hl']; simp⟩
  | activate now hc =>
      rw [hc] at hafter
      obtain ⟨hl, hl'⟩ := LifecycleState.after_activate hafter
      have hon : m.robot.topicsReady = n.robot.topicsReady := by rw [hm]; rfl
      have hon' : m.robot.active = true := by rw [hm]; rfl
      exact ⟨by rw [hon, hready, hl, hl']; simp, by simp [hon', hl']⟩
  | deactivate hc =>
      -- The publishers stay, and only the flag of the activation falls.
      rw [hc] at hafter
      obtain ⟨hl, hl'⟩ := LifecycleState.after_deactivate hafter
      have hon : m.robot.topicsReady = n.robot.topicsReady := by rw [hm]; rfl
      have hoff : m.robot.active = false := by rw [hm]; rfl
      exact ⟨by rw [hon, hready, hl, hl']; simp, by simp [hoff, hl']⟩
  | cleanup hc | shutdown hc =>
      rw [hc] at hafter
      have hl := LifecycleState.after_down (s := n.lifecycle) (t := m.lifecycle) (by simp [hafter])
      have hoff : m.robot.topicsReady = false ∧ m.robot.active = false := by
        rw [hm]
        exact ⟨rfl, rfl⟩
      exact ⟨by simp [hoff, hl], by simp [hoff, hl]⟩

/-- In every run the node is wired. -/
theorem Node.Runs.wired {h : Node.History F} {n : Node F} (hrun : Node.Runs C h n) : n.Wired :=
  (hrun.invariant (P := fun n => Inv n.robot ∧ n.Wired)
    ⟨inv_init, by constructor <;> simp [Node.init]⟩
    fun _ _ _ _ hn _ hstep =>
      ⟨(handle_inv hn.1 (Node.step_handle hstep)).1, wired_step hn.1 hn.2 hstep⟩).2

/-- A node that is starting up has its subscriptions. -/
theorem StartingUp.ready {h : Node.History F} {n : Node F} (hwired : n.Wired)
    (hs : StartingUp h n) : n.robot.topicsReady = true := by
  rcases hs with hs | ⟨hs, -⟩
  · exact hwired.ready.mpr (Or.inl hs)
  · exact hwired.ready.mpr (Or.inr hs)

/-! ### One step -/

/-- Without a transition a node is starting up only if it was before. -/
theorem StartingUp.before {h : Node.History F} {n m : Node F} {e : Event}
    {out : List (Output F)} (hstep : Node.step C n e = some (m, out))
    (hcall : (∃ data, e.call = .console data) ∨ (∃ data, e.call = .cmd data) ∨
      ∃ now fuel, e.call = .tick now fuel)
    (hs : StartingUp (h ++ [(e, out)]) m) :
    StartingUp h n ∧ (n.lifecycle = .active → ∀ now fuel, e.call = .tick now fuel →
      now < n.robot.idleTp) := by
  have hl := Node.step_lifecycle hstep hcall
  have hact : ∀ now, e.call ≠ .activate now := by
    intro now hc
    rcases hcall with ⟨_, h⟩ | ⟨_, h⟩ | ⟨_, _, h⟩ <;> rw [h] at hc <;> cases hc
  have hidle := handle_idleTp hact (Node.step_handle hstep)
  rcases hs with hs | ⟨hs, hsince⟩
  · rw [hl] at hs
    exact ⟨Or.inl hs, fun hactive => by rw [hs] at hactive; cases hactive⟩
  · rw [hl] at hs
    rw [hidle] at hsince
    rcases since_snoc.mp hsince with ⟨now, hnow⟩ | ⟨hsince, hlast⟩
    · exact absurd hnow (hact now)
    · exact ⟨Or.inr ⟨hs, hsince⟩, fun _ => hlast⟩

/-- Every callback of a node that is starting up keeps it dormant, unless it is a RESET that
nothing blocks. -/
theorem dormant_step {h : Node.History F} {n m : Node F} {e : Event} {out : List (Output F)}
    (hwired : n.Wired) (hstep : Node.step C n e = some (m, out))
    (hbefore : StartingUp h n →
      Dormant n.robot ∧ ¬(e.AsksReset ∧ n.robot.hasBlocking = false))
    (hs : StartingUp (h ++ [(e, out)]) m) : Dormant m.robot := by
  have hhandle := Node.step_handle hstep
  generalize m.robot = s at hhandle ⊢
  cases handle_cases hhandle with
  | configure hc | activate _ hc | deactivate hc => exact Or.inl rfl
  | cleanup hc | shutdown hc =>
      -- The node is not starting up any more.
      have hafter := Node.step_after hstep
      rw [hc] at hafter
      have hl := LifecycleState.after_down (s := n.lifecycle) (t := m.lifecycle) (by simp [hafter])
      rcases hs with hs | ⟨hs, -⟩
      · exact absurd hs hl.1
      · exact absurd hs hl.2
  | console data hc hready =>
      obtain ⟨hdormant, -⟩ := hbefore (StartingUp.before hstep (by simp [hc]) hs).1
      have hchain : ReflTransGen (Settles False) n.robot (onConsole e.nowMs data n.robot).1 :=
        onConsole_settles e.nowMs data n.robot
      exact settles_chain (fun _ _ hs h => Dormant.settles id hs h) hchain hdormant
  | noCmd data hc hready hq => exact (hbefore (StartingUp.before hstep (by simp [hc]) hs).1).1
  | cmd data q hc hready hq =>
      obtain ⟨hdormant, hreset⟩ := hbefore (StartingUp.before hstep (by simp [hc]) hs).1
      refine hdormant.outcome (dispatch_outcome (C := C) q n.robot) ?_
      rintro ⟨hcmd, hconfirm, hblock⟩
      refine hreset ⟨⟨data, hc, ?_⟩, hblock⟩
      obtain ⟨hname, hdata, -⟩ := request?_eq hq
      exact ⟨hcmd ▸ hname, hdata ▸ hconfirm⟩
  | tick now fuel s out hc htick =>
      obtain ⟨hstart, hpause⟩ := StartingUp.before hstep (by simp [hc]) hs
      obtain ⟨hdormant, -⟩ := hbefore hstart
      rcases tick_settles htick with ⟨-, heq⟩ | ⟨hactive, hchain⟩
      · rw [heq]
        exact hdormant
      · have hlt : ¬n.robot.idleTp ≤ now :=
          not_le.mpr (hpause (hwired.active.mp hactive) now fuel hc)
        exact settles_chain (fun _ _ hs h => Dormant.settles hlt hs h) hchain hdormant

/-- A RESET that nothing blocks sets `IDLE`. -/
theorem step_reset {n m : Node F} {e : Event} {out : List (Output F)}
    (hstep : Node.step C n e = some (m, out)) (hasks : e.AsksReset)
    (hblock : n.robot.hasBlocking = false) : m.robot.phase = .idle := by
  obtain ⟨data, hc, hcmd, hconfirm⟩ := hasks
  obtain ⟨-, honcmd⟩ := handle_cmd hc (Node.step_handle hstep)
  simp only [onCmd, hcmd] at honcmd
  rw [dispatch_reset rfl] at honcmd
  rw [cmdReset_accepted hconfirm hblock] at honcmd
  rw [← (Prod.mk.inj honcmd).1]
  rfl

/-! ### The run -/

/-- A node that is starting up and dormant is held. -/
theorem held_of_dormant {h : Node.History F} {n : Node F} (hrun : Node.Runs C h n)
    (hs : StartingUp h n) (hdormant : Dormant n.robot) : n.Held C := by
  have hcons := hrun.inv.consistent (hs.ready hrun.wired)
  refine ⟨?_, hdormant.control hcons, fun e m out hstep hok => ?_⟩
  · rcases hdormant with hp | ⟨hp, -⟩
    · exact Or.inl hp
    · exact Or.inr hp
  · obtain ⟨hgoto, -, hauto⟩ := onCmd_refuses hdormant.blocked (Node.step_handle hstep) hok
    exact ⟨hgoto, hauto⟩

/-- **No control before the robot is up.** In a run the robot is held whenever the node is starting
up, if and only if no RESET with `confirm:true` arrives while the node is starting up and no fault
blocks the RESET. -/
theorem held_while_starting {h : Node.History F} {n : Node F} (hrun : Node.Runs C h n) :
    (∀ pre m, pre <+: h → Node.Runs C pre m → StartingUp pre m → m.Held C) ↔
      ∀ pre x m, pre ++ [x] <+: h → Node.Runs C pre m → StartingUp pre m →
        ¬(x.1.AsksReset ∧ m.robot.hasBlocking = false) := by
  constructor
  · intro hheld pre x m hpre hrunm hstart ⟨hasks, hblock⟩
    obtain ⟨m', hrunm'⟩ := hrun.of_prefix hpre
    obtain ⟨t, hrunt, -, hstep⟩ := hrunm'.snoc_inv
    obtain rfl := hrunt.det hrunm
    -- After the RESET the node is still starting up, and the phase is `IDLE`.
    have hidle := step_reset hstep hasks hblock
    obtain ⟨data, hc, -⟩ := hasks
    have hcall : (∃ data, x.1.call = .console data) ∨ (∃ data, x.1.call = .cmd data) ∨
        ∃ now fuel, x.1.call = .tick now fuel := by simp [hc]
    have hl := Node.step_lifecycle hstep hcall
    have htp := handle_idleTp (by simp [hc]) (Node.step_handle hstep)
    have hstart' : StartingUp (pre ++ [x]) m' := by
      rcases hstart with hs | ⟨hs, hsince⟩
      · exact Or.inl (hl.trans hs)
      · refine Or.inr ⟨hl.trans hs, ?_⟩
        rw [htp]
        exact hsince.extend fun now fuel htick => by rw [hc] at htick; cases htick
    have hphase := (hheld _ m' hpre hrunm' hstart').phase
    rw [hidle] at hphase
    rcases hphase with hp | hp <;> cases hp
  · intro hfree pre m hpre hrunm hstart
    have hdormant : (∀ pre' x m', pre' ++ [x] <+: pre → Node.Runs C pre' m' → StartingUp pre' m' →
        ¬(x.1.AsksReset ∧ m'.robot.hasBlocking = false)) → StartingUp pre m → Dormant m.robot := by
      clear hpre hstart
      induction hrunm with
      | nil =>
          intro _ hs
          rcases hs with hs | ⟨hs, -⟩ <;> cases hs
      | @snoc h t t' e o hrunt _ hstep ih =>
          intro hno
          refine dormant_step (Node.Runs.wired hrunt) hstep fun hs =>
            ⟨ih (fun pre' x m' hpre => ?_) hs, ?_⟩
          · exact hno pre' x m' (hpre.trans (List.prefix_append _ _))
          · exact hno h (e, o) t (List.prefix_refl _) hrunt hs
    exact held_of_dormant hrunm hstart (hdormant
      (fun pre' x m' hpre' => hfree pre' x m' (hpre'.trans hpre)) hstart)

/-- No message came before the robot was up. -/
theorem held_while_starting_ready :
    ¬∃ pre m, pre <+: readyHistory ∧ Node.Runs Exact.Cost pre m ∧ StartingUp pre m ∧
      ¬m.Held Exact.Cost := by
  have hevents : readyHistory.map (fun x => x.1) = readyEvents := by decide +kernel
  rintro ⟨pre, m, hpre, hrunm, hstart, hno⟩
  refine hno ((held_while_starting runs_ready).mpr ?_ pre m hpre hrunm hstart)
  rintro pre x m hx - - ⟨⟨data, hc, -⟩, -⟩
  have hmem : x.1 ∈ readyEvents := by
    rw [← hevents]
    exact List.mem_map_of_mem (hx.subset (by simp))
  simp only [readyEvents, List.mem_cons, List.not_mem_nil, or_false] at hmem
  rcases hmem with h | h | h | h <;> rw [h] at hc <;> cases hc

/-- A console is there and sends a RESET before the robot is activated. -/
def earlyEvents : List Event :=
  [⟨1, .configure⟩, ⟨2, .console (ascii "\x7b\"online\":true\x7d")⟩,
    ⟨3, .cmd (ascii "\x7b\"seq\":1,\"cmd\":\"CMD_RESET\",\"confirm\":true\x7d")⟩]

/-- The run of these callbacks. -/
def earlyRun : Node.History ℚ × Node ℚ :=
  (exec (Node.step Exact.Cost) anyStep Node.init earlyEvents).get (by decide +kernel)

/-- A request for AUTO. -/
def autoEvent : Event := ⟨4, .cmd (ascii "\x7b\"cmd\":\"CMD_MODE\",\"mode\":\"AUTO\"\x7d")⟩

/-- The robot is in `IDLE` with control before it is activated, and goes to AUTO when asked. -/
theorem control_while_inactive :
    ∃ (h : Node.History ℚ) (n : Node ℚ), Node.Runs Exact.Cost h n ∧ n.lifecycle = .inactive ∧
      StartingUp h n ∧ n.robot.phase = .idle ∧ n.robot.controlEnabled = true ∧
      (∃ m out, Node.step Exact.Cost n autoEvent = some (m, out) ∧ m.robot.mode = .auto) ∧
      ¬n.Held Exact.Cost := by
  have hphase : earlyRun.2.robot.phase = .idle := by decide +kernel
  have hinactive : earlyRun.2.lifecycle = .inactive := by decide +kernel
  have hauto : ((Node.step Exact.Cost earlyRun.2 autoEvent).map fun x => x.1.robot.mode) =
      some .auto := by decide +kernel
  refine ⟨earlyRun.1, earlyRun.2, Run.of_exec (Option.some_get _).symm, hinactive, Or.inl hinactive,
    hphase, by decide +kernel, ?_, fun hheld => ?_⟩
  · obtain ⟨⟨m, out⟩, hstep, hmode⟩ := Option.map_eq_some_iff.mp hauto
    exact ⟨m, out, hstep, hmode⟩
  · rcases hheld.phase with hp | hp <;> rw [hphase] at hp <;> cases hp

end BotCockpit.Sim
