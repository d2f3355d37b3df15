import BotCockpit.Proofs.Sim.Command
import BotCockpit.Proofs.Sim.Tick

/-!
# `BotCockpit.Proofs.Sim.Invariant`: the invariant of the robot

`Inv` holds after construction and through every callback (`handle_inv`), so it holds in every
reachable state (`Reachable.inv`). Between `on_configure` and `on_cleanup` it includes
`Consistent`, and every state the robot publishes is consistent (`runs_published`).
-/

set_option autoImplicit false

namespace BotCockpit.Sim

open BotCockpit.Lib

variable {F : Type} [CDouble F] {C : Type} [CFloat C]

namespace FakeRobot

/-- What holds in every reachable state. `on_cleanup` leaves `control_enabled_` as it is, so
consistency is only promised while the topics exist. -/
structure Inv (r : FakeRobot F) : Prop where
  running : r.phase = .running → r.consoleOnline = true
  control : r.estop = true → r.controlEnabled = false
  consistent : r.topicsReady = true → Consistent r

/-- A consistent state meets the invariant whatever the publishers are. -/
theorem Consistent.inv {r : FakeRobot F} (h : Consistent r) : Inv r :=
  ⟨fun hp => (h.running hp).2.1, h.control_of_estop, fun _ => h⟩

/-- A robot that is starting up without control is consistent. -/
theorem consistent_of_starting {r : FakeRobot F} (hphase : r.phase = .initializing)
    (hcontrol : r.controlEnabled = false) : Consistent r := by
  constructor <;> simp [hphase, hcontrol]

/-- The configuration publishes and leaves consistent states. -/
theorem onConfigure_spec (nowMs : UInt64) (r : FakeRobot F) :
    Throughout Consistent (onConfigure nowMs r) := by
  have hcons : Consistent (onConfigure nowMs r).1 := consistent_of_starting rfl rfl
  exact throughout_published hcons

/-- So does the activation. -/
theorem onActivate_spec (now : Int) (nowMs : UInt64) (r : FakeRobot F) :
    Throughout Consistent (onActivate now nowMs r) := by
  have hcons : Consistent (onActivate now nowMs r).1 := consistent_of_starting rfl rfl
  exact throughout_published hcons

/-- The end of `on_console`. -/
theorem settle_spec {r : FakeRobot F} (hrun : r.phase = .running → r.consoleOnline = true) :
    let s := recomputePhaseAndControl r
    let t := if s.consoleOnline then s else { s with controlEnabled := false }
    Consistent t ∧ NoStart r t ∧ t.consoleOnline = r.consoleOnline ∧ t.pose = r.pose := by
  intro s t
  have hcons : Consistent s := recompute_consistent hrun
  have hsame : SameSafety s t := hcons.offline_same
  have hpose : t.pose = s.pose := by
    show (if s.consoleOnline then s else { s with controlEnabled := false }).pose = s.pose
    split <;> rfl
  exact ⟨hcons.of_same hsame, (recompute_noStart r).trans hsame.noStart,
    hsame.online.trans (recompute_consoleOnline r), hpose.trans (pose_recompute r)⟩

/-- What a console message does: the robot is consistent afterwards, keeps the flags that the
message does not carry, is online exactly as the message says, and does not start to run. -/
structure Heard (nowMs : UInt64) (data : Bytes) (r : FakeRobot F)
    (h : FakeRobot F × List (Output F)) : Prop where
  consistent : Throughout Consistent h
  noResult : ∀ res, Output.result res ∉ h.2
  estop : h.1.estop = r.estop
  mode : h.1.mode = r.mode
  active : h.1.active = r.active
  ready : h.1.topicsReady = r.topicsReady
  pose : h.1.pose = r.pose
  online : h.1.consoleOnline = true →
    extractBool data "online" = some true ∧ h.1.lastConsoleMs = nowMs
  running : h.1.phase = .running →
    r.phase = .running ∧ extractBool data "online" = some true

/-- So does a message of the console, which starts no motion. -/
theorem onConsole_spec (nowMs : UInt64) (data : Bytes) (r : FakeRobot F) :
    Heard nowMs data r (onConsole nowMs data r) := by
  by_cases honline : extractBool data "online" = some true
  · -- The console is there: note the time.
    let heard : FakeRobot F :=
      { r with consoleOnline := true, lastConsoleMs := nowMs, bridgeNode := .ok }
    obtain ⟨hcons, hstart, hon, hpose⟩ := settle_spec (r := heard) fun _ => rfl
    have heq : onConsole nowMs data r =
        (let s := recomputePhaseAndControl heard
         let t := if s.consoleOnline then s else { s with controlEnabled := false }
         (t, t.publishState nowMs)) := by
      unfold onConsole
      simp only [honline, Option.getD_some, if_true]
      rfl
    rw [heq]
    refine ⟨⟨hcons, fun t s hs => ?_⟩, fun res => result_not_mem_publishState, hstart.estop,
      hstart.mode, hstart.active, hstart.ready, hpose, fun _ => ⟨honline, hstart.lastConsole⟩,
      fun h => ⟨hstart.running h, honline⟩⟩
    rw [mem_publishState hs]
    exact hcons
  · -- The console is gone: a running robot makes a safety stop.
    have hoff : (extractBool data "online").getD false = false := by
      cases hread : extractBool data "online" with
      | none => rfl
      | some b =>
          cases b with
          | false => rfl
          | true => exact absurd hread honline
    let gone : FakeRobot F := { r with consoleOnline := false, bridgeNode := .warn }
    have hgone : ¬gone.consoleOnline = true := Bool.false_ne_true
    obtain ⟨hstop, hstart₀, hphase, hpose₀⟩ := applySafetyStop_spec nowMs gone
    let stopped : FakeRobot F × List (Output F) :=
      if gone.phase = .running then applySafetyStop nowMs gone else (gone, [])
    have hstopped : NoStart gone stopped.1 ∧ stopped.1.phase ≠ .running ∧
        stopped.1.pose = gone.pose ∧
        (∀ t s, Output.state t s ∈ stopped.2 → Consistent s) ∧
        ∀ res, Output.result res ∉ stopped.2 := by
      by_cases hrun : gone.phase = .running
      · have hs : stopped = applySafetyStop nowMs gone := if_pos hrun
        rw [hs]
        exact ⟨hstart₀, hphase, hpose₀, hstop.2, fun res => result_not_mem_publishState⟩
      · have hs : stopped = (gone, []) := if_neg hrun
        rw [hs]
        exact ⟨(SameSafety.refl gone).noStart, hrun, rfl,
          fun _ _ h => absurd h List.not_mem_nil, fun _ => List.not_mem_nil⟩
    obtain ⟨hstart, hnot, hpose, hout, hres⟩ := hstopped
    obtain ⟨hcons', hstart', hon', hpose'⟩ := settle_spec fun h => absurd h hnot
    have heq : onConsole nowMs data r =
        (let s := recomputePhaseAndControl stopped.1
         let t := if s.consoleOnline then s else { s with controlEnabled := false }
         (t, stopped.2 ++ t.publishState nowMs)) := by
      unfold onConsole
      simp only [hoff]
      rfl
    rw [heq]
    have hboth := hstart.trans hstart'
    refine ⟨⟨hcons', fun t s hs => ?_⟩, fun res h => ?_, hboth.estop, hboth.mode, hboth.active,
      hboth.ready, hpose'.trans hpose, fun h => absurd (hboth.online h) hgone,
      fun h => absurd (hstart'.running h) hnot⟩
    · rcases List.mem_append.mp hs with hs | hs
      · exact hout t s hs
      · rw [mem_publishState hs]
        exact hcons'
    · rcases List.mem_append.mp h with h | h
      · exact hres res h
      · exact result_not_mem_publishState h

/-! ### One callback -/

/-- **Every callback keeps the invariant**, and publishes only consistent states. -/
theorem handle_inv {r s : FakeRobot F} {e : Event} {out : List (Output F)} (hinv : Inv r)
    (h : handle C r e = some (s, out)) :
    Inv s ∧ ∀ t u, Output.state t u ∈ out → Consistent u := by
  cases handle_cases h with
  | configure hc =>
      have hspec := onConfigure_spec e.nowMs r
      exact ⟨hspec.1.inv, hspec.2⟩
  | activate now hc =>
      have hspec := onActivate_spec now e.nowMs r
      exact ⟨hspec.1.inv, hspec.2⟩
  | deactivate hc =>
      exact ⟨(consistent_of_starting rfl rfl).inv, fun _ _ h => absurd h List.not_mem_nil⟩
  | cleanup hc | shutdown hc =>
      -- The publishers are gone, so the invariant asks only for the control.
      exact ⟨⟨fun h => Phase.noConfusion h, hinv.control, fun h => Bool.noConfusion h⟩,
        fun _ _ h => absurd h List.not_mem_nil⟩
  | console data hc hready =>
      have hspec := (onConsole_spec e.nowMs data r).consistent
      exact ⟨hspec.1.inv, hspec.2⟩
  | noCmd data hc hready hq => exact ⟨hinv, fun _ _ h => absurd h List.not_mem_nil⟩
  | cmd data q hc hready hq =>
      obtain ⟨t, res, ha⟩ := dispatch_answers C q r
      have hspec := ha.throughout (hinv.consistent hready)
      exact ⟨hspec.1.inv, hspec.2⟩
  | tick now fuel s out hc htick =>
      obtain ⟨-, -, ⟨-, rfl, rfl⟩ | ⟨-, hcons, -⟩⟩ := tick_spec hinv.running htick
      · exact ⟨hinv, fun _ _ h => absurd h List.not_mem_nil⟩
      · exact ⟨hcons.1.inv, hcons.2⟩

end FakeRobot

open FakeRobot

/-! ### Runs -/

/-- A step of the node is a callback of its robot. -/
theorem Node.step_handle {n m : Node F} {e : Event} {out : List (Output F)}
    (h : Node.step C n e = some (m, out)) : n.robot.handle C e = some (m.robot, out) := by
  unfold Node.step at h
  split at h
  · cases h
  · split at h
    · cases h
    · simp only [Option.some.injEq, Prod.mk.injEq] at h
      obtain ⟨rfl, rfl⟩ := h
      assumption

/-- The invariant holds before anything happens. -/
theorem inv_init : Inv (Node.init : Node F).robot :=
  ⟨fun h => Phase.noConfusion h, fun _ => rfl, fun h => Bool.noConfusion h⟩

/-- **The invariant holds in every run.** -/
theorem Node.Runs.inv {h : Node.History F} {n : Node F} (hrun : Node.Runs C h n) :
    Inv n.robot :=
  hrun.invariant (P := fun n => Inv n.robot) inv_init fun _ _ _ _ hinv _ hstep =>
    (handle_inv hinv (Node.step_handle hstep)).1

/-- So it holds in every reachable state. -/
theorem Reachable.inv {r : FakeRobot F} (h : Reachable C r) : Inv r := by
  obtain ⟨_, _, hrun, rfl⟩ := h
  exact hrun.inv

/-- **Every published state is consistent**, in every run. -/
theorem runs_published {h : Node.History F} {n : Node F} (hrun : Node.Runs C h n) :
    ∀ x ∈ h, ∀ t r, Output.state t r ∈ x.2 → Consistent r := by
  refine (hrun.invariant_history
    (P := fun h n => Inv n.robot ∧ ∀ x ∈ h, ∀ t r, Output.state t r ∈ x.2 → Consistent r)
    ⟨inv_init, fun _ hx => absurd hx List.not_mem_nil⟩ ?_).2
  intro h n e n' out ⟨hinv, hpub⟩ _ hstep
  obtain ⟨hinv', hout⟩ := handle_inv hinv (Node.step_handle hstep)
  refine ⟨hinv', fun x hx => ?_⟩
  rcases List.mem_append.mp hx with hx | hx
  · exact hpub x hx
  · rw [List.mem_singleton.mp hx]
    exact hout

end BotCockpit.Sim
