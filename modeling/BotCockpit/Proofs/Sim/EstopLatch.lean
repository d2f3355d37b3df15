import BotCockpit.Proofs.Sim.Publication

/-!
# `BotCockpit.Proofs.Sim.EstopLatch`: the emergency stop holds until a RESET

`handle_latched` is the step lemma: a stopped robot that is neither configured anew nor reset
stays stopped and where it is, refuses every motion, and does not go to AUTO. `estop_latch` is
the run, over any callbacks in any order, also in one that the lifecycle does not allow.
-/

set_option autoImplicit false

namespace BotCockpit.Sim

open BotCockpit.Lib

variable {F : Type} [CDouble F] {C : Type} [CFloat C]

namespace FakeRobot

/-- A stopped robot is blocked. -/
theorem blocked_of_estop {r : FakeRobot F} (h : r.estop = true) : r.blocked := Or.inl h

/-- The command of the mode reaches its handler. -/
theorem dispatch_mode {q : Request} (h : q.cmd = ascii "CMD_MODE") (r : FakeRobot F) :
    dispatch C q r = cmdMode q r := by
  have hne : ∀ s ∈ ["CMD_ESTART", "CMD_ESTOP", "CMD_RESET"],
      ascii "CMD_MODE" ≠ ascii s := by decide
  unfold dispatch
  rw [h, if_neg (by simp [hne]), if_neg (by simp [hne]), if_pos rfl]

/-- A command on a stopped robot: it stays stopped and keeps its mode, unless the command is a
RESET that is accepted. -/
theorem dispatch_latched (q : Request) {r : FakeRobot F} (hestop : r.estop = true) :
    ∃ s res, Answers q r (dispatch C q r) s res ∧
      (s.estop = true ∧ (s.mode = .auto → r.mode = .auto) ∨
        q.cmd = ascii "CMD_RESET" ∧ res.ok = true ∧ res.status = .accepted) := by
  refine dispatch_cases (P := fun h => ∃ s res, Answers q r h s res ∧
      (s.estop = true ∧ (s.mode = .auto → r.mode = .auto) ∨
        q.cmd = ascii "CMD_RESET" ∧ res.ok = true ∧ res.status = .accepted))
    (fun _ => ?_) (fun hcmd => ?_) (fun _ => ?_) (fun _ => ?_) (fun _ => ?_) (fun _ => ?_)
    (fun _ => ?_)
  · obtain ⟨s, res, ha, -, he, -, hm⟩ := cmdEstop_spec q r
    exact ⟨s, res, ha, Or.inl ⟨he, fun h => hm ▸ h⟩⟩
  · obtain ⟨s, res, ha, ⟨-, rfl⟩ | ⟨hok, hacc, -⟩⟩ := cmdReset_spec q r
    · exact ⟨s, res, ha, Or.inl ⟨hestop, id⟩⟩
    · exact ⟨s, res, ha, Or.inr ⟨hcmd, hok, hacc⟩⟩
  · obtain ⟨s, res, ha, he, -, hm, -⟩ := cmdMode_spec q r
    refine ⟨s, res, ha, Or.inl ⟨he.trans hestop, fun h => ?_⟩⟩
    rcases hm h with hsame | hfree
    · rw [← hsame]
      exact h
    · exact absurd (blocked_of_estop hestop) hfree
  · obtain ⟨s, res, ha, he, hm⟩ := cmdTask_answers C q r
    exact ⟨s, res, ha, Or.inl ⟨he.trans hestop, fun h => hm ▸ h⟩⟩
  · obtain ⟨s, res, ha, he, hm, -⟩ := cmdInjectFault_spec q r
    exact ⟨s, res, ha, Or.inl ⟨he.trans hestop, fun h => hm ▸ h⟩⟩
  · obtain ⟨s, res, ha, he, hm, -⟩ := cmdClearFault_spec q r
    exact ⟨s, res, ha, Or.inl ⟨he.trans hestop, fun h => hm ▸ h⟩⟩
  · exact ⟨_, _, answers_reject q r .notImplemented [], Or.inl ⟨hestop, id⟩⟩

/-- A blocked robot answers no goto, no resume and no request for AUTO with `ok`. -/
theorem onCmd_refuses {r s : FakeRobot F} {e : Event} {out : List (Output F)}
    (hblocked : r.blocked) (h : handle C r e = some (s, out))
    (hok : Entry.AnsweredOk (e, out)) :
    ¬Entry.AsksTask (e, out) "goto" ∧ ¬Entry.AsksTask (e, out) "resume" ∧
      ¬Entry.AsksMode (e, out) "AUTO" := by
  obtain ⟨res', hres', hok'⟩ := hok
  have hstart : ∀ type, (type = "goto" ∨ type = "resume") → ¬Entry.AsksTask (e, out) type := by
    intro type htype hasks
    obtain ⟨data, q, hcall, hq, hcmd, htype'⟩ := asksTask_request hasks
    obtain ⟨-, honcmd⟩ := handle_cmd hcall h
    simp only [onCmd_eq, hq] at honcmd
    have hor : taskType? q = ascii "goto" ∨ taskType? q = ascii "resume" := by
      rcases htype with rfl | rfl
      · exact Or.inl htype'
      · exact Or.inr htype'
    obtain ⟨t, res, ha, hfree, -⟩ := start_spec (C := C) hcmd hor r
    rw [honcmd] at ha
    obtain ⟨-, rfl⟩ := ha.mem_result.mp hres'
    exact hfree hok' hblocked
  refine ⟨hstart "goto" (Or.inl rfl), hstart "resume" (Or.inr rfl), ?_⟩
  intro ⟨data, hcall, hcmd, hmode⟩
  obtain ⟨-, honcmd⟩ := handle_cmd hcall h
  simp only [onCmd, hcmd] at honcmd
  rw [dispatch_mode rfl] at honcmd
  obtain ⟨t, res, ha, -, -, -, hrefuse⟩ := cmdMode_spec
    { nowMs := e.nowMs, data := data, cmd := ascii "CMD_MODE", seq := extractSeq F data } r
  rw [honcmd] at ha
  obtain ⟨-, rfl⟩ := ha.mem_result.mp hres'
  rw [hrefuse hmode hblocked] at hok'
  cases hok'

/-- **One callback on a stopped robot**, other than a configuration or an accepted RESET. -/
theorem handle_latched {r s : FakeRobot F} {e : Event} {out : List (Output F)} (hinv : Inv r)
    (hestop : r.estop = true) (hconf : e.call ≠ .configure)
    (hreset : ¬Entry.Resets (e, out)) (h : handle C r e = some (s, out)) :
    s.estop = true ∧ s.pose = r.pose ∧ (s.mode = .auto → r.mode = .auto) := by
  cases handle_cases h with
  | configure hcall => exact absurd hcall hconf
  | activate now hcall => exact ⟨hestop, rfl, id⟩
  | deactivate hcall | cleanup hcall | shutdown hcall => exact ⟨hestop, rfl, id⟩
  | console data hcall hready =>
      have hheard := onConsole_spec e.nowMs data r
      exact ⟨hheard.estop.trans hestop, hheard.pose, fun hm => hheard.mode ▸ hm⟩
  | noCmd data hcall hready hq => exact ⟨hestop, rfl, id⟩
  | cmd data q hcall hready hq =>
      obtain ⟨t, res, ha, hcase⟩ := dispatch_latched (C := C) q hestop
      rw [ha.state]
      rcases hcase with ⟨he, hm⟩ | ⟨hcmd, hok, hacc⟩
      · exact ⟨he, ha.safe.pose, hm⟩
      · -- The RESET was accepted, and its result was published.
        refine absurd ⟨⟨data, hcall, ?_⟩, res, ha.mem_result.mpr ⟨hready, rfl⟩, hok, hacc⟩
          hreset
        rw [(request?_eq hq).1, hcmd]
  | tick now fuel s out hcall htick =>
      -- Behind the motion point a stopped robot does not move.
      obtain ⟨hstart, -, ⟨-, rfl, -⟩ | ⟨-, -, hpose⟩⟩ := tick_spec hinv.running htick
      · exact ⟨hestop, rfl, id⟩
      · obtain ⟨-, hpoint, -⟩ := motionPoint_spec now e.nowMs r hinv.running
        have hstill : ¬(motionPoint now e.nowMs r).1.moving :=
          fun hm => hm.1 (hpoint.estop.trans hestop)
        exact ⟨hstart.estop.trans hestop, hpose hstill, fun hm => hstart.mode ▸ hm⟩

/-- The callbacks other than a configuration. -/
def notConfigure (_ : FakeRobot F) (e : Event) : Prop := e.call ≠ .configure

end FakeRobot

open FakeRobot

/-- **The emergency stop latches.** From every reachable stopped state, over every run of
callbacks without a configuration and without an accepted RESET, the stop holds. -/
theorem estop_latch {r s : FakeRobot F} {h : List (Entry F)} (hreach : Reachable C r)
    (hestop : r.estop = true) (hrun : Run (handle C) notConfigure r h s)
    (hreset : ∀ x : Entry F, x ∈ h → ¬x.Resets) : StopHeld r h s := by
  have hall : Inv s ∧ ((∀ x : Entry F, x ∈ h → ¬x.Resets) → StopHeld r h s) := by
    refine hrun.invariant_history
      (P := fun h s => Inv s ∧ ((∀ x : Entry F, x ∈ h → ¬x.Resets) → StopHeld r h s))
      ⟨hreach.inv, fun _ => ?_⟩ ?_
    · exact ⟨hestop, hreach.inv.control hestop, rfl, id, fun _ hx => absurd hx List.not_mem_nil⟩
    · intro h s e s' out ⟨hinv, hprefix⟩ hallow hstep
      have hinv' : Inv s' := (handle_inv hinv hstep).1
      refine ⟨hinv', fun hno => ?_⟩
      have hheld := hprefix fun x hx => hno x (List.mem_append_left _ hx)
      have hlast : ¬Entry.Resets (e, out) :=
        hno _ (List.mem_append_right _ (List.mem_singleton.mpr rfl))
      obtain ⟨hestop', hpose', hmode'⟩ := handle_latched hinv hheld.estop hallow hlast hstep
      refine ⟨hestop', hinv'.control hestop', hpose'.trans hheld.pose, hheld.mode ∘ hmode',
        fun x hx hok => ?_⟩
      rcases List.mem_append.mp hx with hx | hx
      · exact hheld.refused x hx hok
      · obtain rfl := List.mem_singleton.mp hx
        exact onCmd_refuses (blocked_of_estop hheld.estop) hstep hok
  exact hall.2 hreset

/-! ### A run of a stopped robot -/

/-- A robot that was brought up and then stopped. -/
def stoppedEvents : List Event :=
  readyEvents ++ [⟨5, .cmd (ascii "\x7b\"seq\":1,\"cmd\":\"CMD_ESTOP\"\x7d")⟩]

/-- The start-up with an emergency stop runs through. -/
theorem exec_stopped :
    (exec (Node.step (F := ℚ) Exact.Cost) anyStep Node.init stoppedEvents).isSome = true := by
  decide +kernel

def stoppedNode : Node ℚ :=
  ((exec (Node.step Exact.Cost) anyStep Node.init stoppedEvents).get exec_stopped).2

example : stoppedNode.robot.phase = .estop := by decide +kernel

/-- Its last state is reachable. -/
theorem reachable_stopped : Reachable Exact.Cost stoppedNode.robot :=
  ⟨_, _, Run.of_exec (Option.some_get exec_stopped).symm, rfl⟩

/-- What a stopped robot is asked for: a goto, AUTO, and to start up again. -/
def pressedEvents : List Event :=
  [⟨6, .cmd (ascii "\x7b\"cmd\":\"CMD_TASK\",\"type\":\"goto\",\"x\":3\x7d")⟩,
    ⟨7, .cmd (ascii "\x7b\"cmd\":\"CMD_MODE\",\"mode\":\"AUTO\"\x7d")⟩,
    ⟨8, .deactivate⟩, ⟨9, .activate 700000000⟩, ⟨10, .tick 1300000000 1⟩]

instance (r : FakeRobot ℚ) (e : Event) : Decidable (notConfigure r e) := by
  unfold notConfigure
  infer_instance

/-- The callbacks after the stop run through. -/
theorem exec_pressed :
    (exec (handle Exact.Cost) notConfigure stoppedNode.robot pressedEvents).isSome = true := by
  decide +kernel

/-- No answer to these callbacks is an acceptance. -/
theorem exec_pressed_refused :
    (((exec (handle Exact.Cost) notConfigure stoppedNode.robot pressedEvents).get
      exec_pressed).1.all fun x => x.2.all fun o =>
        match o with
        | .result res => !res.ok
        | .state _ _ => true) = true := by
  decide +kernel

/-- The stop holds while the robot is asked to move and started up again. -/
theorem estop_latch_pressed :
    StopHeld stoppedNode.robot
      ((exec (handle Exact.Cost) notConfigure stoppedNode.robot pressedEvents).get exec_pressed).1
      ((exec (handle Exact.Cost) notConfigure stoppedNode.robot pressedEvents).get
        exec_pressed).2 := by
  refine estop_latch reachable_stopped (by decide +kernel)
    (Run.of_exec (Option.some_get exec_pressed).symm) fun x hx hreset => ?_
  obtain ⟨-, res, hres, hok, -⟩ := hreset
  have hrefused := List.all_eq_true.mp (List.all_eq_true.mp exec_pressed_refused x hx) _ hres
  simp [hok] at hrefused

end BotCockpit.Sim
