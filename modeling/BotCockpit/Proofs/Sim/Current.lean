import BotCockpit.Proofs.Sim.FaultList

/-!
# `BotCockpit.Proofs.Sim.Current`: the last state message is not out of date

Whoever reads `botcockpit/state` sees the robot as it is, in every run: a callback that changes
anything a state message shows ends with `publish_state`. `on_deactivate` is the one exception, and
only until something is published again (`published_current`).

`Announces` is what one callback does. The commands that answer with `reply` alone leave all that
is shown as it was (`reply_announces`): at most the task counter has moved.
-/

set_option autoImplicit false

namespace BotCockpit.Sim

open BotCockpit.Lib

variable {F : Type} [CDouble F] {C : Type} [CFloat C]

namespace FakeRobot

/-- A state message shows the same of both, but for the time. -/
def SameView (r s : FakeRobot F) : Prop := ∀ nowMs, s.stateJson nowMs = r.stateJson nowMs

/-- What two steps leave unseen, both together leave unseen. -/
theorem SameView.trans {r s t : FakeRobot F} (h₁ : SameView r s) (h₂ : SameView s t) :
    SameView r t :=
  fun nowMs => (h₂ nowMs).trans (h₁ nowMs)

/-- What a callback leads to is published last, or looks the same as before. -/
inductive Announces (r : FakeRobot F) (h : Handled F) : Prop
  | last (out : List (Output F)) (nowMs : UInt64) (hout : h.2 = out ++ h.1.publishState nowMs)
  | same (hview : SameView r h.1) (hready : h.1.topicsReady = r.topicsReady)
      (hout : h.2.filterMap Output.state? = [])

/-- A callback that does nothing has nothing to announce. -/
theorem Announces.unchanged (r : FakeRobot F) : Announces r (r, []) := .same (fun _ => rfl) rfl rfl

/-- An answer is no published state. -/
theorem publishCmdResult_no_state (r : FakeRobot F) (res : CmdResult) :
    (r.publishCmdResult res).filterMap Output.state? = [] := by
  unfold publishCmdResult
  split <;> rfl

/-- A handler that only answers changes nothing. -/
theorem reply_announces (r : FakeRobot F) (res : CmdResult) : Announces r (r.reply res) :=
  .same (fun _ => rfl) rfl (publishCmdResult_no_state r res)

/-- A handler that ends with the new state has announced it. -/
theorem replyAndPublish_announces (q : Request) (r s : FakeRobot F) (res : CmdResult) :
    Announces r (s.replyAndPublish q res) :=
  .last _ q.nowMs rfl

/-! ### The commands -/

/-- A goto announces what it changes, on each of its ways out. -/
theorem taskGoto_announces (q : Request) (taskId : Bytes) (r : FakeRobot F) :
    Announces r (taskGoto C q taskId r) := by
  refine taskGoto_cases (fun _ => reply_announces r _) (fun _ _ => reply_announces r _) ?_
    (fun _ _ _ _ _ _ _ => replyAndPublish_announces q r _ _)
    (fun _ _ _ _ _ _ _ => replyAndPublish_announces q r _ _)
  intro id t hassign _ _ _
  -- The task counter is not shown.
  obtain ⟨n, rfl⟩ := assignTaskId_counter hassign
  exact .same (fun _ => rfl) rfl (publishCmdResult_no_state _ _)

/-- So does every task command. -/
theorem cmdTask_announces (q : Request) (r : FakeRobot F) : Announces r (cmdTask C q r) := by
  refine cmdTask_cases (fun taskId _ => ?_) (fun _ => replyAndPublish_announces q r _ _)
    (fun taskId _ _ => taskGoto_announces q taskId r) (fun taskId _ _ => ?_)
    (fun _ _ _ _ => reply_announces r _)
  · unfold taskPause
    split <;> exact replyAndPublish_announces q r _ _
  · unfold taskResume
    split <;> exact replyAndPublish_announces q r _ _

/-- So does RESET. -/
theorem cmdReset_announces (q : Request) (r : FakeRobot F) : Announces r (cmdReset q r) := by
  unfold cmdReset
  split
  · exact reply_announces r _
  split
  · exact replyAndPublish_announces q r r _
  · exact replyAndPublish_announces q r _ _

/-- So does a change of mode. -/
theorem cmdMode_announces (q : Request) (r : FakeRobot F) : Announces r (cmdMode q r) := by
  unfold cmdMode
  split
  · exact reply_announces r _
  split
  · exact reply_announces r _
  · exact replyAndPublish_announces q r _ _

/-- So does every command. -/
theorem dispatch_announces (q : Request) (r : FakeRobot F) :
    Announces r (dispatch C q r) :=
  dispatch_cases (fun _ => replyAndPublish_announces _ r _ _)
    (fun _ => cmdReset_announces _ r) (fun _ => cmdMode_announces _ r)
    (fun _ => cmdTask_announces _ r) (fun _ => replyAndPublish_announces _ r _ _)
    (fun _ => replyAndPublish_announces _ r _ _) (fun _ => reply_announces r _)

/-! ### One callback -/

/-- So does a tick. -/
theorem tick_announces {now : Int} {nowMs : UInt64} {fuel : Nat} {r : FakeRobot F} {h : Handled F}
    (htick : tick C now nowMs fuel r = some h) : Announces r h := by
  obtain ⟨s, out⟩ := h
  rcases tick_cases htick with ⟨-, rfl, rfl⟩ | ⟨-, moved, -, rfl, rfl⟩
  · exact Announces.unchanged _
  · exact .last _ nowMs rfl

/-- Every callback but the end of a lifecycle phase announces what it has done. -/
theorem handle_announces {r : FakeRobot F} {e : Event} {h : Handled F}
    (hstep : handle C r e = some h) :
    Announces r h ∨ e.call = .deactivate ∧ h.2 = [] ∨ h.1.topicsReady = false := by
  obtain ⟨s, out⟩ := h
  cases handle_cases hstep with
  | configure hc => exact .inl (.last [] e.nowMs rfl)
  | activate now hc => exact .inl (.last [] e.nowMs rfl)
  | deactivate hc =>
      -- The life cycle publishes when it goes up and not when it goes down.
      exact .inr (.inl ⟨hc, rfl⟩)
  | cleanup hc | shutdown hc => exact .inr (.inr rfl)
  | console data hc hready => exact .inl (.last _ e.nowMs rfl)
  | noCmd data hc hready hq => exact .inl (Announces.unchanged _)
  | cmd data q hc hready hq => exact .inl (dispatch_announces q r)
  | tick now fuel s out hc htick => exact .inl (tick_announces htick)

end FakeRobot

open FakeRobot

/-! ### Runs -/

/-- The states that were published in a history, the oldest first. -/
def published (h : Node.History F) : List (FakeRobot F) :=
  h.flatMap fun x => x.2.filterMap Output.state?

/-- The robot was deactivated, and has published no state since then. -/
def Silent (h : Node.History F) : Prop :=
  Since (fun x => x.1.call = .deactivate) (fun x => x.2.filterMap Output.state? = []) h

/-- What a run has published, one callback longer. -/
theorem published_snoc (h : Node.History F) (x : Event × List (Output F)) :
    published (h ++ [x]) = published h ++ x.2.filterMap Output.state? := by
  simp [published]

/-- Publishing sends the state when the publishers are there. -/
theorem publishState_state (nowMs : UInt64) {r : FakeRobot F} (h : r.topicsReady = true) :
    (r.publishState nowMs).filterMap Output.state? = [r] := by
  simp [publishState, h, Output.state?]

/-- **The last state message is current.** In every run, while the robot has its publishers, the
last state that it has published looks as the robot does now, unless the robot was deactivated after
it. -/
theorem published_current {h : Node.History F} {n : Node F} (hrun : Node.Runs C h n)
    (hready : n.robot.topicsReady = true) :
    Silent h ∨ ∃ r, (published h).getLast? = some r ∧ SameView r n.robot := by
  induction hrun with
  | nil => cases hready
  | @snoc h n m e out hrun _ hstep ih =>
      rcases handle_announces (Node.step_handle hstep) with hann | ⟨hdeact, hout⟩ | hdown
      · cases hann with
        | last pre nowMs hout =>
            refine .inr ⟨m.robot, ?_, fun _ => rfl⟩
            rw [published_snoc, show out = _ from hout, List.filterMap_append,
              publishState_state nowMs hready, ← List.append_assoc]
            exact List.getLast?_concat
        | same hview hsame hout =>
            have hquiet : out.filterMap Output.state? = [] := hout
            rcases ih (hsame.symm.trans hready) with hsilent | ⟨r, hlast, hr⟩
            · exact .inl (hsilent.extend hquiet)
            · refine .inr ⟨r, ?_, hr.trans hview⟩
              rw [published_snoc, hquiet, List.append_nil]
              exact hlast
      · exact .inl (Since.start h hdeact)
      · rw [hdown] at hready
        cases hready

/-- The robot is up and a fault is injected. -/
def faultyEvents : List Event :=
  [⟨1, .configure⟩, ⟨2, .activate 0⟩, ⟨3, .console (ascii "\x7b\"online\":true\x7d")⟩,
    ⟨4, .tick 600000000 0⟩, ⟨5, .cmd (ascii "\x7b\"cmd\":\"INJECT_FAULT\"\x7d")⟩]

def publishedRun : Node.History ℚ × Node ℚ :=
  (exec (Node.step Exact.Cost) anyStep Node.init faultyEvents).get (by decide +kernel)

/-- A run that ends in FAULT, and the last state it published. -/
theorem published_current_faulty :
    publishedRun.2.robot.phase = .fault ∧
      (Silent publishedRun.1 ∨ ∃ r, (published publishedRun.1).getLast? = some r ∧
        SameView r publishedRun.2.robot) :=
  ⟨by decide +kernel,
    published_current (C := Exact.Cost) (Run.of_exec (Option.some_get _).symm) (by decide +kernel)⟩

end BotCockpit.Sim
