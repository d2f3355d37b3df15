import BotCockpit.Proofs.Sim.TaskStep

/-!
# `BotCockpit.Proofs.Sim.Resume`: which tasks are resumed

`CMD_TASK` resume looks at six fields, and `task_status_` is not one of them. So it starts a task
that is done, or one that a fault ended and `CLEAR_FAULT` made idle again. It also starts a task
that a deactivation took the motion from, because the phase is `IDLE` again after the start-up
pause. `resume_paused` says that there is no other way to resume a task that is not paused: in a
run where every accepted resume finds an ongoing task, and none of these tasks was disturbed by a
transition before its first pause, all of them are paused.

The step lemmas read `TaskStep`. Between the goto and the resume the task runs or has ended until
it is paused (`TaskStep.running`), and once it has ended it stays so (`TaskStep.ended`).
-/

set_option autoImplicit false

namespace BotCockpit.Sim

open BotCockpit.Lib

variable {F : Type} [CDouble F] {C : Type} [CFloat C]

/-- The entry leaves the current task to the robot. -/
def Entry.Leaves (x : Entry F) : Prop := ¬x.Replaces ∧ x.1.call ≠ .configure

namespace FakeRobot

/-! ### One step -/

/-- A task command other than a goto or a cancel leaves the task. -/
theorem leaves_of_takes {x : Entry F} {type : String} (h : x.Takes type)
    (hgoto : ascii type ≠ ascii "goto") (hcancel : ascii type ≠ ascii "cancel") : x.Leaves := by
  refine ⟨?_, ?_⟩
  · rintro (hx | hx | hx)
    · exact asksTask_ne h.1 hgoto hx.1
    · exact asksTask_ne h.1 hcancel hx.1
    · exact asksTask_not_resets h.1 hx.1
  · obtain ⟨data, hc, -⟩ := h.1
    rw [hc]
    exact Call.noConfusion

/-- An entry that is about no task leaves the pause as it is. -/
theorem NoTask.leaves {x : Entry F} (h : NoTask x) : x.Leaves := by
  refine ⟨?_, fun hc => h.2 (Or.inr hc)⟩
  rintro (hx | hx | hx)
  · exact h.1 _ hx
  · exact h.1 _ hx
  · exact h.2 (Or.inl hx)

/-- A transition is no message. -/
theorem transits_call {x : Entry F} (h : x.Transits) :
    (∀ data, x.1.call ≠ .cmd data) ∧ x.1.call ≠ .configure := by
  rcases h with ⟨now, hc⟩ | hc | hc | hc <;> simp [hc]

/-- So does a change of the life cycle. -/
theorem transits_leaves {x : Entry F} (h : x.Transits) : x.Leaves := by
  obtain ⟨hcmd, hconf⟩ := transits_call h
  exact (noTask_of_call hcmd hconf).leaves

/-- A cancel and whatever forgets the task do not. -/
theorem not_leaves_of_dropped {x : Entry F} (h : x.Takes "cancel" ∨ x.Forgets) : ¬x.Leaves := by
  rintro ⟨hno, hconf⟩
  rcases h with hx | hx | hx
  · exact hno (Or.inr (Or.inl hx))
  · exact hno (Or.inr (Or.inr hx))
  · exact hconf hx

/-- A step of the task keeps the invariant of what is going on. -/
theorem TaskStep.going {x : Entry F} {r s : FakeRobot F} (h : TaskStep x r s) (hg : Going r) :
    Going s := by
  cases h with
  | kept _ hs => exact hs.going hg
  | moved _ hphase _ _ => exact Going.of_still hphase
  | paused _ _ hphase _ => exact Going.of_still hphase
  | resumed _ _ _ _ _ hs => exact hs
  | started _ _ hs => exact hs
  | dropped _ hphase _ => exact Going.of_still hphase

/-- A robot with a task has accepted its goto now, or it had the task before. -/
theorem TaskStep.live {x : Entry F} {r s : FakeRobot F} (h : TaskStep x r s)
    (hid : s.taskId ≠ []) : x.Takes "goto" ∨ r.taskId ≠ [] ∧ x.Leaves := by
  cases h with
  | kept hx hs => exact Or.inr ⟨hs.id ▸ hid, hx.leaves⟩
  | moved hx _ hid' _ => exact Or.inr ⟨hid' ▸ hid, transits_leaves hx⟩
  | paused hx _ _ hid' =>
      exact Or.inr ⟨hid' ▸ hid, leaves_of_takes hx (by decide) (by decide)⟩
  | resumed hx _ hsome _ _ _ => exact Or.inr ⟨hsome, leaves_of_takes hx (by decide) (by decide)⟩
  | started hx _ _ => exact Or.inl hx
  | dropped _ _ hnil => exact absurd hnil hid

/-- An accepted goto leaves the robot running. -/
theorem TaskStep.goto {x : Entry F} {r s : FakeRobot F} (h : TaskStep x r s)
    (hx : x.Takes "goto") : s.phase = .running := by
  cases h with
  | started _ hphase _ => exact hphase
  | kept hno _ => exact absurd hx (hno.1 _)
  | moved hm _ _ _ =>
      obtain ⟨⟨data, hc, -⟩, -⟩ := hx
      exact absurd hc ((transits_call hm).1 data)
  | paused hp _ _ _ => exact absurd hx.1 (asksTask_ne hp.1 (by decide))
  | resumed hr _ _ _ _ _ => exact absurd hx.1 (asksTask_ne hr.1 (by decide))
  | dropped hd _ _ =>
      rcases hd with hd | hd | hd
      · exact absurd hx.1 (asksTask_ne hd.1 (by decide))
      · exact absurd hd.1 (asksTask_not_resets hx.1)
      · obtain ⟨⟨data, hc, -⟩, -⟩ := hx
        rw [hc] at hd
        cases hd

/-- A resume is accepted by an idle robot with a task. -/
theorem TaskStep.resume {x : Entry F} {r s : FakeRobot F} (h : TaskStep x r s)
    (hx : x.Takes "resume") : r.phase = .idle ∧ r.taskId ≠ [] := by
  have hleaves := leaves_of_takes hx (by decide) (by decide)
  cases h with
  | resumed _ hidle hsome _ _ _ => exact ⟨hidle, hsome⟩
  | kept hno _ => exact absurd hx (hno.1 _)
  | moved hm _ _ _ =>
      obtain ⟨⟨data, hc, -⟩, -⟩ := hx
      exact absurd hc ((transits_call hm).1 data)
  | paused hp _ _ _ => exact absurd hx.1 (asksTask_ne hp.1 (by decide))
  | started hg _ _ => exact absurd (Or.inl hg) hleaves.1
  | dropped hd _ _ => exact absurd hleaves (not_leaves_of_dropped hd)

/-- A task that has ended stays ended, unless a resume takes it up. -/
theorem TaskStep.ended {x : Entry F} {r s : FakeRobot F} (h : TaskStep x r s) (hg : Going r)
    (hleaves : x.Leaves) (hresume : x.Takes "resume" → ¬r.Ended) (hr : r.Ended) : s.Ended := by
  cases h with
  | kept _ hs => exact hs.ended hg hr
  | moved _ _ _ hstatus =>
      unfold Ended
      rwa [hstatus]
  | paused _ hrun _ _ => exact absurd hr (hg.not_ended hrun)
  | resumed hx _ _ _ _ _ => exact absurd hr (hresume hx)
  | started hx _ _ => exact absurd (Or.inl hx) hleaves.1
  | dropped hx _ _ => exact absurd hleaves (not_leaves_of_dropped hx)

/-- A task that runs goes on or ends, unless it is paused or a transition comes. -/
theorem TaskStep.running {x : Entry F} {r s : FakeRobot F} (h : TaskStep x r s) (hg : Going r)
    (hleaves : x.Leaves) (hresume : x.Takes "resume" → ¬r.Ended) (hpause : ¬x.Takes "pause")
    (hmove : ¬x.Transits) (hr : r.phase = .running ∨ r.Ended) :
    s.phase = .running ∨ s.Ended := by
  rcases hr with hrun | hend
  · cases h with
    | kept _ hs => exact hs.stop hg hrun
    | moved hx _ _ _ => exact absurd hx hmove
    | paused hx _ _ _ => exact absurd hx hpause
    | resumed _ _ _ hphase _ _ => exact Or.inl hphase
    | started _ hphase _ => exact Or.inl hphase
    | dropped hx _ _ => exact absurd hleaves (not_leaves_of_dropped hx)
  · exact Or.inr (h.ended hg hleaves hresume hend)

end FakeRobot

open FakeRobot

/-! ### The run -/

/-- In every run it holds. -/
theorem Node.Runs.going {h : Node.History F} {n : Node F} (hrun : Node.Runs C h n) :
    Going n.robot :=
  hrun.invariant (P := fun n => Going n.robot) (Going.of_still Phase.noConfusion)
    fun _ _ _ _ hg _ hstep => (handle_taskStep (Node.step_handle hstep)).going hg

/-- A robot with a task has accepted a goto that nothing has replaced. -/
theorem Node.Runs.live {h : Node.History F} {n : Node F} (hrun : Node.Runs C h n)
    (hid : n.robot.taskId ≠ []) :
    Since (fun x : Entry F => x.Takes "goto") (fun x => x.Leaves) h := by
  refine hrun.invariant_history (P := fun h n => n.robot.taskId ≠ [] →
    Since (fun x : Entry F => x.Takes "goto") (fun x => x.Leaves) h) (fun h => absurd rfl h) ?_ hid
  intro h n e m out ih _ hstep hid
  rcases (handle_taskStep (Node.step_handle hstep)).live hid with hx | ⟨hid', hx⟩
  · exact Since.start h hx
  · exact (ih hid').extend hx

/-- In a run where every accepted resume finds an ongoing task, a task that ended stays ended
until it is replaced. -/
theorem ended_onward {pre post : Node.History F} {n m : Node F}
    (hrun : Node.Runs C (pre ++ post) n) (hm : Node.Runs C pre m)
    (hgood : ResumesOngoing C (pre ++ post)) (hleaves : ∀ x : Entry F, x ∈ post → x.Leaves)
    (hend : m.robot.Ended) : n.robot.Ended := by
  refine Run.onward (P := fun n : Node F => n.robot.Ended) hrun
    (fun u hu => hu.det hm ▸ hend) fun mid x u v hpre hu hstep hended => ?_
  refine (handle_taskStep (Node.step_handle hstep)).ended (Node.Runs.going hu)
    (hleaves x (hpre.subset (by simp))) (fun hx => ?_) hended
  refine (hgood (pre ++ mid) x u ?_ hx hu).1
  rw [List.append_assoc]
  exact (List.prefix_append_right_inj pre).mpr hpre

/-- After an accepted goto the task runs or has ended while nothing pauses or disturbs it. -/
theorem running_onward {pre post : Node.History F} {x : Entry F} {n : Node F}
    (hrun : Node.Runs C (pre ++ x :: post) n) (hx : x.Takes "goto")
    (hgood : ResumesOngoing C (pre ++ x :: post))
    (hquiet : ∀ y : Entry F, y ∈ post → y.Leaves ∧ ¬y.Takes "pause" ∧ ¬y.Transits) :
    n.robot.phase = .running ∨ n.robot.Ended := by
  have hassoc : pre ++ x :: post = (pre ++ [x]) ++ post := by simp
  rw [hassoc] at hrun hgood
  refine Run.onward (P := fun n : Node F => n.robot.phase = .running ∨ n.robot.Ended) hrun
    (fun u hu => ?_) fun mid y u v hpre hu hstep hor => ?_
  · obtain ⟨m, -, -, hstep⟩ := Run.snoc_inv (e := x.1) (o := x.2) hu
    exact Or.inl ((handle_taskStep (Node.step_handle hstep)).goto hx)
  · obtain ⟨hleaves, hpause, hmove⟩ := hquiet y (hpre.subset (by simp))
    refine (handle_taskStep (Node.step_handle hstep)).running (Node.Runs.going hu) hleaves
      (fun hy => ?_) hpause hmove hor
    refine (hgood (pre ++ [x] ++ mid) y u ?_ hy hu).1
    rw [List.append_assoc]
    exact (List.prefix_append_right_inj _).mpr hpre

/-- The condition on a run holds on its prefixes. -/
theorem ResumesOngoing.of_prefix {pre h : Node.History F} (hgood : ResumesOngoing C h)
    (hpre : pre <+: h) : ResumesOngoing C pre :=
  fun pre' x m h => hgood pre' x m (h.trans hpre)

/-- A robot that has an ongoing and undisturbed task and does not run is paused. -/
theorem paused_of_ongoing {h : Node.History F} {n : Node F} (hrun : Node.Runs C h n)
    (hgood : ResumesOngoing C h) (hid : n.robot.taskId ≠ []) (hstill : n.robot.phase ≠ .running)
    (hend : ¬n.robot.Ended) (hquiet : Undisturbed h) : TaskPaused C h := by
  obtain ⟨pre, x, post, rfl, hx, hleaves⟩ := hrun.live hid
  have hpause : ∃ y : Entry F, y ∈ post ∧ y.Takes "pause" := by
    by_contra hnone
    have hnone' : ∀ y : Entry F, y ∈ post → ¬y.Takes "pause" := fun y hy hp => hnone ⟨y, hy, hp⟩
    -- Without a pause the goto that nothing disturbed is this one, or an earlier one.
    have hmove : ∀ y : Entry F, y ∈ post → ¬y.Transits := by
      rcases hquiet with ⟨a, g, b, heq, hg, hmove⟩ | ⟨a, p, b, heq, hp, hgoto⟩
      · rcases split_cases heq with ⟨m, rfl⟩ | ⟨-, -, rfl⟩ | ⟨m, rfl⟩
        · exact fun y hy => hmove y (by simp [hy])
        · exact hmove
        · exact absurd (Or.inl hg) (hleaves g (by simp)).1
      · rcases split_cases heq with ⟨m, rfl⟩ | ⟨-, rfl, -⟩ | ⟨m, rfl⟩
        · exact absurd hx (hgoto x (by simp))
        · exact absurd hx.1 (asksTask_ne hp.1 (by decide))
        · exact absurd hp (hnone' p (by simp))
    rcases running_onward hrun hx hgood fun y hy => ⟨hleaves y hy, hnone' y hy, hmove y hy⟩ with
      h | h
    · exact hstill h
    · exact hend h
  obtain ⟨y, hy, hp⟩ := hpause
  obtain ⟨mid, post, rfl⟩ := List.append_of_mem hy
  refine ⟨pre, x, mid, y, post, rfl, hx, hp, fun z hz => (hleaves z hz).1, ?_⟩
  rintro post' m ⟨rest, rfl⟩ hm hended
  -- Had the task ended since the pause, it would still be ended.
  have hassoc : pre ++ x :: (mid ++ y :: (post' ++ rest)) =
      (pre ++ x :: (mid ++ y :: post')) ++ rest := by simp
  rw [hassoc] at hrun hgood
  exact hend (ended_onward hrun hm hgood (fun z hz => hleaves z (by simp [hz])) hended)

/-- **Only a paused task is resumed.** In a run every accepted resume finds a paused task if and
only if every accepted resume finds an ongoing task that no transition disturbed before its first
pause. -/
theorem resume_paused {h : Node.History F} {n : Node F} (hrun : Node.Runs C h n) :
    (∀ pre x, pre ++ [x] <+: h → Entry.Takes x "resume" → TaskPaused C pre) ↔
      ResumesOngoing C h := by
  constructor
  · intro hpaused pre x m hpre hx hm
    obtain ⟨a, g, mid, y, post, rfl, -, hy, hno, hend⟩ := hpaused pre x hpre hx
    refine ⟨hend post m (List.prefix_refl _) hm, Or.inr ⟨a ++ g :: mid, y, post, by simp, hy, ?_⟩⟩
    exact fun z hz hgoto => hno z (by simp [hz]) (Or.inl hgoto)
  · intro hgood pre x hpre hx
    obtain ⟨u, hu⟩ := hrun.of_prefix hpre
    obtain ⟨m, hm, -, hstep⟩ := Run.snoc_inv (e := x.1) (o := x.2) hu
    obtain ⟨hidle, hid⟩ := (handle_taskStep (Node.step_handle hstep)).resume hx
    obtain ⟨hend, hquiet⟩ := hgood pre x m hpre hx hm
    refine paused_of_ongoing hm (hgood.of_prefix ((List.prefix_append _ _).trans hpre)) hid ?_ hend
      hquiet
    rw [hidle]
    exact Phase.noConfusion

/-! ### Two runs with a resume -/

/-- A callback whose answers hold an acceptance accepts. -/
theorem accepted_of_results {e : Event} {out : List (Output F)} {res : CmdResult}
    (h : res ∈ out.filterMap Output.result?) (hok : res.ok = true)
    (hstatus : res.status = .accepted) : Entry.Accepted (e, out) := by
  obtain ⟨o, ho, hres⟩ := List.mem_filterMap.mp h
  cases o with
  | state _ _ => cases hres
  | result res' =>
      obtain rfl := Option.some.inj hres
      exact ⟨res', ho, hok, hstatus⟩

/-- The type that the message of an event has. -/
def Event.type? (e : Event) : Option Bytes :=
  match e.call with
  | .cmd data => extractString data "type"
  | _ => none

/-- The type of a task command is the one in its data. -/
theorem type?_of_asksTask {x : Entry F} {type : String} (h : x.AsksTask type) :
    x.1.type? = some (ascii type) := by
  obtain ⟨data, hc, -, htype⟩ := h
  simp only [Event.type?, hc, htype]

/-- A pause, and a resume. -/
def pauseEvent : Event :=
  ⟨6, .cmd (ascii "\x7b\"seq\":8,\"cmd\":\"CMD_TASK\",\"type\":\"pause\"\x7d")⟩

def resumeEvent : Event :=
  ⟨7, .cmd (ascii "\x7b\"seq\":9,\"cmd\":\"CMD_TASK\",\"type\":\"resume\"\x7d")⟩

/-- The goto is paused. -/
def pausedStep : Node ℚ × List (Output ℚ) :=
  (Node.step Exact.Cost movingNode pauseEvent).get (by decide +kernel)

/-- The goto is driven to its end. -/
def drivenStep : Node ℚ × List (Output ℚ) :=
  (Node.step Exact.Cost movingNode drivingEvent).get step_driving

/-- The resume after the pause. -/
def resumedStep : Node ℚ × List (Output ℚ) :=
  (Node.step Exact.Cost pausedStep.1 resumeEvent).get (by decide +kernel)

/-- The resume after the end. -/
def redoneStep : Node ℚ × List (Output ℚ) :=
  (Node.step Exact.Cost drivenStep.1 resumeEvent).get (by decide +kernel)

def pausedHistory : Node.History ℚ := movingHistory ++ [(pauseEvent, pausedStep.2)]

def drivenHistory : Node.History ℚ := movingHistory ++ [(drivingEvent, drivenStep.2)]

/-- The run with the pause is a run of the node. -/
theorem runs_paused : Node.Runs Exact.Cost pausedHistory pausedStep.1 :=
  Run.snoc runs_moving trivial (Option.some_get _).symm

/-- The run with the motion is a run of the node. -/
theorem runs_driven : Node.Runs Exact.Cost drivenHistory drivenStep.1 :=
  Run.snoc runs_moving trivial (Option.some_get _).symm

example : drivenStep.1.robot.taskStatus = .done := by decide +kernel

/-- The answer to the resume. -/
def resumedAnswer : CmdResult := .accepted 9 (ascii "CMD_TASK") (ascii "A")

/-- The answer to the resume takes it. -/
theorem takes_resume {out : List (Output ℚ)} (h : resumedAnswer ∈ out.filterMap Output.result?) :
    Entry.Takes (resumeEvent, out) "resume" :=
  ⟨⟨_, rfl, by decide +kernel, by decide +kernel⟩, accepted_of_results h rfl rfl⟩

/-- A task that is done is started again. -/
theorem resumed_when_done :
    ∃ (h : Node.History ℚ) (x : Entry ℚ) (n m : Node ℚ), Node.Runs Exact.Cost h n ∧
      Node.Runs Exact.Cost (h ++ [x]) m ∧ x.Takes "resume" ∧ n.robot.taskStatus = .done ∧
      m.robot.phase = .running ∧ ¬TaskPaused Exact.Cost h := by
  have hresume : Entry.Takes (resumeEvent, redoneStep.2) "resume" :=
    takes_resume (by decide +kernel)
  refine ⟨drivenHistory, (resumeEvent, redoneStep.2), drivenStep.1, redoneStep.1, runs_driven,
    Run.snoc runs_driven trivial (Option.some_get _).symm, hresume, by decide +kernel,
    by decide +kernel, ?_⟩
  rintro ⟨pre, x, mid, y, post, heq, -, hy, -⟩
  have hmem : y.1 ∈ drivenHistory.map (fun x => x.1) := by
    rw [heq]
    exact List.mem_map_of_mem (by simp)
  have hno : ∀ e ∈ drivenHistory.map (fun x => x.1), e.type? ≠ some (ascii "pause") := by
    decide +kernel
  exact hno y.1 hmem (type?_of_asksTask hy.1)

/-- The paused task is resumed, and it was the only resume. -/
theorem resume_paused_once : TaskPaused Exact.Cost pausedHistory := by
  have hrun : Node.Runs Exact.Cost (pausedHistory ++ [(resumeEvent, resumedStep.2)])
    resumedStep.1 :=
    Run.snoc runs_paused trivial (Option.some_get _).symm
  have hno : ∀ e ∈ pausedHistory.map (fun x => x.1), e.type? ≠ some (ascii "resume") := by
    decide +kernel
  have hpause : Entry.Takes (pauseEvent, pausedStep.2) "pause" := by
    have hanswer : CmdResult.accepted 8 (ascii "CMD_TASK") (ascii "A") ∈
        pausedStep.2.filterMap Output.result? := by decide +kernel
    exact ⟨⟨_, rfl, by decide +kernel, by decide +kernel⟩, accepted_of_results hanswer rfl rfl⟩
  have hgood : ResumesOngoing Exact.Cost (pausedHistory ++ [(resumeEvent, resumedStep.2)]) := by
    intro pre x m hpre hx hm
    rcases List.prefix_concat_iff.mp hpre with heq | hpre
    · obtain ⟨rfl, -⟩ := List.append_inj' heq rfl
      obtain rfl := hm.det runs_paused
      have hstatus : pausedStep.1.robot.taskStatus = .accepted := by decide +kernel
      exact ⟨by simp [Ended, hstatus], Or.inr (Since.start movingHistory hpause)⟩
    · have hmem : x ∈ pausedHistory := hpre.subset (by simp)
      exact absurd (type?_of_asksTask hx.1) (hno x.1 (List.mem_map_of_mem hmem))
  exact (resume_paused hrun).mpr hgood pausedHistory (resumeEvent, resumedStep.2)
    (List.prefix_refl _) (takes_resume (by decide +kernel))

end BotCockpit.Sim
