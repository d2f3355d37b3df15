import BotCockpit.Ui.RobotState
import Mathlib.Data.List.Induction

/-!
# `BotCockpit.Proofs.Ui.ResetRemote`: what a reset of the console forgets

`resetRemote` lists the members it puts back, and five of those that `applyState` writes are not on
the list: the faults, and the status, the goal and the tracking error of the navigation. Such a
member holds what the last message about it said, however many resets came in between
(`faultsList_after`, `navStatus_after`, `navGoal_after`, `trackErr_after`).

`reset_forgets` says after which messages a reset leaves a console that is as good as new, and when
the number of faults is the length of their list.
-/

set_option autoImplicit false

namespace BotCockpit.Ui

open BotCockpit.Lib

variable {F : Type} [CDouble F] [QVariants F]

/-- What happens to the robot side of the console. -/
inductive Update where
  | apply (map : Json)
  | reset

namespace Update

def step (u : RobotState F) : Update → RobotState F
  | .apply map => u.applyState map
  | .reset => u.resetRemote

/-- The console after the updates, from a new one on. -/
def after (F : Type) [CDouble F] [QVariants F] (us : List Update) : RobotState F := us.foldl step {}

/-- The list of faults that a message has. -/
def faults? : Update → Option (List Json)
  | .apply map =>
      match value map "faults" with
      | .arr items => some items
      | _ => none
  | .reset => none

/-- The number of faults after an update. -/
def count (old : Nat) : Update → Nat
  | .apply map => ((faults? (.apply map)).map List.length).getD old
  | .reset => 0

/-- The navigation that a message has. -/
def nav? : Update → Option Json
  | .apply map =>
      match value map "nav" with
      | .obj fields => some (.obj fields)
      | _ => none
  | .reset => none

/-- The tracking error after a message: an equal one is not taken over. -/
def heldError (err : F) (nav : Json) : F :=
  if (toNumber (value nav "track_err") : F) == err then err else toNumber (value nav "track_err")

/-- The status that the console shows for a navigation. -/
def shownStatus (F : Type) [QVariants F] (nav : Json) : Bytes :=
  if toText F (value nav "status") = [] then ascii "IDLE" else toText F (value nav "status")

/-- The goal of a navigation. -/
def goal (F : Type) [CDouble F] [QVariants F] (nav : Json) : F × F :=
  (toNumber (value (value nav "goal") "x"), toNumber (value (value nav "goal") "y"))

/-- The last list of faults that came. -/
def lastFaults (us : List Update) : Option (List Json) := (us.filterMap faults?).getLast?

/-- The last navigation that came. -/
def lastNav (us : List Update) : Option Json := (us.filterMap nav?).getLast?

/-- The last list of faults was empty, the last navigation was that of a robot without a task, at
the origin of the goals, and its tracking error is zero. -/
structure Forgettable (F : Type) [CDouble F] [QVariants F] (us : List Update) : Prop where
  faults : ∀ items ∈ lastFaults us, items = []
  status : ∀ nav ∈ lastNav us, shownStatus F nav = ascii "IDLE"
  goal : ∀ nav ∈ lastNav us, goal F nav = (0.0, 0.0)
  error : (us.filterMap nav?).foldl heldError (0.0 : F) = 0.0

/-- A reset that no list of faults has followed came after an empty one, or after none. -/
def Counted (us : List Update) : Prop :=
  ∀ pre post, us = pre ++ .reset :: post → post.filterMap faults? = [] →
    ∀ items ∈ lastFaults pre, items = []

end Update

namespace RobotState

open Update

/-! ### One message -/

/-- The members that a reset keeps, of those a message writes, the flag of the link, and the number
of faults. -/
def leftover (u : RobotState F) : Bool × List Json × Bytes × F × F × F × Nat :=
  (u.connected, u.faultsList, u.navStatus, u.navGoalX, u.navGoalY, u.trackErr, u.faultCount)

/-- The groups in front of the faults and the navigation write none of them. -/
theorem leftover_groups (map : Json) (u : RobotState F) :
    (applyTask map (applyLiveness map (applyBattery map
      (applyPose map (applyFlags map u))))).leftover = u.leftover := by
  have hpose : ∀ u : RobotState F, (applyPose map u).leftover = u.leftover := by
    intro u
    unfold applyPose
    split
    · dsimp only
      split <;> rfl
    · rfl
  have hbattery : ∀ u : RobotState F, (applyBattery map u).leftover = u.leftover := by
    intro u
    unfold applyBattery
    dsimp only
    split <;> rfl
  have htask : ∀ u : RobotState F, (applyTask map u).leftover = u.leftover := by
    intro u
    unfold applyTask
    split <;> rfl
  rw [htask]
  show (applyBattery map (applyPose map (applyFlags map u))).leftover = _
  rw [hbattery, hpose]
  rfl

/-- What the reset leaves over, after the faults of a message. -/
theorem leftover_applyFaults (map : Json) (u : RobotState F) :
    (applyFaults map u).leftover =
      (u.connected, (faults? (.apply map)).getD u.faultsList, u.navStatus, u.navGoalX, u.navGoalY,
        u.trackErr, count u.faultCount (.apply map)) := by
  unfold applyFaults count faults?
  dsimp only
  cases value map "faults" <;> rfl

/-- The same after its navigation fields. -/
theorem leftover_applyNav (map : Json) (u : RobotState F) :
    (applyNav map u).leftover =
      match nav? (.apply map) with
      | none => u.leftover
      | some nav =>
          (u.connected, u.faultsList, shownStatus F nav, (goal F nav).1, (goal F nav).2,
            heldError u.trackErr nav, u.faultCount) := by
  unfold applyNav nav?
  dsimp only
  cases value map "nav" <;> rfl

/-- What one update does to the leftover. A reset does nothing. -/
theorem leftover_step (u : RobotState F) (e : Update) :
    (e.step u).leftover =
      (u.connected, e.faults?.getD u.faultsList, (e.nav?.map (shownStatus F)).getD u.navStatus,
        (e.nav?.map fun nav => (goal F nav).1).getD u.navGoalX,
        (e.nav?.map fun nav => (goal F nav).2).getD u.navGoalY,
        e.nav?.elim u.trackErr (heldError u.trackErr), e.count u.faultCount) := by
  cases e with
  | reset => rfl
  | apply map =>
      obtain ⟨v, hbefore, hgroups⟩ : ∃ v : RobotState F, v.leftover = u.leftover ∧
          applyState map u = applyNav map (applyFaults map v) := ⟨_, leftover_groups map u, rfl⟩
      have hfaults := leftover_applyFaults map v
      simp only [leftover, Prod.mk.injEq] at hbefore hfaults
      obtain ⟨hlink, hlist, hstatus, hx, hy, herr, hcount⟩ := hfaults
      obtain ⟨hlink', hlist', hstatus', hx', hy', herr', hcount'⟩ := hbefore
      show (applyState map u).leftover = _
      rw [hgroups, leftover_applyNav]
      cases nav? (.apply map) <;>
        simp [leftover, hlink, hlist, hstatus, hx, hy, herr, hcount, hlink', hlist', hstatus', hx',
          hy',
          herr', hcount']

/-! ### All messages -/

/-- The state after one more update. -/
theorem after_snoc (us : List Update) (e : Update) :
    after F (us ++ [e]) = e.step (after F us) := by
  simp [after, List.foldl_append]

/-- A member that each update either sets or leaves has the value of the last update that sets
it. -/
theorem last_of_step {α β : Type} (f : RobotState F → β) (g : Update → Option α) (val : α → β)
    (hstep : ∀ u e, f (Update.step u e) = ((g e).map val).getD (f u)) (us : List Update) :
    f (after F us) = (((us.filterMap g).getLast?).map val).getD (f {}) := by
  induction us using List.reverseRecOn with
  | nil => rfl
  | append_singleton us e ih =>
      rw [after_snoc, hstep, ih, List.filterMap_append]
      cases hg : g e with
      | none => simp [hg]
      | some a => simp [hg]

/-- The list of faults is that of the last message with one. -/
theorem faultsList_after (us : List Update) :
    (after F us).faultsList = (lastFaults us).getD [] := by
  have h := last_of_step (F := F) faultsList faults? id
    (fun u e => by
      rw [Option.map_id]
      exact congrArg (fun t => t.2.1) (leftover_step u e)) us
  rw [Option.map_id] at h
  exact h

/-- The navigation's state is that of the last message with one. -/
theorem navStatus_after (us : List Update) :
    (after F us).navStatus = ((lastNav us).map (shownStatus F)).getD (ascii "IDLE") :=
  last_of_step navStatus nav? (shownStatus F)
    (fun u e => congrArg (fun t => t.2.2.1) (leftover_step u e)) us

/-- So is the goal. -/
theorem navGoal_after (us : List Update) :
    ((after F us).navGoalX, (after F us).navGoalY) =
    ((lastNav us).map (goal F)).getD (0.0, 0.0) := by
  refine last_of_step (fun u => (u.navGoalX, u.navGoalY)) nav? (goal F) (fun u e => ?_) us
  have hx := congrArg (fun t => t.2.2.2.1) (leftover_step u e)
  have hy := congrArg (fun t => t.2.2.2.2.1) (leftover_step u e)
  refine Prod.ext (hx.trans ?_) (hy.trans ?_) <;> cases nav? e <;> rfl

/-- The tracking error is folded over the messages. -/
theorem trackErr_after (us : List Update) :
    (after F us).trackErr = (us.filterMap nav?).foldl heldError 0.0 := by
  induction us using List.reverseRecOn with
  | nil => rfl
  | append_singleton us e ih =>
      have h := congrArg (fun t => t.2.2.2.2.2.1) (leftover_step (after F us) e)
      rw [after_snoc, List.filterMap_append, List.foldl_append, ← ih]
      refine h.trans ?_
      cases hn : nav? e <;> simp [hn]

/-- No update connects. -/
theorem connected_after (us : List Update) : (after F us).connected = false := by
  induction us using List.reverseRecOn with
  | nil => rfl
  | append_singleton us e ih =>
      rw [after_snoc]
      exact (congrArg (fun t => t.1) (leftover_step (after F us) e)).trans ih

/-! ### What a reset leaves -/

omit [QVariants F] in
/-- When the reset leaves what a new record has. -/
theorem resetRemote_eq_new {u : RobotState F} (h : u.connected = false) :
    u.resetRemote = {} ↔ u.faultsList = [] ∧ u.navStatus = ascii "IDLE" ∧
      (u.navGoalX, u.navGoalY) = (0.0, 0.0) ∧ u.trackErr = 0.0 := by
  -- A reset keeps these members, and the link.
  have hkept : u.resetRemote =
      { connected := u.connected, faultsList := u.faultsList, navStatus := u.navStatus,
        navGoalX := u.navGoalX, navGoalY := u.navGoalY, trackErr := u.trackErr } := rfl
  rw [hkept, mk.injEq]
  simp [h, and_assoc]

/-- The count of the faults, one update longer. -/
theorem counted_snoc (us : List Update) (e : Update) :
    Counted (us ++ [e]) ↔
      (e = .reset → ∀ items ∈ lastFaults us, items = []) ∧ (e.faults? = none → Counted us) := by
  constructor
  · intro h
    refine ⟨fun he => h us [] (by rw [he]) rfl, fun hf pre post hus hpost => ?_⟩
    refine h pre (post ++ [e]) ?_ ?_
    · rw [hus, List.append_assoc]
      rfl
    · rw [List.filterMap_append, hpost]
      simp [hf]
  · rintro ⟨hreset, hcounted⟩ pre post heq hpost
    rcases List.eq_nil_or_concat post with rfl | ⟨post', x, rfl⟩
    · obtain ⟨rfl, he⟩ := List.append_inj' heq rfl
      exact hreset (List.singleton_inj.mp he)
    · rw [List.concat_eq_append] at heq hpost
      have hcut : us ++ [e] = (pre ++ .reset :: post') ++ [x] := by
        rw [heq, List.append_assoc]
        rfl
      obtain ⟨hus, he⟩ := List.append_inj' hcut rfl
      rw [List.filterMap_append, List.append_eq_nil_iff] at hpost
      rw [← he] at hpost
      exact hcounted (by simpa using hpost.2) pre post' hus hpost.1

/-- No reset matters after an empty list of faults. -/
theorem counted_of_lastFaults {us : List Update} (h : ∀ items ∈ lastFaults us, items = []) :
    Counted us := by
  rintro pre post rfl hpost
  have hlast : lastFaults (pre ++ .reset :: post) = lastFaults pre := by
    have hreset : (Update.reset :: post).filterMap faults? = [] := hpost
    rw [lastFaults, List.filterMap_append, hreset, List.append_nil]
    rfl
  rwa [hlast] at h

/-- The number of faults is the length of the list where it is the list that was counted. -/
theorem faultCount_iff (us : List Update) :
    (after F us).faultCount = (after F us).faultsList.length ↔ Counted us := by
  induction us using List.reverseRecOn with
  | nil => exact ⟨fun _ pre post h => by simp at h, fun _ => rfl⟩
  | append_singleton us e ih =>
      have hcount := congrArg (fun t => t.2.2.2.2.2.2) (leftover_step (after F us) e)
      have hlist := congrArg (fun t => t.2.1) (leftover_step (after F us) e)
      rw [counted_snoc, after_snoc, show (e.step (after F us)).faultCount = _ from hcount,
        show (e.step (after F us)).faultsList = _ from hlist]
      cases e with
      | reset =>
          -- The count is zero and the list stays.
          show 0 = (after F us).faultsList.length ↔ _
          rw [faultsList_after]
          constructor
          · intro h
            have hlast : ∀ items ∈ lastFaults us, items = [] := by
              intro items hitems
              rw [hitems] at h
              exact List.length_eq_zero_iff.mp h.symm
            exact ⟨fun _ => hlast, fun _ => counted_of_lastFaults hlast⟩
          · rintro ⟨h, -⟩
            cases hlast : lastFaults us with
            | none => rfl
            | some items => simp [h rfl items hlast]
      | apply map =>
          cases hf : faults? (.apply map) with
          | none => simpa [count, hf] using ih
          | some items => simp [count, hf]

end RobotState

end BotCockpit.Ui
