import BotCockpit.Lib.Exact
import BotCockpit.Proofs.Ui.Liveness
import BotCockpit.Spec.Delta

/-!
# `BotCockpit.Proofs.Ui.Delta`: when a delta overlays the message before it

`applyState` reads seven parts of a message, and what it does to the console is one step for each
part (`applyPose_eq` and so on). A step for an absent key does nothing, so after two messages the
law can fail only at a key of the second one (`next_overlay`). Whether there is a robot is not held
at all: it is read off each message alone.
-/

set_option autoImplicit false

namespace BotCockpit.Ui

open BotCockpit.Lib

/-! ### Overlays -/

/-- A key of the overlay is the delta's when it has one. -/
theorem find?_overlay (S D : Json) (key : String) :
    (overlay S D).find? key = (D.find? key).or (S.find? key) := by
  simp [overlay, Json.find?, Json.fields, List.lookup_append]

/-- A step that does nothing for an absent key can tell two messages from their overlay only when
the second one has the key. -/
theorem next_overlay {α : Type} (next : α → Option Json → α) (hnone : ∀ a, next a none = a)
    (S D : Option Json) (a : α) :
    next (next a S) D = next a (D.or S) ↔
      ∀ t ∈ D, next (next a S) (some t) = next a (some t) := by
  cases D with
  | none => simp [hnone]
  | some t => simp

/-- Keeping a value over itself changes nothing. -/
theorem keep_self {α : Type} (near : α → α → Prop) [DecidableRel near] (a : α) :
    keep near a a = a := ite_self a

/-- What is kept of an old value. -/
theorem keep_keep_iff {α : Type} (near : α → α → Prop) [DecidableRel near] (old mid new : α) :
    keep near (keep near old mid) new = keep near old new ↔ Unseen near old mid new := by
  unfold Unseen
  by_cases hmid : near old mid
  · simp [keep, hmid]
  have hkeep : keep near old mid = mid := if_neg hmid
  rw [hkeep]
  unfold keep
  -- Whether the new value is taken, over the middle one and over the old one.
  by_cases h1 : near mid new <;> by_cases h2 : near old new
  · simp only [h1, h2, hmid, if_true, true_imp_iff, false_or]
    constructor
    · exact fun h => .inl h
    · rintro (h | ⟨h, h'⟩)
      · exact h
      · exact h.trans h'.symm
  · simp only [h1, h2, hmid, if_true, if_false, true_imp_iff, false_imp_iff, and_true, false_or]
    constructor
    · exact fun h => .inr h
    · rintro (rfl | h)
      · exact absurd h1 h2
      · exact h
  · simp only [h1, h2, hmid, if_true, if_false, true_imp_iff, false_imp_iff, true_and, false_or]
    constructor
    · exact fun h => .inr h.symm
    · rintro (rfl | h)
      · exact absurd h2 h1
      · exact h.symm
  · simp [h1, h2]

namespace RobotState

variable {F : Type} [CDouble F] [QVariants F]

/-! ### The steps of `applyState` -/

def nextText (F : Type) [QVariants F] (old : Bytes) (v : Option Json) : Bytes :=
  v.elim old (toText F)

def nextPose (old : F × F × F) : Option Json → F × F × F
  | none => old
  | some t => if isMap t then keep NearPose old (posed t old) else old

def nextBattery (old : F) (v : Option Json) : F :=
  v.elim old fun t => keep NearBattery old (toNumber t)

def nextTask (F : Type) [QVariants F] (old : Bytes × Bytes × Bytes) (v : Option Json) :
    Bytes × Bytes × Bytes :=
  v.elim old fun t =>
    (nextText F old.1 (t.find? "id"), nextText F old.2.1 (t.find? "type"),
      nextText F old.2.2 (t.find? "status"))

def nextFaults (F : Type) [QVariants F] (old : Nat × Bytes × List Json) :
    Option Json → Nat × Bytes × List Json
  | some (.arr items) => faultsOf F items
  | _ => old

def nextNav (old : Bytes × Int × Int × List (F × F) × List F × F × F) (v : Option Json) :
    Bytes × Int × Int × List (F × F) × List F × F × F :=
  v.elim old fun t => if isMap t then navOf t else old

def nextErr (old : F) (v : Option Json) : F :=
  v.elim old fun t => if isMap t then keep NearErr old (errOf t) else old

def nextTrail (old : List (F × F) × List F) (v : Option Json) : List (F × F) × List F :=
  v.elim old fun t => if isMap t then keep NearTrail old (trailOf t) else old

def taskView (u : RobotState F) : Bytes × Bytes × Bytes := (u.taskId, u.taskType, u.taskStatus)

/-- The pose after a message, by its `pose`. -/
theorem applyPose_eq (map : Json) (u : RobotState F) :
    applyPose map u =
      { u with
        poseX := (nextPose u.poseView (map.find? "pose")).1
        poseY := (nextPose u.poseView (map.find? "pose")).2.1
        poseYaw := (nextPose u.poseView (map.find? "pose")).2.2 } := by
  unfold applyPose value
  cases map.find? "pose" with
  | none => rfl
  | some t =>
      cases t with
      | obj fields =>
          have hnear : NearPose u.poseView (posed (.obj fields) u.poseView) ↔
              (numberOr (.obj fields) "x" u.poseX == u.poseX &&
                numberOr (.obj fields) "y" u.poseY == u.poseY &&
                numberOr (.obj fields) "yaw" u.poseYaw == u.poseYaw) = true := by
            simp only [NearPose, posed, poseView, Bool.and_eq_true, and_assoc]
          by_cases h : NearPose u.poseView (posed (.obj fields) u.poseView)
          · simp only [Option.getD_some, nextPose, isMap, if_true, keep, h, hnear.mp h]
            rfl
          · have hcode := Bool.eq_false_iff.mpr (mt hnear.mpr h)
            simp only [Option.getD_some, nextPose, isMap, if_true, keep, h, hcode, if_false]
            rfl
      | _ => rfl

/-- The battery after a message, by its `battery`. -/
theorem applyBattery_eq (map : Json) (u : RobotState F) :
    applyBattery map u = { u with battery := nextBattery u.battery (map.find? "battery") } := by
  unfold applyBattery value contains nextBattery keep NearBattery
  cases map.find? "battery" with
  | none => rfl
  | some t =>
      simp only [Option.isSome_some, Option.getD_some, true_and, Option.elim_some]
      split <;> simp_all

/-- The task after a message, by its `task`. -/
theorem applyTask_eq (map : Json) (u : RobotState F) :
    applyTask map u =
      { u with
        taskId := (nextTask F u.taskView (map.find? "task")).1
        taskType := (nextTask F u.taskView (map.find? "task")).2.1
        taskStatus := (nextTask F u.taskView (map.find? "task")).2.2 } := by
  have htext : ∀ (t : Json) (key : String) (old : Bytes),
      (match t.find? key with | none => old | some v => toText F v) =
        nextText F old (t.find? key) := by
    intro t key old
    cases t.find? key <;> rfl
  unfold applyTask value
  cases map.find? "task" with
  | none => rfl
  | some t =>
      cases t with
      | obj fields =>
          simp only [Option.getD_some, nextTask, Option.elim_some, ← htext]
          rfl
      | _ => rfl

/-- The faults after a message, by its `faults`. -/
theorem applyFaults_eq (map : Json) (u : RobotState F) :
    applyFaults map u =
      { u with
        faultCount := (nextFaults F u.faultsView (map.find? "faults")).1
        faultsSummary := (nextFaults F u.faultsView (map.find? "faults")).2.1
        faultsList := (nextFaults F u.faultsView (map.find? "faults")).2.2 } := by
  unfold applyFaults value
  cases map.find? "faults" with
  | none => rfl
  | some t => cases t <;> rfl

omit [QVariants F] in
/-- A trail is taken over when it is dirty. -/
theorem keep_trail (old new : List (F × F) × List F) :
    keep NearTrail old new =
      (if new.1.length != old.1.length || !(new.2 == old.2) then new.1 else old.1,
        if new.1.length != old.1.length || !(new.2 == old.2) then new.2 else old.2) := by
  unfold keep NearTrail
  by_cases hlength : new.1.length = old.1.length <;> by_cases hflat : (new.2 == old.2) = true <;>
    simp [hlength, hflat]

/-- The navigation fields after a message, by its `nav`. -/
theorem applyNav_eq (map : Json) (u : RobotState F) :
    applyNav map u =
      { u with
        navStatus := (nextNav u.navView (map.find? "nav")).1
        navPathLen := (nextNav u.navView (map.find? "nav")).2.1
        navIdx := (nextNav u.navView (map.find? "nav")).2.2.1
        navPath := (nextNav u.navView (map.find? "nav")).2.2.2.1
        navPathFlat := (nextNav u.navView (map.find? "nav")).2.2.2.2.1
        navGoalX := (nextNav u.navView (map.find? "nav")).2.2.2.2.2.1
        navGoalY := (nextNav u.navView (map.find? "nav")).2.2.2.2.2.2
        trackErr := nextErr u.trackErr (map.find? "nav")
        navTrail := (nextTrail u.trailView (map.find? "nav")).1
        navTrailFlat := (nextTrail u.trailView (map.find? "nav")).2 } := by
  unfold applyNav value
  cases map.find? "nav" with
  | none => rfl
  | some t =>
      cases t with
      | obj fields =>
          have htrail := keep_trail u.trailView (trailOf (.obj fields))
          simp only [Option.getD_some, nextErr, nextTrail, nextNav, Option.elim_some, isMap,
            if_true,
            htrail]
          rfl
      | _ => rfl

/-- What a message does to the console, part by part. -/
theorem applyState_eq (map : Json) (u : RobotState F) :
    applyState map u =
      { applyLiveness map (applyFlags map u) with
        poseX := (nextPose u.poseView (map.find? "pose")).1
        poseY := (nextPose u.poseView (map.find? "pose")).2.1
        poseYaw := (nextPose u.poseView (map.find? "pose")).2.2
        battery := nextBattery u.battery (map.find? "battery")
        taskId := (nextTask F u.taskView (map.find? "task")).1
        taskType := (nextTask F u.taskView (map.find? "task")).2.1
        taskStatus := (nextTask F u.taskView (map.find? "task")).2.2
        faultCount := (nextFaults F u.faultsView (map.find? "faults")).1
        faultsSummary := (nextFaults F u.faultsView (map.find? "faults")).2.1
        faultsList := (nextFaults F u.faultsView (map.find? "faults")).2.2
        navStatus := (nextNav u.navView (map.find? "nav")).1
        navPathLen := (nextNav u.navView (map.find? "nav")).2.1
        navIdx := (nextNav u.navView (map.find? "nav")).2.2.1
        navPath := (nextNav u.navView (map.find? "nav")).2.2.2.1
        navPathFlat := (nextNav u.navView (map.find? "nav")).2.2.2.2.1
        navGoalX := (nextNav u.navView (map.find? "nav")).2.2.2.2.2.1
        navGoalY := (nextNav u.navView (map.find? "nav")).2.2.2.2.2.2
        trackErr := nextErr u.trackErr (map.find? "nav")
        navTrail := (nextTrail u.trailView (map.find? "nav")).1
        navTrailFlat := (nextTrail u.trailView (map.find? "nav")).2 } := by
  unfold applyState
  simp only [applyNav_eq, applyFaults_eq, applyTask_eq, applyBattery_eq, applyPose_eq]
  rfl

/-! ### The views -/

/-- The flags of a message, and its time. -/
def flagsView (u : RobotState F) : Bool × Bytes × Bytes × Bytes × Bool × Bool × Int :=
  (u.connected, u.conn, u.mode, u.phase, u.estop, u.controlEnabled, u.stateTsMs)

omit [QVariants F] in
/-- A console is what its views are. -/
theorem eq_iff_views (u v : RobotState F) :
    u = v ↔ u.flagsView = v.flagsView ∧ u.hasRobotState = v.hasRobotState ∧
      u.poseView = v.poseView ∧ u.battery = v.battery ∧ u.taskView = v.taskView ∧
      u.faultsView = v.faultsView ∧ u.navView = v.navView ∧ u.trackErr = v.trackErr ∧
      u.trailView = v.trailView := by
  constructor
  · rintro rfl
    simp
  · cases u
    cases v
    simp only [flagsView, poseView, taskView, faultsView, navView, trailView, Prod.mk.injEq,
      mk.injEq]
    tauto

/-- The flags that two messages leave are those of their overlay. -/
theorem flagsView_overlay (u : RobotState F) (S D : Json) :
    (applyState D (applyState S u)).flagsView = (applyState (overlay S D) u).flagsView := by
  have htext : ∀ (key : String) (old : Bytes),
      (if contains D key then toText F (value D key)
        else if contains S key then toText F (value S key) else old) =
      if contains (overlay S D) key then toText F (value (overlay S D) key) else old := by
    intro key old
    unfold contains value
    rw [find?_overlay]
    cases D.find? key <;> rfl
  have hflag : ∀ (key : String) (old : Bool),
      (if contains D key then toBool (value D key)
        else if contains S key then toBool (value S key) else old) =
      if contains (overlay S D) key then toBool (value (overlay S D) key) else old := by
    intro key old
    unfold contains value
    rw [find?_overlay]
    cases D.find? key <;> rfl
  have htime : ∀ old : Int,
      (if contains D "ts_ms" then toLongLong F (value D "ts_ms")
        else if contains S "ts_ms" then toLongLong F (value S "ts_ms") else old) =
      if contains (overlay S D) "ts_ms" then toLongLong F (value (overlay S D) "ts_ms")
      else old := by
    intro old
    unfold contains value
    rw [find?_overlay]
    cases D.find? "ts_ms" <;> rfl
  simp only [applyState_eq, flagsView, applyLiveness, applyFlags, Prod.mk.injEq]
  exact ⟨trivial, htext _ _, htext _ _, htext _ _, hflag _ _, hflag _ _, htime _⟩

omit [CDouble F] in
/-- A text that is not empty is there. -/
theorem contains_of_toText {map : Json} {key : String} {s : Bytes} (hs : s ≠ [])
    (h : toText F (value map key) = s) : contains map key := by
  unfold contains
  unfold value at h
  cases hfind : map.find? key with
  | none =>
      rw [hfind] at h
      exact absurd h.symm hs
  | some t => rfl

omit [CDouble F] in
/-- Whether there is a robot is read off the last message. -/
theorem robotState_iff (map : Json) : robotState F map = true ↔ FromRobot F map := by
  have hconn : toText F (value map "conn") = ascii "OFFLINE" → contains map "conn" :=
    contains_of_toText (by decide)
  have hphase : toText F (value map "phase") = ascii "BOOT" → contains map "phase" :=
    contains_of_toText (by decide)
  unfold robotState FromRobot
  cases toBool (value map "control_enabled")
  · by_cases h1 : toText F (value map "conn") = ascii "OFFLINE"
    · simp [h1, hconn h1]
    · by_cases h2 : toText F (value map "phase") = ascii "BOOT"
      · simp [h1, h2, hphase h2]
      · simp [h1, h2, or_assoc]
  · simp [or_assoc]

/-! ### The law, part by part -/

/-- A number that is read twice is read once. -/
theorem numberOr_numberOr (t : Json) (key : String) (old : F) :
    numberOr t key (numberOr t key old) = numberOr t key old := by
  unfold numberOr
  cases t.find? key <;> rfl

/-- A value says the same about a pose that it has been said about. -/
theorem posed_keep (t : Json) (p : F × F × F) :
    posed t (keep NearPose p (posed t p)) = posed t p := by
  unfold keep
  split
  · rfl
  · simp only [posed, numberOr_numberOr]

/-- A value that is no map has no numbers. -/
theorem nextPose_some (p : F × F × F) (t : Json) :
    nextPose p (some t) = keep NearPose p (posed t p) := by
  cases t with
  | obj fields => rfl
  | _ => exact (keep_self NearPose p).symm

/-- The pose after the snapshot. -/
theorem nextPose_eq (p : F × F × F) (S : Json) :
    nextPose p (S.find? "pose") = keep NearPose p (posed (value S "pose") p) := by
  unfold value
  cases S.find? "pose" with
  | none => exact (keep_self NearPose p).symm
  | some t => exact nextPose_some p t

/-- When the pose after both messages is that of the overlay. -/
theorem pose_overlay (p : F × F × F) (S D : Json) :
    nextPose (nextPose p (S.find? "pose")) (D.find? "pose") =
      nextPose p ((overlay S D).find? "pose") ↔
      ∀ t ∈ D.find? "pose",
        NearPose p (posed (value S "pose") p) ∨
          posed t (posed (value S "pose") p) = posed t p ∧
            Unseen NearPose p (posed (value S "pose") p) (posed t p) := by
  rw [find?_overlay, next_overlay nextPose fun _ => rfl]
  refine forall₂_congr fun t _ => ?_
  rw [nextPose_eq p S]
  rw [nextPose_some, nextPose_some]
  generalize posed (value S "pose") p = s
  by_cases hnear : NearPose p s
  · simp [keep, hnear]
  · have hkeep : keep NearPose p s = s := if_neg hnear
    rw [hkeep]
    constructor
    · intro h
      -- The two poses have in common what `t` says nothing about.
      have hsaid : posed t s = posed t p := by
        rw [← posed_keep t s, h, posed_keep]
      refine .inr ⟨hsaid, ?_⟩
      rw [← keep_keep_iff, hkeep, ← h, hsaid]
    · rintro (h | ⟨hsaid, h⟩)
      · exact absurd h hnear
      · rw [hsaid]
        rw [← keep_keep_iff, hkeep] at h
        exact h

/-- When the battery is. -/
theorem battery_overlay (b : F) (S D : Json) :
    nextBattery (nextBattery b (S.find? "battery")) (D.find? "battery") =
        nextBattery b ((overlay S D).find? "battery") ↔
      ∀ t ∈ D.find? "battery", Unseen NearBattery b (numberOr S "battery" b) (toNumber t) := by
  rw [find?_overlay, next_overlay nextBattery fun _ => rfl]
  refine forall₂_congr fun t _ => ?_
  rw [← keep_keep_iff]
  unfold numberOr nextBattery
  cases S.find? "battery" with
  | none =>
      dsimp only
      rw [keep_self]
      rfl
  | some v => rfl

/-- When the task is. -/
theorem task_overlay (F : Type) [QVariants F] (old : Bytes × Bytes × Bytes) (S D : Json) :
    nextTask F (nextTask F old (S.find? "task")) (D.find? "task") =
        nextTask F old ((overlay S D).find? "task") ↔
      ∀ t ∈ D.find? "task",
        Silent F t (value S "task") "id" old.1 ∧ Silent F t (value S "task") "type" old.2.1 ∧
          Silent F t (value S "task") "status" old.2.2 := by
  rw [find?_overlay, next_overlay (nextTask F) fun _ => rfl]
  refine forall₂_congr fun t _ => ?_
  have hkey : ∀ (key : String) (text : Bytes),
      nextText F (nextText F text ((value S "task").find? key)) (t.find? key) =
          nextText F text (t.find? key) ↔ Silent F t (value S "task") key text := by
    intro key text
    unfold Silent
    cases t.find? key with
    | none => cases (value S "task").find? key <;> simp [nextText]
    | some v => simp [nextText]
  have hS : nextTask F old (S.find? "task") =
      (nextText F old.1 ((value S "task").find? "id"),
        nextText F old.2.1 ((value S "task").find? "type"),
        nextText F old.2.2 ((value S "task").find? "status")) := by
    unfold value nextTask
    cases S.find? "task" <;> rfl
  rw [hS, ← hkey, ← hkey, ← hkey]
  simp [nextTask]

/-- When the faults are. -/
theorem faults_overlay (F : Type) [QVariants F] (old : Nat × Bytes × List Json) (S D : Json) :
    nextFaults F (nextFaults F old (S.find? "faults")) (D.find? "faults") =
        nextFaults F old ((overlay S D).find? "faults") ↔
      ∀ t ∈ D.find? "faults", isList t ∨
        ∀ items, value S "faults" = .arr items → faultsOf F items = old := by
  rw [find?_overlay, next_overlay (nextFaults F) fun _ => rfl]
  refine forall₂_congr fun t _ => ?_
  cases t with
  | arr items => simp [nextFaults, isList]
  | _ =>
      unfold value
      cases S.find? "faults" with
      | none => simp [nextFaults, isList]
      | some v => cases v <;> simp [nextFaults, isList]

/-- When the navigation fields are. -/
theorem nav_overlay (old : Bytes × Int × Int × List (F × F) × List F × F × F) (err : F)
    (trail : List (F × F) × List F) (S D : Json) :
    nextNav (nextNav old (S.find? "nav")) (D.find? "nav") =
      nextNav old ((overlay S D).find? "nav") ∧
        nextErr (nextErr err (S.find? "nav")) (D.find? "nav") =
          nextErr err ((overlay S D).find? "nav") ∧
        nextTrail (nextTrail trail (S.find? "nav")) (D.find? "nav") =
          nextTrail trail ((overlay S D).find? "nav") ↔
      ∀ t ∈ D.find? "nav", isMap (value S "nav") →
        if isMap t then
          Unseen NearErr err (errOf (value S "nav")) (errOf t) ∧
            Unseen NearTrail trail (trailOf (value S "nav")) (trailOf t)
        else
          navOf (value S "nav") = old ∧ keep NearErr err (errOf (value S "nav")) = err ∧
            keep NearTrail trail (trailOf (value S "nav")) = trail := by
  rw [find?_overlay, next_overlay nextNav fun _ => rfl, next_overlay nextErr fun _ => rfl,
    next_overlay nextTrail fun _ => rfl, ← forall₂_and, ← forall₂_and]
  refine forall₂_congr fun t _ => ?_
  cases hS : isMap (value S "nav") with
  | false =>
      -- A `nav` of `S` that is no map is not read at all.
      have hnone : nextNav old (S.find? "nav") = old ∧ nextErr err (S.find? "nav") = err ∧
          nextTrail trail (S.find? "nav") = trail := by
        unfold value at hS
        cases hfind : S.find? "nav" with
        | none => exact ⟨rfl, rfl, rfl⟩
        | some v =>
            rw [hfind] at hS
            simp only [Option.getD_some] at hS
            simp [nextNav, nextErr, nextTrail, hS]
      rw [hnone.1, hnone.2.1, hnone.2.2]
      simp
  | true =>
      -- It is read, and the `nav` of `D` is read over it or hides it.
      have hsome : S.find? "nav" = some (value S "nav") := by
        unfold value at hS ⊢
        cases hfind : S.find? "nav" with
        | none => simp [hfind, isMap] at hS
        | some v => rfl
      rw [hsome]
      generalize value S "nav" = v at hS
      cases ht : isMap t <;>
        simp [nextNav, nextErr, nextTrail, hS, ht, keep_keep_iff]

end RobotState

end BotCockpit.Ui
