import BotCockpit.Proofs.Sim.EstopLatch
import BotCockpit.Proofs.Sim.Redelivery

/-!
# `BotCockpit.Proofs.Sim.FaultList`: the fault list agrees with the state

The list and the emergency stop are written by different callbacks. Most of them leave the stop
alone and at most list another fault: `Noted` says what that does to the entries of the stop and of
the battery, it composes, and it holds throughout the console and the tick (`onConsole_noted`,
`tick_noted`). What is left are the commands that write both, and `CLEAR_FAULT`, which empties the
list and leaves the stop. `handle_listed` is the step, `fault_list` the run.
-/

set_option autoImplicit false

namespace BotCockpit.Sim

open BotCockpit.Lib

variable {F : Type} [CDouble F] {C : Type} [CFloat C]

namespace FakeRobot

/-- The robot is stopped or not as before, on the same task, no entry of the stop is new, and the
battery is not listed twice. -/
structure Noted (r s : FakeRobot F) : Prop where
  estop : s.estop = r.estop
  taskId : s.taskId = r.taskId
  taskSeq : s.taskSeq = r.taskSeq
  stops : s.stopEntries = r.stopEntries
  lows : r.lowEntries ≤ 1 → s.lowEntries ≤ 1

/-- What is noted over two steps. -/
theorem Noted.trans {r s t : FakeRobot F} (h₁ : Noted r s) (h₂ : Noted s t) : Noted r t := by
  constructor
  · exact h₂.estop.trans h₁.estop
  · exact h₂.taskId.trans h₁.taskId
  · exact h₂.taskSeq.trans h₁.taskSeq
  · exact h₂.stops.trans h₁.stops
  · exact fun h => h₂.lows (h₁.lows h)

/-- None of these fields is written. -/
theorem Noted.of_same {r s : FakeRobot F} (hestop : s.estop = r.estop)
    (hfaults : s.faults = r.faults) (hid : s.taskId = r.taskId) (hseq : s.taskSeq = r.taskSeq) :
    Noted r s := by
  constructor
  · exact hestop
  · exact hid
  · exact hseq
  · rw [stopEntries, hfaults, stopEntries]
  · rw [lowEntries, lowEntries, hfaults]
    exact id

/-- Nothing is noted when nothing happens. -/
theorem Noted.refl (r : FakeRobot F) : Noted r r := Noted.of_same rfl rfl rfl rfl

/-- A fault is listed. -/
theorem Noted.push {r s : FakeRobot F} {f : FaultItem} (hestop : s.estop = r.estop)
    (hfaults : s.faults = r.faults ++ [f]) (hid : s.taskId = r.taskId)
    (hseq : s.taskSeq = r.taskSeq) (hstop : f.code ≠ .estopActive)
    (hlow : f.code = .batteryLow → r.lowEntries = 0) : Noted r s := by
  refine ⟨hestop, hid, hseq, ?_, fun h => ?_⟩
  · rw [stopEntries, hfaults, List.countP_append, stopEntries]
    simp [hstop]
  · rw [lowEntries, hfaults, List.countP_append]
    by_cases hcode : f.code = .batteryLow
    · have hnone : List.countP (fun f => f.code = .batteryLow && f.active) r.faults = 0 :=
        hlow hcode
      rw [hnone, Nat.zero_add]
      exact List.countP_le_length
    · simpa [hcode, lowEntries] using h

/-- The recomputation notes nothing. -/
theorem Noted.recompute (r : FakeRobot F) : Noted r (recomputePhaseAndControl r) := by
  obtain ⟨_, _, _, _, h⟩ := recompute_frame r
  rw [h]
  exact Noted.of_same rfl rfl rfl rfl

/-- A block that ends with the recomputation notes what it notes before. -/
theorem Noted.recomputed {r t : FakeRobot F} (h : Noted r t) :
    Noted r (recomputePhaseAndControl t) :=
  h.trans (Noted.recompute t)

/-! ### The console and the tick -/

/-- A safety stop latches and notes it, in each state it publishes. -/
theorem applySafetyStop_noted (nowMs : UInt64) (r : FakeRobot F) :
    Throughout (Noted r) (applySafetyStop nowMs r) := by
  let stopped : FakeRobot F := { r with
    taskStatus := r.taskStatus.failOngoing
    phase := if r.phase = .running then .idle else r.phase
    taskType := .none }
  have hstopped : Noted r stopped := Noted.of_same rfl rfl rfl rfl
  have hsettled : Noted r (if (recomputePhaseAndControl stopped).consoleOnline = true then
      recomputePhaseAndControl stopped
      else { recomputePhaseAndControl stopped with controlEnabled := false }) := by
    refine hstopped.recomputed.trans ?_
    split <;> exact Noted.of_same rfl rfl rfl rfl
  exact throughout_published hsettled

/-- A message of the console notes nothing. -/
theorem onConsole_noted (nowMs : UInt64) (data : Bytes) (r : FakeRobot F) :
    Throughout (Noted r) (onConsole nowMs data r) := by
  -- The end of the callback, after what was published before it.
  have hsettle : ∀ (t : FakeRobot F) (out : List (Output F)), Throughout (Noted r) (t, out) →
      Throughout (Noted r)
        (let s := recomputePhaseAndControl t
         let u := if s.consoleOnline then s else { s with controlEnabled := false }
         (u, out ++ u.publishState nowMs)) := by
    intro t out ht
    have hs : Noted r (if (recomputePhaseAndControl t).consoleOnline = true then
        recomputePhaseAndControl t
        else { recomputePhaseAndControl t with controlEnabled := false }) := by
      refine (Noted.recomputed ht.1).trans ?_
      split <;> exact Noted.of_same rfl rfl rfl rfl
    refine ⟨hs, fun ms u hu => ?_⟩
    rcases List.mem_append.mp hu with hu | hu
    · exact ht.2 ms u hu
    · exact (throughout_published hs).2 ms u hu
  unfold onConsole
  dsimp only
  by_cases honline : (extractBool data "online").getD false = true
  · rw [if_pos honline]
    exact hsettle _ [] ⟨Noted.of_same rfl rfl rfl rfl, fun _ _ hu => absurd hu List.not_mem_nil⟩
  · rw [if_neg honline]
    let gone : FakeRobot F := { r with
      consoleOnline := (extractBool data "online").getD false, bridgeNode := .warn }
    have hgone : Noted r gone := Noted.of_same rfl rfl rfl rfl
    split
    · obtain ⟨hstop, hout⟩ := applySafetyStop_noted nowMs gone
      exact hsettle _ _ ⟨hgone.trans hstop, fun t u hu => hgone.trans (hout t u hu)⟩
    · exact hsettle _ [] ⟨hgone, fun _ _ hu => absurd hu List.not_mem_nil⟩

/-- Up to its motion point a tick notes a stop together with its latch. -/
theorem motionPoint_noted (now : Int) (nowMs : UInt64) (r : FakeRobot F) :
    Throughout (Noted r) (motionPoint now nowMs r) := by
  let ticked : FakeRobot F := { r with lastTickTp := now }
  have hticked : Noted r ticked := Noted.of_same rfl rfl rfl rfl
  have hcheck : Throughout (Noted r) (checkHeartbeat nowMs ticked) := by
    unfold checkHeartbeat
    dsimp only
    split
    · let gone : FakeRobot F := { ticked with consoleOnline := false, bridgeNode := .warn }
      have hgone : Noted r gone := Noted.of_same rfl rfl rfl rfl
      split
      · obtain ⟨hstop, hout⟩ := applySafetyStop_noted nowMs gone
        exact ⟨hgone.trans hstop, fun t u hu => hgone.trans (hout t u hu)⟩
      · exact ⟨hgone, fun _ _ hu => absurd hu List.not_mem_nil⟩
    · exact ⟨hticked, fun _ _ hu => absurd hu List.not_mem_nil⟩
  have hleave : Noted r (leaveInitializing now (checkHeartbeat nowMs ticked).1) := by
    refine hcheck.1.trans ?_
    unfold leaveInitializing
    split <;> exact Noted.of_same rfl rfl rfl rfl
  exact ⟨hleave.recomputed, hcheck.2⟩

/-- Driving, steering and replanning note nothing of the stop and the battery. -/
theorem steered_noted {fuel : Nat} {dt x y w : F} {r s : FakeRobot F} {collided : Bool}
    (h : drive fuel dt r = some (s, collided, w)) :
    Noted r (steered C dt x y collided w s) := by
  obtain ⟨_, _, _, _, _, _, _, hsteered⟩ := steered_frame C dt x y w collided s
  obtain ⟨_, _, _, rfl, -⟩ := drive_frame h
  rw [hsteered]
  exact Noted.of_same rfl rfl rfl rfl

/-- A tracking error is no entry of the two kinds. -/
theorem trackError_noted (r : FakeRobot F) : Noted r (trackError r) := by
  rcases trackError_frame r with ⟨err, errMax, h⟩ | ⟨err, errMax, h⟩
  · rw [h]
    exact Noted.of_same rfl rfl rfl rfl
  · rw [h]
    exact Noted.recomputed (Noted.push rfl rfl rfl rfl FaultCode.noConfusion
      fun hcode => FaultCode.noConfusion hcode)

/-- Nor is the arrival. -/
theorem arrive_noted (r : FakeRobot F) : Noted r (arrive r) := by
  rcases arrive_frame r with h | ⟨-, trail, h, -⟩
  · rw [h]
    exact Noted.refl r
  · rw [h]
    exact Noted.recomputed (Noted.of_same rfl rfl rfl rfl)

/-- Nor is the motion as a whole. -/
theorem move_noted {fuel : Nat} {dt : F} {r s : FakeRobot F} (h : move C fuel dt r = some s) :
    Noted r s := by
  rcases move_cases h with ⟨-, moved, rfl, hmoved⟩ | ⟨-, rfl | rfl⟩
  · have hnoted : Noted r moved := by
      rcases hmoved with ⟨-, hfollow⟩ | ⟨-, rfl⟩
      · obtain ⟨driven, collided, w, hdrive, rfl⟩ := follow_cases hfollow
        exact ((steered_noted hdrive).trans (trackError_noted _)).trans (arrive_noted _)
      · exact Noted.recomputed (Noted.of_same rfl rfl rfl rfl)
    exact hnoted.trans (Noted.of_same rfl rfl rfl rfl)
  · exact Noted.of_same rfl rfl rfl rfl
  · exact Noted.refl _

/-- The battery is listed only when it is not yet listed. -/
theorem checkBattery_noted (r : FakeRobot F) : Noted r (checkBattery r) := by
  obtain ⟨b, -, h | ⟨hnone, h⟩⟩ := checkBattery_frame r
  · rw [h]
    exact Noted.of_same rfl rfl rfl rfl
  · rw [h]
    refine Noted.recomputed (Noted.push rfl rfl rfl rfl FaultCode.noConfusion fun _ => ?_)
    rw [lowEntries, List.countP_eq_zero]
    intro f hf hlow
    exact Bool.false_ne_true (hnone.symm.trans (List.any_eq_true.mpr ⟨f, hf, hlow⟩))

/-- A tick notes a stop or a low battery at most once each, in each state it publishes. -/
theorem tick_noted {now : Int} {nowMs : UInt64} {fuel : Nat} {r s : FakeRobot F}
    {out : List (Output F)} (h : tick C now nowMs fuel r = some (s, out)) :
    Throughout (Noted r) (s, out) := by
  rcases tick_cases h with ⟨-, rfl, rfl⟩ | ⟨-, moved, hmoved, rfl, rfl⟩
  · exact ⟨Noted.refl _, fun _ _ hu => absurd hu List.not_mem_nil⟩
  · obtain ⟨hhere, hout⟩ := motionPoint_noted now nowMs r
    have hend : Noted r (checkBattery moved) :=
      (hhere.trans (move_noted hmoved)).trans (checkBattery_noted moved)
    refine ⟨hend, fun t u hu => ?_⟩
    rcases List.mem_append.mp hu with hu | hu
    · exact hout t u hu
    · exact (throughout_published hend).2 t u hu

/-! ### The commands -/

/-- The list has one entry of the stop while the robot is stopped and none else, and at most one of
the battery. -/
structure Listed (r : FakeRobot F) : Prop where
  stops : r.stopEntries = if r.estop = true then 1 else 0
  lows : r.lowEntries ≤ 1

/-- The invariant of the list is kept by what is noted. -/
theorem Listed.noted {r s : FakeRobot F} (h : Listed r) (hs : Noted r s) : Listed s := by
  refine ⟨?_, hs.lows h.lows⟩
  rw [hs.stops, hs.estop]
  exact h.stops

/-- It reads the latch and the list. -/
theorem Listed.of_same {r s : FakeRobot F} (h : Listed r) (hestop : s.estop = r.estop)
    (hfaults : s.faults = r.faults) : Listed s := by
  refine ⟨?_, ?_⟩
  · rw [stopEntries, hfaults, hestop]
    exact h.stops
  · rw [lowEntries, hfaults]
    exact h.lows

/-- The recomputation keeps it. -/
theorem Listed.recomputed {r : FakeRobot F} (h : Listed r) : Listed (recomputePhaseAndControl r) :=
  h.noted (Noted.recompute r)

/-- An empty list, without a stop. -/
theorem Listed.of_nil {r : FakeRobot F} (hestop : r.estop = false) (hfaults : r.faults = []) :
    Listed r := by
  constructor <;> simp [stopEntries, lowEntries, hestop, hfaults]

/-- The stop is listed when it is not yet listed. -/
theorem cmdEstop_listed {q : Request} {r : FakeRobot F} (h : Listed r) :
    Listed (cmdEstop q r).1 := by
  unfold cmdEstop
  dsimp only
  by_cases hany : r.faults.any (fun f => f.code = .estopActive) = true
  · rw [if_pos hany]
    -- The entry is there, so the robot was stopped before.
    have hpos : 0 < r.stopEntries := by
      obtain ⟨f, hf, hcode⟩ := List.any_eq_true.mp hany
      exact List.countP_pos_iff.mpr ⟨f, hf, hcode⟩
    have hestop : r.estop = true := by
      by_contra hno
      rw [h.stops, if_neg hno] at hpos
      exact Nat.lt_irrefl 0 hpos
    exact h.of_same hestop.symm rfl
  · rw [if_neg hany]
    have hnone : r.stopEntries = 0 := by
      rw [stopEntries, List.countP_eq_zero]
      intro f hf hcode
      exact hany (List.any_eq_true.mpr ⟨f, hf, hcode⟩)
    constructor
    · show List.countP _ (r.faults ++ _) = 1
      rw [stopEntries] at hnone
      rw [List.countP_append, hnone]
      rfl
    · show List.countP _ (r.faults ++ _) ≤ 1
      rw [List.countP_append]
      exact h.lows

/-- So does assigning an id. -/
theorem assignTaskId_listed {taskId id : Bytes} {r t : FakeRobot F} (h : Listed r)
    (hassign : assignTaskId taskId r = (id, t)) : Listed t := by
  obtain ⟨_, rfl⟩ := assignTaskId_counter hassign
  exact h.of_same rfl rfl

/-- So does every task command. -/
theorem cmdTask_listed {q : Request} {r : FakeRobot F} (h : Listed r) :
    Listed (cmdTask C q r).1 := by
  refine cmdTask_cases (P := fun x => Listed x.1) (fun taskId _ => ?_) (fun _ => ?_)
    (fun taskId _ _ => ?_) (fun taskId _ _ => ?_) (fun _ _ _ _ => h)
  · unfold taskPause
    split
    · exact Listed.recomputed (h.of_same rfl rfl)
    · exact h
  · exact Listed.recomputed (h.of_same rfl rfl)
  · refine taskGoto_cases (P := fun x => Listed x.1) (fun _ => h) (fun _ _ => h)
      (fun id t hassign _ _ _ => assignTaskId_listed h hassign)
      (fun id t hassign _ _ _ _ => ?_) (fun id t hassign _ _ _ _ => ?_)
    · refine (assignTaskId_listed h hassign).noted (Noted.recomputed ?_)
      exact Noted.push rfl rfl rfl rfl FaultCode.noConfusion fun hcode =>
        FaultCode.noConfusion hcode
    · exact (assignTaskId_listed h hassign).of_same rfl rfl
  · unfold taskResume
    split
    · exact h.of_same rfl rfl
    · exact h

/-- Only `CLEAR_FAULT` during a stop breaks the agreement. -/
theorem dispatch_listed {q : Request} {r : FakeRobot F} (h : Listed r)
    (hguard : r.estop = true → ¬(q.cmd = ascii "CLEAR_FAULT" ∨ q.cmd = ascii "CMD_CLEAR_FAULT")) :
    Listed (dispatch C q r).1 := by
  refine dispatch_cases (P := fun x => Listed x.1) (fun _ => cmdEstop_listed h) (fun _ => ?_)
    (fun _ => ?_) (fun _ => cmdTask_listed h) (fun _ => ?_) (fun hcmd => ?_) (fun _ => h)
  · by_cases hconfirm : extractBool q.data "confirm" = some true
    · cases hblock : r.hasBlocking with
      | true =>
          rw [cmdReset_blocked hconfirm hblock]
          exact h
      | false =>
          rw [cmdReset_accepted hconfirm hblock]
          exact Listed.of_nil rfl rfl
    · rw [cmdReset_unconfirmed r hconfirm]
      exact h
  · rw [cmdMode_state]
    split
    · exact h
    · split
      · exact h
      · exact h.of_same rfl rfl
  · unfold cmdInjectFault injectFault
    refine h.noted (Noted.recomputed ?_)
    exact Noted.push rfl rfl rfl rfl FaultCode.noConfusion fun hcode => FaultCode.noConfusion hcode
  · have hestop : r.estop = false := Bool.eq_false_iff.mpr fun hstop => hguard hstop hcmd
    have hcleared : Listed (clearedState r) := Listed.of_nil hestop rfl
    rw [cmdClearFault_state]
    exact hcleared.recomputed.of_same rfl rfl

/-! ### One callback -/

/-- **Every callback but a `CLEAR_FAULT` during a stop keeps the agreement**, and publishes only
states in which it holds. -/
theorem handle_listed {r s : FakeRobot F} {e : Event} {out : List (Output F)} (h : Listed r)
    (hguard : r.estop = true → ¬e.AsksClear) (hstep : handle C r e = some (s, out)) :
    Throughout Listed (s, out) := by
  -- What a callback only notes keeps the list, in each state it publishes.
  have hnoted : ∀ {x : FakeRobot F × List (Output F)}, Throughout (Noted r) x →
      Throughout Listed x :=
    fun hx => ⟨h.noted hx.1, fun t u hu => h.noted (hx.2 t u hu)⟩
  cases handle_cases hstep with
  | configure hc =>
      -- The configuration starts with an empty list.
      have hlisted : Listed (onConfigure e.nowMs r).1 := Listed.of_nil rfl rfl
      exact throughout_published hlisted
  | activate now hc => exact hnoted (throughout_published (Noted.of_same rfl rfl rfl rfl))
  | deactivate hc | cleanup hc | shutdown hc =>
      exact ⟨h.of_same rfl rfl, fun _ _ hu => absurd hu List.not_mem_nil⟩
  | console data hc hready => exact hnoted (onConsole_noted e.nowMs data r)
  | noCmd data hc hready hq => exact ⟨h, fun _ _ hu => absurd hu List.not_mem_nil⟩
  | cmd data q hc hready hq =>
      obtain ⟨hcmd, -, -⟩ := request?_eq hq
      -- A CLEAR_FAULT takes the entry of the stop away, so the guard asks for an open latch.
      have hlisted : Listed (dispatch C q r).1 := by
        refine dispatch_listed h fun hstop hclear => hguard hstop ?_
        simpa only [Event.AsksClear, hc, hcmd, Option.some.injEq] using hclear
      obtain ⟨t, res, ha⟩ := dispatch_answers C q r
      exact ⟨hlisted, fun _ u hu => (ha.mem_state hu).symm ▸ hlisted⟩
  | tick now fuel s out hc htick => exact hnoted (tick_noted htick)

end FakeRobot

open FakeRobot

/-! ### Runs -/

/-- **The fault list agrees with the state.** In every run in which no `CLEAR_FAULT` comes during an
emergency stop, every published state lists the stop once while it is stopped and not at all else,
and lists at most one active low battery. -/
theorem fault_list {h : Node.History F} {n : Node F}
    (hrun : Run (Node.step C) NotClearedStopped Node.init h n) :
    ∀ x ∈ h, ∀ t r, Output.state t r ∈ x.2 →
      r.stopEntries = (if r.estop = true then 1 else 0) ∧ r.lowEntries ≤ 1 := by
  have hall : Listed n.robot ∧ ∀ x ∈ h, ∀ t r, Output.state t r ∈ x.2 → Listed r := by
    refine hrun.invariant_history
      (P := fun h n => Listed n.robot ∧ ∀ x ∈ h, ∀ t r, Output.state t r ∈ x.2 → Listed r)
      ⟨Listed.of_nil rfl rfl, fun x hx => absurd hx List.not_mem_nil⟩ ?_
    intro h n e m out hpre hguard hstep
    obtain ⟨hlisted, hpub⟩ := hpre
    obtain ⟨hlisted', hout⟩ := handle_listed hlisted hguard (Node.step_handle hstep)
    refine ⟨hlisted', fun x hx => ?_⟩
    rcases List.mem_append.mp hx with hx | hx
    · exact hpub x hx
    · rw [List.mem_singleton.mp hx]
      exact hout
  intro x hx t r hr
  exact ⟨(hall.2 x hx t r hr).stops, (hall.2 x hx t r hr).lows⟩

/-- The stop is pressed twice, and released. -/
def releasedEvents : List Event :=
  stoppedEvents ++ [⟨6, .cmd (ascii "\x7b\"cmd\":\"CMD_ESTOP\"\x7d")⟩,
    ⟨7, .cmd (ascii "\x7b\"cmd\":\"CMD_RESET\",\"confirm\":true\x7d")⟩]

/-- The run of these callbacks. -/
def releasedRun : Node.History ℚ × Node ℚ :=
  (exec (Node.step Exact.Cost) NotClearedStopped Node.init releasedEvents).get (by decide +kernel)

/-- A run with a stop that is released again. -/
theorem fault_list_released :
    0 < releasedRun.1.length ∧ ∀ x ∈ releasedRun.1, ∀ t r, Output.state t r ∈ x.2 →
      r.stopEntries = (if r.estop = true then 1 else 0) ∧ r.lowEntries ≤ 1 :=
  ⟨by decide +kernel, fault_list (Run.of_exec (Option.some_get _).symm)⟩

/-- The faults are cleared. -/
def clearEvent : Event := ⟨6, .cmd (ascii "\x7b\"cmd\":\"CLEAR_FAULT\"\x7d")⟩

/-- The faults are cleared during the stop. -/
def unlistedStep : Node ℚ × List (Output ℚ) :=
  (Node.step Exact.Cost stoppedNode clearEvent).get (by decide +kernel)

/-- A stopped robot publishes a list without the entry of the stop. -/
theorem stop_unlisted :
    ∃ (h : Node.History ℚ) (n : Node ℚ), Node.Runs Exact.Cost h n ∧ ∃ x ∈ h, ∃ t r,
      Output.state t r ∈ x.2 ∧ r.estop = true ∧ r.stopEntries = 0 := by
  have hrun : Node.Runs Exact.Cost _ stoppedNode :=
    Run.of_exec (Option.some_get exec_stopped).symm
  have hstep : Node.step Exact.Cost stoppedNode clearEvent = some unlistedStep :=
    (Option.some_get _).symm
  have hshown : (unlistedStep.2.filterMap Output.state?).map (fun r => (r.estop, r.stopEntries)) =
      [(true, 0)] := by decide +kernel
  obtain ⟨r, hr, hfields⟩ := List.mem_map.mp (hshown ▸ List.mem_singleton_self _)
  obtain ⟨t, ht⟩ := exists_state hr
  obtain ⟨hestop, hcount⟩ := Prod.mk.inj hfields
  exact ⟨_, _, Run.snoc hrun trivial hstep, _, List.mem_append_right _ (List.mem_singleton_self _),
    t, r, ht, hestop,
    hcount⟩

end BotCockpit.Sim
