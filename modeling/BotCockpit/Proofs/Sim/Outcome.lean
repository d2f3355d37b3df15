import Mathlib.Logic.Relation
import BotCockpit.Proofs.Sim.Invariant
import BotCockpit.Spec.Robot

/-!
# `BotCockpit.Proofs.Sim.Outcome`: what a callback does to phase, stop and faults

One inversion for all callbacks. A block of a callback either leaves phase, emergency stop and
faults alone, or changes other fields, lists new faults, and recomputes (`Settles`). A tick is a
chain of such blocks (`tick_settles`). A command is one block, or one of the four things that only
a command does: it stops the robot, starts a motion, clears the faults, or resets (`Outcome`).

An invariant over phase, stop and faults then needs one argument about the recomputation, and none
about the branches of the handlers.
-/

set_option autoImplicit false

namespace BotCockpit.Sim

open BotCockpit.Lib
open Relation (ReflTransGen)

variable {F : Type} [CDouble F] {C : Type} [CFloat C]

/-- The level that the source gives a fault with this code. -/
def FaultCode.level : FaultCode → FaultLevel
  | .estopActive => .warn
  | .taskFailed => .error
  | .batteryLow => .warn
  | .nodeTimeout => .error

/-- A fault as the source lists it. -/
def FaultItem.WellFormed (f : FaultItem) : Prop := f.active = true ∧ f.level = f.code.level

namespace FakeRobot

/-- The recomputation reads the faults and changes none. -/
@[simp] theorem recompute_faults (r : FakeRobot F) :
    (recomputePhaseAndControl r).faults = r.faults := by
  obtain ⟨_, _, _, _, h⟩ := recompute_frame r
  rw [h]

/-- The end of the start-up pause is set by the activation only. -/
@[simp] theorem recompute_idleTp (r : FakeRobot F) :
    (recomputePhaseAndControl r).idleTp = r.idleTp := by
  obtain ⟨_, _, _, _, h⟩ := recompute_frame r
  rw [h]

/-! ### One block -/

/-- The two states agree on phase, stop, faults and the end of the start-up pause. -/
structure SamePhase (r s : FakeRobot F) : Prop where
  phase : s.phase = r.phase
  estop : s.estop = r.estop
  faults : s.faults = r.faults
  idleTp : s.idleTp = r.idleTp

/-- A block that changes nothing leaves the phase alone. -/
theorem SamePhase.refl (r : FakeRobot F) : SamePhase r r := ⟨rfl, rfl, rfl, rfl⟩

/-- Two blocks that leave the phase alone do so together. -/
theorem SamePhase.trans {r s t : FakeRobot F} (h₁ : SamePhase r s) (h₂ : SamePhase s t) :
    SamePhase r t := by
  constructor
  · exact h₂.phase.trans h₁.phase
  · exact h₂.estop.trans h₁.estop
  · exact h₂.faults.trans h₁.faults
  · exact h₂.idleTp.trans h₁.idleTp

/-- `s` lists the faults of `r` and perhaps new ones. -/
def Grows (r s : FakeRobot F) : Prop :=
  ∃ new, s.faults = r.faults ++ new ∧ ∀ f ∈ new, f.WellFormed

/-- A list of faults that stays the same has grown by nothing. -/
theorem Grows.of_eq {r s : FakeRobot F} (h : s.faults = r.faults) : Grows r s :=
  ⟨[], by simpa using h, fun _ hf => absurd hf List.not_mem_nil⟩

/-- One fault is added. -/
theorem Grows.append {r s : FakeRobot F} {f : FaultItem} (hf : f.WellFormed)
    (h : s.faults = r.faults ++ [f]) : Grows r s :=
  ⟨[f], h, fun _ hg => (List.mem_singleton.mp hg) ▸ hf⟩

/-- A list that has only grown still has each of its faults. -/
theorem Grows.mem {r s : FakeRobot F} (h : Grows r s) {f : FaultItem} (hf : f ∈ r.faults) :
    f ∈ s.faults := by
  obtain ⟨new, heq, -⟩ := h
  rw [heq]
  exact List.mem_append_left _ hf

/-- The robot is neither starting up nor stopped. -/
def Awake (r : FakeRobot F) : Prop :=
  r.phase ≠ .boot ∧ r.phase ≠ .initializing ∧ r.phase ≠ .estop

/-- What a block of a callback does: nothing to phase, stop and faults, or it recomputes from a
state with the same stop and perhaps more faults. Before it recomputes, a block may set an awake
robot to `IDLE`, and one that is starting up when the start-up pause is over (`due`). -/
inductive Settles (due : Prop) (r s : FakeRobot F) : Prop where
  | same (hs : SamePhase r s)
  | recomputed (t : FakeRobot F) (hestop : t.estop = r.estop)
      (hphase : t.phase = r.phase ∨
        t.phase = .idle ∧ (Awake r ∨ due ∧ r.phase = .initializing))
      (hfaults : Grows r t) (hidle : t.idleTp = r.idleTp)
      (hs : SamePhase (recomputePhaseAndControl t) s)

/-- No block of a tick moves the end of the start-up pause. -/
theorem Settles.idleTp {due : Prop} {r s : FakeRobot F} (h : Settles due r s) :
    s.idleTp = r.idleTp := by
  cases h with
  | same hs => exact hs.idleTp
  | recomputed t _ _ _ hidle hs => rw [hs.idleTp, recompute_idleTp, hidle]

/-- No block of a tick takes a fault away. -/
theorem Settles.grows {due : Prop} {r s : FakeRobot F} (h : Settles due r s) : Grows r s := by
  cases h with
  | same hs => exact Grows.of_eq hs.faults
  | recomputed t _ _ hfaults _ hs =>
      obtain ⟨new, heq, hnew⟩ := hfaults
      exact ⟨new, by rw [hs.faults, recompute_faults, heq], hnew⟩

/-- A block that ends with the recomputation. -/
theorem Settles.recompute {due : Prop} {r t : FakeRobot F} (hestop : t.estop = r.estop)
    (hphase : t.phase = r.phase ∨
      t.phase = .idle ∧ (Awake r ∨ due ∧ r.phase = .initializing))
    (hfaults : Grows r t) (hidle : t.idleTp = r.idleTp) :
    Settles due r (recomputePhaseAndControl t) :=
  .recomputed t hestop hphase hfaults hidle (SamePhase.refl _)

/-- A running robot is awake. -/
theorem awake_of_running {r : FakeRobot F} (h : r.phase = .running) : Awake r := by
  simp [Awake, h]

/-- An awake robot that is not stopped stays awake. -/
theorem recompute_awake {r : FakeRobot F} (hestop : r.estop = false) (h : Awake r) :
    Awake (recomputePhaseAndControl r) := by
  rcases recompute_cases r with ⟨he, -⟩ | ⟨-, hstart | hstart, -⟩ | ⟨-, -, hr⟩ | ⟨-, -, -, hr⟩ |
    ⟨-, -, -, hrun, hr⟩ | ⟨-, -, -, -, hr⟩
  · rw [hestop] at he
    cases he
  · exact absurd hstart h.1
  · exact absurd hstart h.2.1
  · simp [Awake, hr]
  · by_cases hrun : r.phase = .running <;> simp [Awake, hr, hrun]
  · simp [Awake, hr, hrun]
  · simp [Awake, hr]

/-! ### The tick -/

/-- A safety stop is one block. -/
theorem applySafetyStop_settles {due : Prop} (nowMs : UInt64) (r : FakeRobot F) :
    Settles due r (applySafetyStop nowMs r).1 := by
  let stopped : FakeRobot F := { r with
    taskStatus := r.taskStatus.failOngoing
    phase := if r.phase = .running then .idle else r.phase
    taskType := .none }
  have hphase : stopped.phase = r.phase ∨
      stopped.phase = .idle ∧ (Awake r ∨ due ∧ r.phase = .initializing) := by
    by_cases hrun : r.phase = .running
    · exact Or.inr ⟨if_pos hrun, Or.inl (awake_of_running hrun)⟩
    · exact Or.inl (if_neg hrun)
  refine .recomputed stopped rfl hphase (Grows.of_eq rfl) rfl ?_
  show SamePhase _ (if (recomputePhaseAndControl stopped).consoleOnline = true then
    recomputePhaseAndControl stopped
    else { recomputePhaseAndControl stopped with controlEnabled := false })
  split <;> exact ⟨rfl, rfl, rfl, rfl⟩

/-- The heartbeat check is one block. -/
theorem checkHeartbeat_settles {due : Prop} (nowMs : UInt64) (r : FakeRobot F) :
    Settles due r (checkHeartbeat nowMs r).1 := by
  unfold checkHeartbeat
  dsimp only
  split
  · -- Losing the console changes nothing that is read here.
    have hgone : SamePhase r { r with consoleOnline := false, bridgeNode := .warn } :=
      ⟨rfl, rfl, rfl, rfl⟩
    split
    · have hstop : Settles due { r with consoleOnline := false, bridgeNode := .warn } _ :=
        applySafetyStop_settles nowMs _
      cases hstop with
      | same hs => exact .same (hgone.trans hs)
      | recomputed t hestop hphase hfaults hidle hs =>
          exact .recomputed t hestop hphase hfaults hidle hs
    · exact .same hgone
  · exact .same (SamePhase.refl r)

/-- Up to the motion point a tick is two blocks. -/
theorem motionPoint_settles (now : Int) (nowMs : UInt64) (r : FakeRobot F) :
    ReflTransGen (Settles (r.idleTp ≤ now)) r (motionPoint now nowMs r).1 := by
  let ticked : FakeRobot F := { r with lastTickTp := now }
  let checked := (checkHeartbeat nowMs ticked).1
  have hcheck : Settles (r.idleTp ≤ now) r checked := by
    have hticked : Settles (r.idleTp ≤ now) ticked checked := checkHeartbeat_settles nowMs ticked
    cases hticked with
    | same hs => exact .same ⟨hs.phase, hs.estop, hs.faults, hs.idleTp⟩
    | recomputed t hestop hphase hfaults hidle hs =>
        exact .recomputed t hestop hphase hfaults hidle hs
  have hpoint : (motionPoint now nowMs r).1 =
      recomputePhaseAndControl (leaveInitializing now checked) := rfl
  refine (ReflTransGen.single hcheck).tail ?_
  rw [hpoint]
  unfold leaveInitializing
  split
  · rename_i hinit
    have hover : r.idleTp ≤ now := by
      rw [← hcheck.idleTp]
      exact hinit.2
    exact Settles.recompute rfl (Or.inr ⟨rfl, Or.inr ⟨hover, hinit.1⟩⟩) (Grows.of_eq rfl) rfl
  · exact Settles.recompute rfl (Or.inl rfl) (Grows.of_eq rfl) rfl

/-- The safety fields decide the phase, but for the end of the start-up pause. -/
theorem SameSafety.samePhase {r s : FakeRobot F} (h : SameSafety r s)
    (hidle : s.idleTp = r.idleTp) : SamePhase r s :=
  ⟨h.phase, h.estop, h.faults, hidle⟩

/-- The drive and the replanning leave the phase alone. -/
theorem steered_samePhase {fuel : Nat} {dt x y w : F} {r s : FakeRobot F} {collided : Bool}
    (h : drive fuel dt r = some (s, collided, w)) :
    SamePhase r (steered C dt x y collided w s) := by
  refine ((drive_same h).trans (steered_same C dt x y w collided s)).samePhase ?_
  obtain ⟨_, _, _, _, _, _, _, hsteered⟩ := steered_frame C dt x y w collided s
  obtain ⟨_, _, _, rfl, -⟩ := drive_frame h
  rw [hsteered]

/-- The tracking error is one block. -/
theorem trackError_settles {due : Prop} {r : FakeRobot F} (h : Awake r) :
    Settles due r (trackError r) := by
  rcases trackError_frame r with ⟨err, errMax, herr⟩ | ⟨err, errMax, herr⟩
  · rw [herr]
    exact .same ⟨rfl, rfl, rfl, rfl⟩
  · rw [herr]
    exact Settles.recompute rfl (Or.inr ⟨rfl, Or.inl h⟩) (Grows.append ⟨rfl, rfl⟩ rfl) rfl

/-- A robot that fails by its tracking error is still awake. -/
theorem trackError_awake {r : FakeRobot F} (hestop : r.estop = false) (h : Awake r) :
    Awake (trackError r) := by
  rcases trackError_frame r with ⟨err, errMax, herr⟩ | ⟨err, errMax, herr⟩
  · rw [herr]
    exact h
  · rw [herr]
    exact recompute_awake hestop (by simp [Awake])

/-- The arrival is one block. -/
theorem arrive_settles {due : Prop} {r : FakeRobot F} (h : Awake r) :
    Settles due r (arrive r) := by
  rcases arrive_frame r with harrive | ⟨-, trail, harrive, -⟩
  · rw [harrive]
    exact .same (SamePhase.refl r)
  · rw [harrive]
    exact Settles.recompute rfl (Or.inr ⟨rfl, Or.inl h⟩) (Grows.of_eq rfl) rfl

/-- The motion along the path is a chain of three blocks. -/
theorem follow_settles {due : Prop} {fuel : Nat} {dt : F} {r s : FakeRobot F}
    (hmoving : r.moving) (h : follow C fuel dt r = some s) : ReflTransGen (Settles due) r s := by
  obtain ⟨driven, collided, w, hdrive, rfl⟩ := follow_cases h
  let tracked : FakeRobot F := steered C dt r.poseX r.poseY collided w driven
  have hsame : SamePhase r tracked := steered_samePhase hdrive
  have hestop : tracked.estop = false := by
    rw [hsame.estop]
    simpa using hmoving.1
  have hawake : Awake tracked := awake_of_running (hsame.phase.trans hmoving.2.1)
  exact ((ReflTransGen.single (.same hsame)).tail (trackError_settles hawake)).tail
    (arrive_settles (trackError_awake hestop hawake))

/-- The motion is a chain of blocks. -/
theorem move_settles {due : Prop} {fuel : Nat} {dt : F} {r s : FakeRobot F}
    (h : move C fuel dt r = some s) : ReflTransGen (Settles due) r s := by
  rcases move_cases h with ⟨hmoving, moved, rfl, hmoved⟩ | ⟨-, rfl | rfl⟩
  · have hmove : ReflTransGen (Settles due) r moved := by
      rcases hmoved with ⟨-, hfollow⟩ | ⟨-, rfl⟩
      · exact follow_settles hmoving hfollow
      · exact .single (Settles.recompute rfl
          (Or.inr ⟨rfl, Or.inl (awake_of_running hmoving.2.1)⟩) (Grows.of_eq rfl) rfl)
    exact hmove.tail (.same ⟨rfl, rfl, rfl, rfl⟩)
  · exact .single (.same ⟨rfl, rfl, rfl, rfl⟩)
  · exact .refl

/-- The check of the battery is one block, which may add a warning. -/
theorem checkBattery_settles {due : Prop} (r : FakeRobot F) :
    Settles due r (checkBattery r) := by
  obtain ⟨b, -, h | ⟨-, h⟩⟩ := checkBattery_frame r
  · rw [h]
    exact .same ⟨rfl, rfl, rfl, rfl⟩
  · rw [h]
    exact Settles.recompute rfl (Or.inl rfl) (Grows.append ⟨rfl, rfl⟩ rfl) rfl

/-- **A tick is a chain of blocks**, and does nothing while the robot is inactive. -/
theorem tick_settles {now : Int} {nowMs : UInt64} {fuel : Nat} {r s : FakeRobot F}
    {out : List (Output F)} (h : tick C now nowMs fuel r = some (s, out)) :
    r.active = false ∧ s = r ∨
      r.active = true ∧ ReflTransGen (Settles (r.idleTp ≤ now)) r s := by
  rcases tick_cases h with ⟨hactive, rfl, -⟩ | ⟨hactive, moved, hmoved, rfl, -⟩
  · exact Or.inl ⟨hactive, rfl⟩
  · exact Or.inr ⟨hactive, ((motionPoint_settles now nowMs r).trans (move_settles hmoved)).tail
      (checkBattery_settles moved)⟩

/-! ### The console -/

/-- A message of the console is a chain of at most two blocks. -/
theorem onConsole_settles {due : Prop} (nowMs : UInt64) (data : Bytes) (r : FakeRobot F) :
    ReflTransGen (Settles due) r (onConsole nowMs data r).1 := by
  -- What follows the safety stop recomputes and switches control off at most.
  have hsettle : ∀ t : FakeRobot F, Settles due t
      (let s := recomputePhaseAndControl t
       if s.consoleOnline then s else { s with controlEnabled := false }) := fun t => by
    refine .recomputed t rfl (Or.inl rfl) (Grows.of_eq rfl) rfl ?_
    dsimp only
    split <;> exact ⟨rfl, rfl, rfl, rfl⟩
  unfold onConsole
  dsimp only
  by_cases honline : (extractBool data "online").getD false = true
  · rw [if_pos honline]
    exact (ReflTransGen.single (.same ⟨rfl, rfl, rfl, rfl⟩)).tail (hsettle _)
  · rw [if_neg honline]
    have hgone : Settles due r { r with
        consoleOnline := (extractBool data "online").getD false, bridgeNode := .warn } :=
      .same ⟨rfl, rfl, rfl, rfl⟩
    split
    · exact ((ReflTransGen.single hgone).tail (applySafetyStop_settles nowMs _)).tail (hsettle _)
    · exact (ReflTransGen.single hgone).tail (hsettle _)

/-! ### The commands -/

/-- The request is a RESET that the robot carries out. -/
def TakesReset (q : Request) (r : FakeRobot F) : Prop :=
  q.cmd = ascii "CMD_RESET" ∧ extractBool q.data "confirm" = some true ∧ r.hasBlocking = false

/-- The two names of the command that clears the faults. -/
def clearNames : List Bytes := [ascii "CLEAR_FAULT", ascii "CMD_CLEAR_FAULT"]

/-- What a command does to phase, stop and faults. -/
inductive Outcome (q : Request) (r s : FakeRobot F) : Prop where
  | settles (h : Settles False r s)
  | stopped (hphase : s.phase = .estop) (hestop : s.estop = true) (hfaults : Grows r s)
      (hidle : s.idleTp = r.idleTp)
  | started (hfree : ¬r.blocked) (hphase : s.phase = .running) (hestop : s.estop = r.estop)
      (hfaults : s.faults = r.faults) (hidle : s.idleTp = r.idleTp)
  | cleared (hname : q.cmd ∈ clearNames) (t : FakeRobot F) (hphase : t.phase = r.phase)
      (hestop : t.estop = r.estop) (hfaults : t.faults = []) (hidle : t.idleTp = r.idleTp)
      (hs : SamePhase (recomputePhaseAndControl t) s)
  | reset (htakes : TakesReset q r) (hs : WasReset r s) (hidle : s.idleTp = r.idleTp)

/-- An answer alone changes nothing. -/
theorem Outcome.unchanged {q : Request} {r : FakeRobot F} (res : CmdResult) :
    Outcome q r (r.reply res).1 := .settles (.same (SamePhase.refl r))

/-- An emergency stop is a block that adds its fault. -/
theorem cmdEstop_outcome (q : Request) (r : FakeRobot F) : Outcome q r (cmdEstop q r).1 := by
  unfold cmdEstop
  dsimp only
  split
  · exact .stopped rfl rfl (Grows.of_eq rfl) rfl
  · exact .stopped rfl rfl (Grows.append ⟨rfl, rfl⟩ rfl) rfl

/-- A RESET without confirmation leaves the state alone. -/
theorem cmdReset_unconfirmed {q : Request} (r : FakeRobot F)
    (h : extractBool q.data "confirm" ≠ some true) :
    cmdReset q r = r.reply (.rejected q.seq q.cmd .confirmRequired) := by
  unfold cmdReset
  rw [if_pos h]

/-- A blocked RESET leaves the state alone. -/
theorem cmdReset_blocked {q : Request} {r : FakeRobot F}
    (h : extractBool q.data "confirm" = some true) (hblock : r.hasBlocking = true) :
    cmdReset q r = r.replyAndPublish q (.rejected q.seq q.cmd .phaseBusy) := by
  unfold cmdReset
  rw [if_neg (by simp [h]), if_pos hblock]

/-- The state after a RESET. -/
def resetState (r : FakeRobot F) : FakeRobot F :=
  { r with
    estop := false
    faults := []
    robotNode := .ok
    bridgeNode := if ¬r.consoleOnline then .warn else .ok
    phase := .idle
    mode := .teleop
    taskStatus := .none
    taskId := []
    taskType := .none
    controlEnabled := r.consoleOnline }

/-- A confirmed RESET leaves the state after a RESET. -/
theorem wasReset (r : FakeRobot F) : WasReset r (resetState r) :=
  ⟨rfl, rfl, rfl, rfl, rfl, rfl, rfl, rfl⟩

/-- `clear_faults` leaves the robot's own node `OK`. -/
theorem clearFaults_robotNode (r : FakeRobot F) : (clearFaults r).robotNode = .ok := by
  show (if r.robotNode = .error ∨ r.robotNode = .warn ∨ r.robotNode = .lost then NodeStatus.ok
    else r.robotNode) = .ok
  split
  · rfl
  · cases hstatus : r.robotNode <;> simp_all

/-- A RESET that nothing blocks is carried out. -/
theorem cmdReset_accepted {q : Request} {r : FakeRobot F}
    (h : extractBool q.data "confirm" = some true) (hblock : r.hasBlocking = false) :
    cmdReset q r = (resetState r).replyAndPublish q (.accepted q.seq q.cmd) := by
  let cleared : FakeRobot F := { clearFaults { r with estop := false } with
    bridgeNode := if ¬(clearFaults { r with estop := false }).consoleOnline then .warn else .ok
    phase := .idle
    mode := .teleop
    taskStatus := .none
    taskId := []
    taskType := .none }
  -- Nothing is left that could put the robot into another phase.
  have hnode : cleared.robotNode = .ok := clearFaults_robotNode { r with estop := false }
  have hfaults : cleared.faults = [] := rfl
  have herr : cleared.hasErrorCondition = false := by simp [hasErrorCondition, hnode, hfaults]
  have hwarn : cleared.hasWarnCondition = false := by simp [hasWarnCondition, hnode, hfaults]
  have hidle : recomputePhaseAndControl cleared = resetState r := by
    rcases recompute_cases cleared with ⟨he, -⟩ | ⟨-, hs | hs, -⟩ | ⟨-, he, -⟩ | ⟨-, -, hw, -⟩ |
      ⟨-, -, -, hrun, -⟩ | ⟨-, -, -, -, hr⟩
    · cases he
    · cases hs
    · cases hs
    · rw [herr] at he
      cases he
    · rw [hwarn] at hw
      cases hw
    · cases hrun
    · exact hr
  have hcontrol : { recomputePhaseAndControl cleared with
      controlEnabled := (recomputePhaseAndControl cleared).consoleOnline &&
        decide ((recomputePhaseAndControl cleared).phase = Phase.idle) } = resetState r := by
    rw [hidle]
    simp [resetState]
  unfold cmdReset
  rw [if_neg (by simp [h]), if_neg (by simp [hblock])]
  exact congrArg (fun s => replyAndPublish q s (.accepted q.seq q.cmd)) hcontrol

/-- A RESET is refused and changes nothing, or it resets. -/
theorem cmdReset_outcome (q : Request) (r : FakeRobot F) (hcmd : q.cmd = ascii "CMD_RESET") :
    Outcome q r (cmdReset q r).1 := by
  by_cases hconfirm : extractBool q.data "confirm" = some true
  · cases hblock : r.hasBlocking with
    | true =>
        rw [cmdReset_blocked hconfirm hblock]
        exact .settles (.same (SamePhase.refl r))
    | false =>
        rw [cmdReset_accepted hconfirm hblock]
        exact .reset ⟨hcmd, hconfirm, hblock⟩ (wasReset r) rfl
  · rw [cmdReset_unconfirmed r hconfirm]
    exact Outcome.unchanged _

/-- A change of the mode leaves the phase alone. -/
theorem cmdMode_outcome (q : Request) (r : FakeRobot F) : Outcome q r (cmdMode q r).1 := by
  unfold cmdMode
  split
  · exact Outcome.unchanged _
  · split
    · exact Outcome.unchanged _
    · exact .settles (.same ⟨rfl, rfl, rfl, rfl⟩)

/-- A pause is one block. -/
theorem taskPause_outcome (q : Request) (taskId : Bytes) (r : FakeRobot F) :
    Outcome q r (taskPause q taskId r).1 := by
  unfold taskPause
  split
  · rename_i hrun
    exact .settles (Settles.recompute rfl (Or.inr ⟨rfl, Or.inl (awake_of_running hrun)⟩)
      (Grows.of_eq rfl) rfl)
  · exact .settles (.same (SamePhase.refl r))

/-- A cancel is one block. -/
theorem taskCancel_outcome (q : Request) (r : FakeRobot F) :
    Outcome q r (taskCancel q r).1 := by
  unfold taskCancel
  by_cases hrun : r.phase = .running
  · refine .settles (Settles.recompute rfl ?_ (Grows.of_eq rfl) rfl)
    exact Or.inr ⟨if_pos hrun, Or.inl (awake_of_running hrun)⟩
  · refine .settles (Settles.recompute rfl ?_ (Grows.of_eq rfl) rfl)
    exact Or.inl (if_neg hrun)

/-- A new id does not change the phase. -/
theorem assignTaskId_samePhase (taskId : Bytes) (r : FakeRobot F) :
    SamePhase r (assignTaskId taskId r).2 := by
  unfold assignTaskId
  split <;> exact ⟨rfl, rfl, rfl, rfl⟩

/-- A goto starts the robot, settles it, or is refused. -/
theorem taskGoto_outcome (q : Request) (taskId : Bytes) {r : FakeRobot F} (hfree : ¬r.blocked) :
    Outcome q r (taskGoto C q taskId r).1 := by
  unfold taskGoto
  by_cases hrun : r.phase = .running
  · rw [if_pos hrun]
    exact Outcome.unchanged _
  rw [if_neg hrun]
  dsimp only
  generalize (extractNumber q.data "x" r.poseX).2 = x
  generalize (extractNumber q.data "y" r.poseY).2 = y
  by_cases hout : outside x y
  · rw [if_pos hout]
    exact Outcome.unchanged _
  rw [if_neg hout]
  have hsame := assignTaskId_samePhase taskId r
  generalize (assignTaskId taskId r).1 = id
  generalize (assignTaskId taskId r).2 = t at hsame
  by_cases hdone : t.taskId ≠ [] ∧ t.taskId = id ∧ t.taskStatus = .done
  · rw [if_pos hdone]
    exact .settles (.same hsame)
  rw [if_neg hdone]
  generalize (Nav.GridMap.makeCorridorDemo (F := F)).inflate 1 = map
  generalize Nav.astar C map t.poseX t.poseY x y = path
  by_cases hpath : path = []
  · rw [if_pos hpath]
    refine .settles (Settles.recompute hsame.estop (Or.inl hsame.phase) ?_ hsame.idleTp)
    exact Grows.append ⟨rfl, rfl⟩ (by rw [hsame.faults])
  · rw [if_neg hpath]
    exact .started hfree rfl hsame.estop hsame.faults hsame.idleTp

/-- A resume starts the robot or is refused. -/
theorem taskResume_outcome (q : Request) (taskId : Bytes) {r : FakeRobot F}
    (hfree : ¬r.blocked) : Outcome q r (taskResume q taskId r).1 := by
  unfold taskResume
  split
  · exact .started hfree rfl rfl rfl rfl
  · exact .settles (.same (SamePhase.refl r))

/-- An injected fault is one block, which adds it to the list. -/
theorem cmdInjectFault_outcome (q : Request) (r : FakeRobot F) :
    Outcome q r (cmdInjectFault q r).1 := by
  unfold cmdInjectFault injectFault
  exact .settles (Settles.recompute rfl (Or.inl rfl) (Grows.append ⟨rfl, rfl⟩ rfl) rfl)

/-- Clearing the faults is done under one of its two names. -/
theorem cmdClearFault_outcome (q : Request) (r : FakeRobot F) (hname : q.cmd ∈ clearNames) :
    Outcome q r (cmdClearFault q r).1 := by
  let cleared : FakeRobot F := { clearFaults r with
    bridgeNode := if (clearFaults r).consoleOnline then .ok else .warn }
  -- The recomputation has left `FAULT` already where it can be left.
  have hdead : ¬((recomputePhaseAndControl cleared).phase = .fault ∧
      ¬(recomputePhaseAndControl cleared).hasErrorCondition = true) :=
    fun h => h.2 (recompute_fault h.1)
  unfold cmdClearFault
  dsimp only
  rw [if_neg hdead]
  exact .cleared hname cleared rfl rfl rfl rfl ⟨rfl, rfl, rfl, rfl⟩

/-- **What a command does.** -/
theorem dispatch_outcome (q : Request) (r : FakeRobot F) : Outcome q r (dispatch C q r).1 := by
  refine dispatch_cases (P := fun h => Outcome q r h.1) (fun _ => cmdEstop_outcome q r)
    (cmdReset_outcome q r) (fun _ => cmdMode_outcome q r) (fun _ => ?_)
    (fun _ => cmdInjectFault_outcome q r) (fun hname => ?_) (fun _ => Outcome.unchanged _)
  · exact cmdTask_cases (P := fun h => Outcome q r h.1)
      (fun taskId _ => taskPause_outcome q taskId r) (fun _ => taskCancel_outcome q r)
      (fun taskId _ hfree => taskGoto_outcome q taskId hfree)
      (fun taskId _ hfree => taskResume_outcome q taskId hfree)
      (fun _ _ _ _ => Outcome.unchanged _)
  · exact cmdClearFault_outcome q r (by simpa [clearNames] using hname)

/-! ### What follows from it -/

/-- No command moves the end of the start-up pause. -/
theorem Outcome.idleTp {q : Request} {r s : FakeRobot F} (h : Outcome q r s) :
    s.idleTp = r.idleTp := by
  cases h with
  | settles h => exact h.idleTp
  | stopped _ _ _ hidle => exact hidle
  | started _ _ _ _ hidle => exact hidle
  | cleared _ t _ _ _ hidle hs => rw [hs.idleTp, recompute_idleTp, hidle]
  | reset _ _ hidle => exact hidle

/-- What every block keeps, a chain of blocks keeps. -/
theorem settles_chain {due : Prop} {P : FakeRobot F → Prop} {r s : FakeRobot F}
    (hblock : ∀ r s, Settles due r s → P r → P s) (h : ReflTransGen (Settles due) r s)
    (hr : P r) : P s := by
  induction h with
  | refl => exact hr
  | tail _ hs ih => exact hblock _ _ hs ih

/-- Only an activation moves the end of the start-up pause. -/
theorem handle_idleTp {r s : FakeRobot F} {e : Event} {out : List (Output F)}
    (hcall : ∀ now, e.call ≠ .activate now) (h : handle C r e = some (s, out)) :
    s.idleTp = r.idleTp := by
  -- Nothing that settles touches the time, so neither does a chain of it.
  have hchain : ∀ {due : Prop} {s}, ReflTransGen (Settles due) r s → s.idleTp = r.idleTp :=
    fun hs => settles_chain (P := fun s => s.idleTp = r.idleTp)
      (fun _ _ hs heq => hs.idleTp.trans heq) hs rfl
  cases handle_cases h with
  | activate now hc => exact absurd hc (hcall now)
  | configure hc | deactivate hc | cleanup hc | shutdown hc => rfl
  | console data hc hready =>
      have hs : ReflTransGen (Settles False) r (onConsole e.nowMs data r).1 :=
        onConsole_settles e.nowMs data r
      exact hchain hs
  | noCmd data hc hready hq => rfl
  | cmd data q hc hready hq => exact (dispatch_outcome q r).idleTp
  | tick now fuel s out hc htick =>
      rcases tick_settles htick with ⟨-, rfl⟩ | ⟨-, hs⟩
      · rfl
      · exact hchain hs

end FakeRobot

end BotCockpit.Sim
