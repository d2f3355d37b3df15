import BotCockpit.Lib.Utf8
import BotCockpit.Proofs.Sim.TaskStep
import BotCockpit.Spec.StateMessage

/-!
# `BotCockpit.Proofs.Sim.Texts`: where the strings of the robot come from

Two kinds of strings of the robot are not its own: the task id and the details of the faults. A
command message carries them in, and everything else writes plain texts only. So a property of
texts that plain texts have, and the strings a scanner reads from the messages, holds of every
string of the robot (`Node.Runs.texts`). What a scanner reads from a UTF-8 message is UTF-8,
because it cuts and skips at ASCII bytes only (`extractString_wellFormed`).
-/

set_option autoImplicit false

namespace BotCockpit.Sim

open BotCockpit.Lib

/-! ### What the scanner reads is UTF-8 -/

/-- The text after a needle that ends in an ASCII byte. -/
theorem afterFirst_wellFormed {needle bs rest : Bytes} {a : UInt8} (ha : a < 0x80)
    (h : afterFirst (needle ++ [a]) bs = some rest) (hbs : Utf8.WellFormed bs) :
    Utf8.WellFormed rest := by
  obtain ⟨pre, rfl⟩ := afterFirst_eq_some h
  have hcut : pre ++ (needle ++ [a] ++ rest) = (pre ++ needle) ++ a :: rest := by simp
  rw [hcut] at hbs
  exact (Utf8.wellFormed_of_append_ascii ha hbs).2

/-- Dropping ASCII bytes in front keeps a text well-formed UTF-8. -/
theorem dropWhile_wellFormed {p : UInt8 → Bool} (hp : ∀ b, p b = true → b < 0x80) {bs : Bytes}
    (h : Utf8.WellFormed bs) : Utf8.WellFormed (bs.dropWhile p) := by
  induction bs with
  | nil => exact h
  | cons b bs ih =>
      rw [List.dropWhile_cons]
      split
      · rename_i hb
        rw [Utf8.WellFormed, Utf8.run_start_ascii (hp b hb)] at h
        exact ih h
      · exact h

/-- The value of a key in a text in UTF-8 is in UTF-8. -/
theorem valueOf_wellFormed {obj v : Bytes} {key : String} (h : valueOf obj key = some v)
    (hobj : Utf8.WellFormed obj) : Utf8.WellFormed v := by
  unfold valueOf at h
  cases hkey : afterFirst (quoted key) obj with
  | none => simp [hkey] at h
  | some rest =>
      cases hcolon : afterFirst [58] rest with
      | none => simp [hkey, hcolon] at h
      | some tail =>
          simp only [hkey, hcolon, Option.some.injEq] at h
          have hrest : Utf8.WellFormed rest :=
            @afterFirst_wellFormed (34 :: ascii key) _ _ 34 (by decide) hkey hobj
          have htail : Utf8.WellFormed tail :=
            @afterFirst_wellFormed [] _ _ 58 (by decide) hcolon hrest
          rw [← h]
          refine dropWhile_wellFormed (fun b hb => ?_) htail
          simp only [Bool.or_eq_true, beq_iff_eq] at hb
          rcases hb with rfl | rfl <;> decide

/-- Backslashes are skipped and a quote ends the string: both are ASCII. -/
theorem stringBody_run {bs : Bytes} : ∀ {s : Utf8.State}, Utf8.Inv s →
    Utf8.run s bs = some Utf8.start → Utf8.run s (stringBody bs) = some Utf8.start := by
  -- Over the cases of the reader: it stops at a quote and drops a backslash, both ASCII.
  induction bs using stringBody.induct with
  | case1 =>
      intro s _ h
      exact h
  | case2 =>
      intro s hs h
      rw [stringBody, if_pos rfl, (Utf8.run_ascii hs (by decide) h).1]
      rfl
  | case3 b hquote =>
      intro s _ h
      rwa [stringBody, if_neg hquote]
  | case4 c rest =>
      intro s hs h
      rw [stringBody, if_pos rfl, (Utf8.run_ascii hs (by decide) h).1]
      rfl
  | case5 c rest hquote ih =>
      intro s hs h
      obtain ⟨rfl, hrest⟩ := Utf8.run_ascii hs (by decide) h
      rw [stringBody, if_neg hquote, if_pos rfl]
      rw [Utf8.run, Option.bind_eq_some_iff] at hrest ⊢
      obtain ⟨t, ht, hrest⟩ := hrest
      exact ⟨t, ht, ih (Utf8.inv_step ht) hrest⟩
  | case6 b c rest hquote hback ih =>
      intro s hs h
      rw [stringBody, if_neg hquote, if_neg hback]
      rw [Utf8.run, Option.bind_eq_some_iff] at h ⊢
      obtain ⟨t, ht, h⟩ := h
      exact ⟨t, ht, ih (Utf8.inv_step ht) h⟩

/-- **A scanned string is UTF-8 when the message is.** -/
theorem extractString_wellFormed {obj s : Bytes} {key : String}
    (h : extractString obj key = some s) (hobj : Utf8.WellFormed obj) : Utf8.WellFormed s := by
  unfold extractString at h
  split at h
  · rename_i b body hv
    split at h
    · rename_i hb
      subst hb
      have hv := valueOf_wellFormed hv hobj
      rw [Utf8.WellFormed, Utf8.run_start_ascii (by decide)] at hv
      rw [← Option.some.inj h]
      exact stringBody_run Utf8.inv_start hv
    · cases h
  · cases h

/-! ### The strings of the robot -/

/-- A text of printable ASCII. -/
def PlainText (s : Bytes) : Prop := ∀ b ∈ s, 32 ≤ b ∧ b < 128

-- The quantifier over all bytes has an instance too, which tries every byte.
instance (s : Bytes) : Decidable (PlainText s) :=
  List.decidableBAll (fun b => 32 ≤ b ∧ b < 128) s

namespace FakeRobot

variable {F : Type} [CDouble F] {C : Type} [CFloat C] {P : Bytes → Prop}

/-- The strings of the robot have the property. -/
def Texts (P : Bytes → Prop) (r : FakeRobot F) : Prop := ∀ s ∈ r.strings, P s

/-- The condition reads the texts of the state and nothing else. -/
theorem Texts.of_eq {r s : FakeRobot F} (h : Texts P r) (hs : s.strings = r.strings) :
    Texts P s := by
  unfold Texts
  rw [hs]
  exact h

/-- A fault is listed. -/
theorem Texts.push {r s : FakeRobot F} {f : FaultItem} (h : Texts P r)
    (hid : s.taskId = r.taskId) (hfaults : s.faults = r.faults ++ [f]) (hf : P f.detail) :
    Texts P s := by
  intro t ht
  simp only [FakeRobot.strings, hid, hfaults, List.map_append, List.mem_cons, List.mem_append,
    List.map_cons, List.map_nil, List.not_mem_nil, or_false] at ht
  rcases ht with rfl | ht | rfl
  · exact h _ List.mem_cons_self
  · exact h t (List.mem_cons_of_mem _ ht)
  · exact hf

/-- The task is another one. -/
theorem Texts.rename {r s : FakeRobot F} (h : Texts P r) (hid : P s.taskId)
    (hfaults : s.faults = r.faults) : Texts P s := by
  intro t ht
  simp only [FakeRobot.strings, hfaults, List.mem_cons] at ht
  rcases ht with rfl | ht
  · exact hid
  · exact h t (List.mem_cons_of_mem _ ht)

/-- No fault is listed. -/
theorem Texts.clear {s : FakeRobot F} (hid : P s.taskId) (hfaults : s.faults = []) : Texts P s := by
  intro t ht
  simp only [FakeRobot.strings, hfaults, List.map_nil, List.mem_singleton] at ht
  rw [ht]
  exact hid

/-- The recomputation leaves the texts alone. -/
@[simp] theorem recompute_strings (r : FakeRobot F) :
    (recomputePhaseAndControl r).strings = r.strings := by
  obtain ⟨_, _, _, _, h⟩ := recompute_frame r
  rw [h]
  rfl

/-- So it keeps the condition. -/
theorem Texts.recomputed {r : FakeRobot F} (h : Texts P r) :
    Texts P (recomputePhaseAndControl r) :=
  h.of_eq (recompute_strings r)

/-! ### The tick and the console -/

/-- A safety stop leaves the texts alone: its fault carries none of the console. -/
theorem applySafetyStop_strings (nowMs : UInt64) (r : FakeRobot F) :
    (applySafetyStop nowMs r).1.strings = r.strings := by
  let stopped : FakeRobot F := { r with
    taskStatus := r.taskStatus.failOngoing
    phase := if r.phase = .running then .idle else r.phase
    taskType := .none }
  have hstopped : (recomputePhaseAndControl stopped).strings = r.strings :=
    recompute_strings stopped
  rw [← hstopped]
  show (if (recomputePhaseAndControl stopped).consoleOnline = true then
      recomputePhaseAndControl stopped
      else { recomputePhaseAndControl stopped with controlEnabled := false }).strings = _
  split <;> rfl

/-- So does a tick up to its motion point. -/
theorem motionPoint_strings (now : Int) (nowMs : UInt64) (r : FakeRobot F) :
    (motionPoint now nowMs r).1.strings = r.strings := by
  have hcheck : ∀ t : FakeRobot F, (checkHeartbeat nowMs t).1.strings = t.strings := by
    intro t
    unfold checkHeartbeat
    dsimp only
    split
    · split
      · exact applySafetyStop_strings nowMs _
      · rfl
    · rfl
  have hleave : ∀ t : FakeRobot F, (leaveInitializing now t).strings = t.strings := by
    intro t
    unfold leaveInitializing
    split <;> rfl
  unfold motionPoint
  rw [recompute_strings, hleave, hcheck]
  rfl

/-- So does a message of the console. -/
theorem onConsole_strings (nowMs : UInt64) (data : Bytes) (r : FakeRobot F) :
    (onConsole nowMs data r).1.strings = r.strings := by
  have hsettle : ∀ t : FakeRobot F,
      (let s := recomputePhaseAndControl t
       if s.consoleOnline then s else { s with controlEnabled := false }).strings = t.strings := by
    intro t
    rw [← recompute_strings t]
    dsimp only
    split <;> rfl
  unfold onConsole
  dsimp only
  by_cases honline : (extractBool data "online").getD false = true
  · rw [if_pos honline]
    exact hsettle _
  · rw [if_neg honline]
    split
    · exact (hsettle _).trans (applySafetyStop_strings nowMs _)
    · exact hsettle _

/-- So do driving, steering and replanning. -/
theorem steered_strings {fuel : Nat} {dt x y w : F} {r s : FakeRobot F} {collided : Bool}
    (h : drive fuel dt r = some (s, collided, w)) :
    (steered C dt x y collided w s).strings = r.strings := by
  obtain ⟨_, _, _, _, _, _, _, hsteered⟩ := steered_frame C dt x y w collided s
  obtain ⟨_, _, _, rfl, -⟩ := drive_frame h
  rw [hsteered]
  rfl

/-- So does the arrival. -/
theorem arrive_strings (r : FakeRobot F) : (arrive r).strings = r.strings := by
  rcases arrive_frame r with h | ⟨-, trail, h, -⟩
  · rw [h]
  · rw [h]
    exact recompute_strings _

section Plain

variable (hP : ∀ s, PlainText s → P s)

include hP

/-- A tracking error adds a fault with a text of the program. -/
theorem Texts.trackError {r : FakeRobot F} (h : Texts P r) : Texts P (trackError r) := by
  rcases trackError_frame r with ⟨err, errMax, herr⟩ | ⟨err, errMax, herr⟩
  · rw [herr]
    exact h.of_eq rfl
  · rw [herr]
    exact Texts.recomputed (h.push rfl rfl (hP _ (by decide)))

/-- So does a low battery. -/
theorem Texts.checkBattery {r : FakeRobot F} (h : Texts P r) : Texts P (checkBattery r) := by
  obtain ⟨b, -, hcheck | ⟨-, hcheck⟩⟩ := checkBattery_frame r
  · rw [hcheck]
    exact h.of_eq rfl
  · rw [hcheck]
    exact Texts.recomputed (h.push rfl rfl (hP _ (by decide)))

/-- The motion keeps the condition. -/
theorem Texts.move {fuel : Nat} {dt : F} {r s : FakeRobot F} (h : Texts P r)
    (hmove : move C fuel dt r = some s) : Texts P s := by
  rcases move_cases hmove with ⟨-, moved, rfl, hmoved⟩ | ⟨-, rfl | rfl⟩
  · have hmoved : Texts P moved := by
      rcases hmoved with ⟨-, hfollow⟩ | ⟨-, rfl⟩
      · obtain ⟨driven, collided, w, hdrive, rfl⟩ := follow_cases hfollow
        have hsteered : Texts P (steered C dt r.poseX r.poseY collided w driven) :=
          h.of_eq (steered_strings hdrive)
        exact (hsteered.trackError hP).of_eq (arrive_strings _)
      · exact h.of_eq (recompute_strings _)
    exact hmoved.of_eq rfl
  · exact h.of_eq rfl
  · exact h

/-- So does a tick. -/
theorem Texts.tick {now : Int} {nowMs : UInt64} {fuel : Nat} {r s : FakeRobot F}
    {out : List (Output F)} (h : Texts P r) (htick : tick C now nowMs fuel r = some (s, out)) :
    Texts P s := by
  rcases tick_cases htick with ⟨-, rfl, -⟩ | ⟨-, moved, hmoved, rfl, -⟩
  · exact h
  · have hhere : Texts P (motionPoint now nowMs r).1 := h.of_eq (motionPoint_strings now nowMs r)
    exact (hhere.move hP hmoved).checkBattery hP

/-! ### The commands -/

omit hP in
/-- An id the robot assigns is plain text. -/
theorem plainText_minted (n : Nat) : PlainText (ascii "T-" ++ decimal n) := by
  intro b hb
  rcases List.mem_append.mp hb with hb | hb
  · exact (show PlainText (ascii "T-") by decide) b hb
  · have hdigit := isDigit_of_mem_decimal n b hb
    simp only [isDigit, Bool.and_eq_true, decide_eq_true_eq] at hdigit
    exact ⟨UInt8.le_trans (by decide) hdigit.1, UInt8.lt_of_le_of_lt hdigit.2 (by decide)⟩

/-- A goto runs under its own id or under a new one. -/
theorem assignTaskId_texts {taskId id : Bytes} {r t : FakeRobot F} (hid : P taskId)
    (h : assignTaskId taskId r = (id, t)) : P id ∧ t.strings = r.strings := by
  unfold assignTaskId at h
  split at h <;> obtain ⟨rfl, rfl⟩ := Prod.mk.inj h
  · exact ⟨hP _ (plainText_minted _), rfl⟩
  · exact ⟨hid, rfl⟩

/-- A goto stores the id it got, or one it assigns. -/
theorem Texts.taskGoto {q : Request} {taskId : Bytes} {r : FakeRobot F} (h : Texts P r)
    (hid : P taskId) : Texts P (taskGoto C q taskId r).1 := by
  refine taskGoto_cases (P := fun x => Texts P x.1) (fun _ => h) (fun _ _ => h)
    (fun id t hassign _ _ _ => h.of_eq (assignTaskId_texts hP hid hassign).2)
    (fun id t hassign _ _ _ _ => ?_) (fun id t hassign _ _ _ _ => ?_)
  · have ht : Texts P t := h.of_eq (assignTaskId_texts hP hid hassign).2
    exact Texts.recomputed (ht.push rfl rfl (hP _ (by decide)))
  · have ht : Texts P t := h.of_eq (assignTaskId_texts hP hid hassign).2
    exact ht.rename (assignTaskId_texts hP hid hassign).1 rfl

/-- A task command stores no other text than its id. -/
theorem Texts.cmdTask {q : Request} {r : FakeRobot F} (h : Texts P r)
    (hid : ∀ s, extractString q.data "task_id" = some s → P s) : Texts P (cmdTask C q r).1 := by
  have hnil : P [] := hP [] fun _ hb => absurd hb List.not_mem_nil
  have hask : P (taskId? q) := by
    unfold taskId?
    cases hs : extractString q.data "task_id" with
    | none => exact hnil
    | some s => exact hid s hs
  by_cases hgoto : taskType? q = ascii "goto" ∧ ¬r.blocked
  · rw [cmdTask_goto hgoto.1 hgoto.2]
    exact h.taskGoto hP hask
  · refine cmdTask_cases (P := fun x => Texts P x.1) (fun taskId _ => ?_) (fun _ => ?_)
      (fun taskId htype hfree => absurd ⟨htype, hfree⟩ hgoto) (fun taskId _ _ => ?_)
      (fun _ _ _ _ => h)
    · unfold taskPause
      split
      · exact h.of_eq (recompute_strings _)
      · exact h
    · have hcancelled : Texts P { r with taskId := [] } := h.rename hnil rfl
      exact hcancelled.of_eq (recompute_strings _)
    · unfold taskResume
      split
      · exact h.of_eq rfl
      · exact h

/-- A command stores no other text than its id and the detail of a fault. -/
theorem Texts.dispatch {q : Request} {r : FakeRobot F} (h : Texts P r)
    (hid : ∀ s, extractString q.data "task_id" = some s → P s)
    (hdetail : ∀ s, extractString q.data "detail" = some s → P s) :
    Texts P (dispatch C q r).1 := by
  have hnil : P [] := hP [] fun _ hb => absurd hb List.not_mem_nil
  refine dispatch_cases (P := fun x => Texts P x.1) (fun _ => ?_) (fun _ => ?_) (fun _ => ?_)
    (fun _ => h.cmdTask hP hid) (fun _ => ?_) (fun _ => ?_) (fun _ => h)
  · unfold cmdEstop
    dsimp only
    split
    · exact h.of_eq rfl
    · exact h.push rfl rfl (hP _ (by decide))
  · by_cases hconfirm : extractBool q.data "confirm" = some true
    · cases hblock : r.hasBlocking with
      | true =>
          rw [cmdReset_blocked hconfirm hblock]
          exact h
      | false =>
          rw [cmdReset_accepted hconfirm hblock]
          exact Texts.clear hnil rfl
    · rw [cmdReset_unconfirmed r hconfirm]
      exact h
  · rw [cmdMode_state]
    split
    · exact h
    · split
      · exact h
      · exact h.of_eq rfl
  · -- The detail of an injected fault comes from the command, or is the default.
    have hread : P ((extractString q.data "detail").getD (ascii "injected by operator")) := by
      cases hs : extractString q.data "detail" with
      | none => exact hP _ (by decide)
      | some s => exact hdetail s hs
    exact Texts.recomputed (h.push rfl rfl hread)
  · have hcleared : Texts P (clearedState r) := Texts.clear (h _ List.mem_cons_self) rfl
    rw [cmdClearFault_state]
    exact hcleared.recomputed.of_eq rfl

/-- **Every callback keeps the property**, when the strings of a command message have it. -/
theorem Texts.handle {e : Event} {r s : FakeRobot F} {out : List (Output F)} (h : Texts P r)
    (hcmd : ∀ data, e.call = .cmd data → ∀ key ∈ ["task_id", "detail"], ∀ s,
      extractString data key = some s → P s)
    (hstep : handle C r e = some (s, out)) : Texts P s := by
  have hnil : P [] := hP [] fun _ hb => absurd hb List.not_mem_nil
  cases handle_cases hstep with
  | configure hc => exact Texts.clear hnil rfl
  | activate now hc => exact h.of_eq rfl
  | deactivate hc | cleanup hc | shutdown hc => exact h.of_eq rfl
  | console data hc hready => exact h.of_eq (onConsole_strings e.nowMs data r)
  | noCmd data hc hready hq => exact h
  | cmd data q hc hready hq =>
      -- A command stores nothing but its task id and its detail.
      have hdata := (request?_eq hq).2.1
      refine h.dispatch hP ?_ ?_
      · rw [hdata]
        exact hcmd data hc _ (by simp)
      · rw [hdata]
        exact hcmd data hc _ (by simp)
  | tick now fuel s out hc htick => exact h.tick hP htick

end Plain

end FakeRobot

open FakeRobot

variable {F : Type} [CDouble F] {C : Type} [CFloat C]

/-- **Where the strings of the robot come from.** In every run they have a property that plain
texts have, and the strings read from the command messages. -/
theorem Node.Runs.texts {P : Bytes → Prop} (hP : ∀ s, PlainText s → P s) {h : Node.History F}
    {n : Node F} (hrun : Node.Runs C h n)
    (hcmd : Commands (fun data => ∀ key ∈ ["task_id", "detail"], ∀ s,
      extractString data key = some s → P s) h) : Texts P n.robot := by
  have hnil : P [] := hP [] fun _ hb => absurd hb List.not_mem_nil
  refine hrun.invariant_history
    (P := fun h n => Commands (fun data => ∀ key ∈ ["task_id", "detail"],
    ∀ s, extractString data key = some s → P s) h → Texts P n.robot) (fun _ => ?_) ?_ hcmd
  · exact Texts.clear hnil rfl
  · intro h n e m out ih _ hstep hcmd
    have hn := ih fun x hx => hcmd x (List.mem_append_left _ hx)
    exact hn.handle hP (fun data hdata => hcmd (e, out) (by simp) data hdata)
      (Node.step_handle hstep)

end BotCockpit.Sim
