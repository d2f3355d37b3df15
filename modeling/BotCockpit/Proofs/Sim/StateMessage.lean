import BotCockpit.Lib.Exact
import BotCockpit.Proofs.Sim.Texts

/-!
# `BotCockpit.Proofs.Sim.StateMessage`: a state message is read as the state

`esc` escapes quotes and backslashes, so between quotes it reads back the strings without a control
character, and a reader refuses the others (`esc_readsBack`). A state message has one string for
each string of the robot and one number for each number (`allLeaves_stateJson`), and the rest of it
is plain. So a reader gets the robot out of the message exactly when the robot is `Clean`.
-/

set_option autoImplicit false

namespace BotCockpit.Sim

open BotCockpit.Lib

/-! ### The escaping -/

/-- No byte is a control character. -/
def printable (s : Bytes) : Bool := s.all fun b => 32 ≤ b

/-- The test of the text and the condition on its bytes are one. -/
theorem printable_iff (s : Bytes) : printable s = true ↔ Printable s := by
  simp [printable, Printable]

/-- Escaping goes byte by byte: a quote and a backslash get a backslash in front. -/
theorem esc_cons (c : UInt8) (s : Bytes) :
    esc (c :: s) = (if c = 34 ∨ c = 92 then [92, c] else [c]) ++ esc s := rfl

/-- A reader that meets an escaped text reads it back when it is printable and fails when not. -/
theorem readItems_esc (s rest : Bytes) :
    Json.readItems (esc s ++ 34 :: rest) =
      if printable s = true then some (s.map .byte, rest) else none := by
  induction s with
  | nil => exact Json.readItems_quote rest
  | cons c s ih =>
      rw [esc_cons, List.append_assoc]
      have hcons : printable (c :: s) = (decide (32 ≤ c) && printable s) := rfl
      by_cases hesc : c = 34 ∨ c = 92
      · have hctrl : (32 : UInt8) ≤ c := by rcases hesc with rfl | rfl <;> decide
        rw [if_pos hesc, hcons, decide_eq_true hctrl, Bool.true_and]
        rw [List.cons_append, List.singleton_append, Json.readItems_escaped hesc, ih]
        split <;> rfl
      · rw [if_neg hesc, List.singleton_append, hcons]
        rw [not_or] at hesc
        by_cases hctrl : (32 : UInt8) ≤ c
        · rw [Json.readItems_byte hctrl hesc.1 hesc.2, ih, decide_eq_true hctrl, Bool.true_and]
          split <;> rfl
        · rw [Json.readItems_control (UInt8.not_le.mp hctrl), decide_eq_false hctrl]
          rfl

/-- **What the escaping is good for.** -/
theorem esc_readsBack : Json.ReadsBack esc printable := by
  intro s rest
  rw [Json.readString, readItems_esc]
  split
  · simp [Json.stringBytes_map_byte]
  · rfl

/-- Escaping adds ASCII bytes only, so the UTF-8 automaton goes through as before. -/
theorem esc_run {bs : Bytes} : ∀ {s t : Utf8.State}, Utf8.Inv s → Utf8.run s bs = some t →
    Utf8.run s (esc bs) = some t := by
  induction bs with
  | nil =>
      intro s t _ h
      exact h
  | cons c bs ih =>
      intro s t hs h
      rw [esc_cons]
      by_cases hesc : c = 34 ∨ c = 92
      · -- The character is ASCII, so a backslash may stand before it.
        have hc : c < 0x80 := by rcases hesc with rfl | rfl <;> decide
        obtain ⟨rfl, hrest⟩ := Utf8.run_ascii hs hc h
        rw [if_pos hesc, List.cons_append, List.singleton_append,
          Utf8.run_start_ascii (by decide), Utf8.run_start_ascii hc]
        exact ih Utf8.inv_start hrest
      · rw [if_neg hesc, List.singleton_append]
        rw [Utf8.run, Option.bind_eq_some_iff] at h ⊢
        obtain ⟨u, hu, h⟩ := h
        exact ⟨u, hu, ih (Utf8.inv_step hu) h⟩

/-- Escaping keeps a text well-formed UTF-8. -/
theorem esc_wellFormed (s : Bytes) (h : Utf8.WellFormed s) : Utf8.WellFormed (esc s) :=
  esc_run Utf8.inv_start h

namespace FakeRobot

variable {F : Type} [CDouble F]

/-! ### The leaves of a state message -/

/-- The names of the modes need no escape. -/
theorem plainText_mode (m : Mode) : PlainText (ascii m.text) := by cases m <;> decide
/-- The names of the phases need no escape. -/
theorem plainText_phase (p : Phase) : PlainText (ascii p.text) := by cases p <;> decide
/-- The names of the task's states need no escape. -/
theorem plainText_taskStatus (s : TaskStatus) : PlainText (ascii s.text) := by cases s <;> decide
/-- The names of the navigation's states need no escape. -/
theorem plainText_navStatus (s : NavStatus) : PlainText (ascii s.text) := by cases s <;> decide
/-- The names of the node's states need no escape. -/
theorem plainText_nodeStatus (s : NodeStatus) : PlainText (ascii s.text) := by cases s <;> decide
/-- The names of the levels need no escape. -/
theorem plainText_level (l : FaultLevel) : PlainText (ascii l.text) := by cases l <;> decide
/-- The codes of the faults need no escape. -/
theorem plainText_code (c : FaultCode) : PlainText (ascii c.text) := by cases c <;> decide

/-- The name of the connection needs no escape. -/
theorem plainText_conn (r : FakeRobot F) : PlainText (ascii r.conn) := by
  unfold conn
  repeat' split
  all_goals decide

/-- A property of leaves that holds of what every state message has. -/
structure Plain (p : Json → Bool) : Prop where
  null : p .null = true
  bool : ∀ b, p (.bool b) = true
  str : ∀ s, PlainText s → p (.str s) = true
  nat : ∀ n, p (natNum n) = true

/-- An object has the leaves of its values. -/
theorem allLeaves_object (p : Json → Bool) (fs : List (String × Json)) :
    Json.allLeaves p (.object fs) = fs.all fun kv => Json.allLeaves p kv.2 := by
  rw [Json.object, Json.allLeaves, Json.allFields_eq, List.all_map]
  rfl

/-- A list has the leaves of its elements. -/
theorem allLeaves_arr (p : Json → Bool) (vs : List Json) :
    Json.allLeaves p (.arr vs) = vs.all (Json.allLeaves p) := by
  rw [Json.allLeaves, Json.allItems_eq]

/-- An optional text: either `null` or a leaf of its own. -/
theorem Plain.strOrNull {p : Json → Bool} (hp : Plain p) (s : Bytes) :
    Json.allLeaves p (strOrNull s) = p (.str s) := by
  unfold Sim.strOrNull
  split
  · rename_i hs
    rw [hs, hp.str [] fun _ hb => absurd hb List.not_mem_nil]
    exact hp.null
  · rfl

/-- The leaves of the nested path are its coordinates. -/
theorem allLeaves_path {p : Json → Bool} (path : List (F × F)) :
    Json.allLeaves p (pathToJson path) =
      (path.flatMap fun q => [q.1, q.2]).all fun x => p (.num (CDouble.toStringText x)) := by
  rw [pathToJson, allLeaves_arr, List.all_map, List.all_flatMap]
  have hnum : ∀ text, Json.allLeaves p (.num text) = p (.num text) := fun _ => rfl
  simp [Function.comp_def, allLeaves_arr, hnum]

/-- The leaves of the flat path are its coordinates. -/
theorem allLeaves_flatPath {p : Json → Bool} (path : List (F × F)) :
    Json.allLeaves p (pathToFlatJson path) =
      (path.flatMap fun q => [q.1, q.2]).all fun x => p (.num (CDouble.toStringText x)) := by
  rw [pathToFlatJson, allLeaves_arr, List.all_flatMap, List.all_flatMap]
  rfl

/-- **What a state message is made of.** Its leaves are the strings and the numbers of the robot,
and leaves that every state message has. -/
theorem Plain.allLeaves_stateJson {p : Json → Bool} (hp : Plain p) (nowMs : UInt64)
    (r : FakeRobot F) :
    Json.allLeaves p (stateJson nowMs r) = true ↔
      (∀ s ∈ r.strings, p (.str s) = true) ∧
      (∀ x ∈ r.gauges, p (.num (CDouble.ostreamText x)) = true) ∧
      ∀ x ∈ r.coordinates, p (.num (CDouble.toStringText x)) = true := by
  have hlit : ∀ s, PlainText (ascii s) → Json.allLeaves p (.lit s) = true :=
    fun s hs => hp.str (ascii s) hs
  have hrobot := hlit "fake_robot" (by decide)
  have hbridge := hlit "bridge" (by decide)
  have htype : Json.allLeaves p (if r.taskType = .goto then .lit "goto" else .null) = true := by
    split
    · exact hlit _ (by decide)
    · exact hp.null
  have hnat : ∀ n, Json.allLeaves p (natNum n) = true := hp.nat
  have hbool : ∀ b, Json.allLeaves p (.bool b) = true := hp.bool
  have hstr : ∀ s, Json.allLeaves p (.str s) = p (.str s) := fun _ => rfl
  have hnum : ∀ x : F, Json.allLeaves p (ossNum x) = p (.num (CDouble.ostreamText x)) :=
    fun _ => rfl
  simp only [stateJson, allLeaves_object, allLeaves_arr, List.all_cons, List.all_nil, List.all_map,
    Function.comp_def, hp.strOrNull, hrobot, hbridge, htype, hnat, hbool, hstr, hnum, hlit,
    allLeaves_path, allLeaves_flatPath, plainText_mode, plainText_phase, plainText_taskStatus,
    plainText_navStatus, plainText_nodeStatus, plainText_conn, plainText_level, plainText_code,
    Bool.true_and, Bool.and_true, Bool.and_eq_true, List.all_eq_true]
  simp only [FakeRobot.strings, gauges, coordinates, List.flatMap_append, List.forall_mem_cons,
    List.forall_mem_append, List.forall_mem_map, List.not_mem_nil, false_imp_iff, implies_true,
    and_true]
  tauto

/-! ### The text of a state message -/

/-- An object is well formed with plain keys and well-formed values. -/
theorem wf_object (fs : List (String × Json)) :
    Json.wf (.object fs) = fs.all fun kv => Json.plainKey (ascii kv.1) && Json.wf kv.2 := by
  rw [Json.object, Json.wf]
  induction fs with
  | nil => rfl
  | cons f fs ih => rw [List.map_cons, Json.wfFields, List.all_cons, ih]

/-- A list is well formed with well-formed elements. -/
theorem wf_arr (vs : List Json) : Json.wf (.arr vs) = vs.all Json.wf := by
  rw [Json.wf]
  induction vs with
  | nil => rfl
  | cons v vs ih => rw [Json.wfItems, List.all_cons, ih]

/-- What the stream prints for a `double` is a number of JSON. -/
theorem wf_ossNum (hprint : PrintsDoubles F) (x : F) : Json.wf (ossNum x) = true := by
  rw [ossNum, Json.wf, Bool.or_eq_true, decide_eq_true_eq, decide_eq_true_eq]
  cases hx : CDouble.isFinite x with
  | true => exact Or.inl (hprint.ostream x hx)
  | false => exact Or.inr (hprint.ostream_nonFinite x hx)

/-- What the text of a coordinate prints is a number of JSON. -/
theorem wf_coordinate (hprint : PrintsDoubles F) (x : F) :
    Json.wf (.num (CDouble.toStringText x)) = true := by
  rw [Json.wf, Bool.or_eq_true, decide_eq_true_eq, decide_eq_true_eq]
  cases hx : CDouble.isFinite x with
  | true => exact Or.inl (hprint.toString x hx)
  | false => exact Or.inr (hprint.toString_nonFinite x hx)

/-- The tree of the state is well formed whatever the state is. -/
theorem wf_stateJson (hprint : PrintsDoubles F) (nowMs : UInt64) (r : FakeRobot F) :
    Json.wf (stateJson nowMs r) = true := by
  have hnat : ∀ n, Json.wf (natNum n) = true := fun n => by
    rw [natNum, Json.wf, decide_eq_true (Json.isNumber_decimal n), Bool.true_or]
  have hlit : ∀ s, Json.wf (.lit s) = true := fun _ => rfl
  have hstr : ∀ s, Json.wf (.str s) = true := fun _ => rfl
  have hbool : ∀ b, Json.wf (.bool b) = true := fun _ => rfl
  have hid : Json.wf (strOrNull r.taskId) = true := by
    unfold strOrNull
    split <;> rfl
  have htype : Json.wf (if r.taskType = .goto then .lit "goto" else .null) = true := by
    split <;> rfl
  have hpath : ∀ path : List (F × F), Json.wf (pathToJson path) = true := fun path => by
    simp [pathToJson, wf_arr, wf_coordinate hprint, Function.comp_def]
  have hflat : ∀ path : List (F × F), Json.wf (pathToFlatJson path) = true := fun path => by
    simp [pathToFlatJson, wf_arr, wf_coordinate hprint]
  have hoss := wf_ossNum hprint
  -- What is left says of every key that it needs no escaping.
  simp only [stateJson, wf_object, wf_arr, List.all_cons, List.all_nil, List.all_map,
    Function.comp_def, hnat, hlit, hstr, hbool, hid, htype, hpath, hflat, hoss, Bool.and_true,
    Bool.and_eq_true, List.all_eq_true]
  simp +decide only [implies_true, and_self]

/-- The fault that a state message lists for `f`. -/
def faultJson (nowMs : UInt64) (f : FaultItem) : Json := .object
  [("ts_ms", natNum nowMs.toNat), ("code", .lit f.code.text), ("level", .lit f.level.text),
    ("node", .lit "fake_robot"), ("detail", .str f.detail), ("active", .bool f.active)]

/-- An entry of the fault list is read back as it was. -/
theorem read_faultJson (nowMs : UInt64) (f : FaultItem) :
    FaultView.read (faultJson nowMs f) = some f.view := by
  have hcode : (faultJson nowMs f).find? "code" = some (.lit f.code.text) := by
    simp only [faultJson, Json.find?_object_cons, Json.find?_object_nil]
    rfl
  have hlevel : (faultJson nowMs f).find? "level" = some (.lit f.level.text) := by
    simp only [faultJson, Json.find?_object_cons, Json.find?_object_nil]
    rfl
  have hnode : (faultJson nowMs f).find? "node" = some (.lit "fake_robot") := by
    simp only [faultJson, Json.find?_object_cons, Json.find?_object_nil]
    rfl
  have hdetail : (faultJson nowMs f).find? "detail" = some (.str f.detail) := by
    simp only [faultJson, Json.find?_object_cons, Json.find?_object_nil]
    rfl
  have hactive : (faultJson nowMs f).find? "active" = some (.bool f.active) := by
    simp only [faultJson, Json.find?_object_cons, Json.find?_object_nil]
    rfl
  simp only [FaultView.read, stringAt, boolAt, hcode, hlevel, hnode, hdetail, hactive, Json.lit]
  rfl

/-- So is the whole list. -/
theorem read_faults (nowMs : UInt64) (fs : List FaultItem) :
    (fs.map (faultJson nowMs)).mapM FaultView.read = some (fs.map FaultItem.view) := by
  induction fs with
  | nil => rfl
  | cons f fs ih =>
      simp only [List.map_cons, List.mapM_cons, read_faultJson, ih]
      rfl

/-- The task of a state message. -/
def taskJson (r : FakeRobot F) : Json := .object
  [("id", strOrNull r.taskId), ("type", if r.taskType = .goto then .lit "goto" else .null),
    ("status", .lit r.taskStatus.text)]

/-- The task's three texts are read back as they were. -/
theorem read_taskJson (r : FakeRobot F) :
    stringOrNullAt "id" (taskJson r) = some r.taskId ∧
      stringOrNullAt "type" (taskJson r) = some (ascii r.taskType.text) ∧
      stringAt "status" (taskJson r) = some (ascii r.taskStatus.text) := by
  have hid : (taskJson r).find? "id" = some (strOrNull r.taskId) := by
    simp only [taskJson, Json.find?_object_cons, Json.find?_object_nil]
    rfl
  have htype : (taskJson r).find? "type" =
      some (if r.taskType = .goto then .lit "goto" else .null) := by
    simp only [taskJson, Json.find?_object_cons, Json.find?_object_nil]
    rfl
  have hstatus : (taskJson r).find? "status" = some (.lit r.taskStatus.text) := by
    simp only [taskJson, Json.find?_object_cons, Json.find?_object_nil]
    rfl
  refine ⟨?_, ?_, ?_⟩
  · rw [stringOrNullAt, hid]
    by_cases h : r.taskId = [] <;> simp [strOrNull, h]
  · rw [stringOrNullAt, htype]
    cases r.taskType <;> rfl
  · rw [stringAt, hstatus]
    rfl

/-- What a state message has under the keys that a reader takes. -/
theorem find?_view (nowMs : UInt64) (r : FakeRobot F) :
    (stateJson nowMs r).find? "mode" = some (.lit r.mode.text) ∧
      (stateJson nowMs r).find? "phase" = some (.lit r.phase.text) ∧
      (stateJson nowMs r).find? "estop" = some (.bool r.estop) ∧
      (stateJson nowMs r).find? "control_enabled" = some (.bool r.controlEnabled) ∧
      (stateJson nowMs r).find? "task" = some (taskJson r) ∧
      (stateJson nowMs r).find? "faults" = some (.arr (r.faults.map (faultJson nowMs))) ∧
      (stateJson nowMs r).find? "pose" = some (.object
        [("x", ossNum r.poseX), ("y", ossNum r.poseY), ("yaw", ossNum r.poseYaw)]) ∧
      (stateJson nowMs r).find? "battery" = some (ossNum r.battery) := by
  refine ⟨?_, ?_, ?_, ?_, ?_, ?_, ?_, ?_⟩ <;>
    simp only [stateJson, Json.find?_object_cons, Json.find?_object_nil] <;>
    rfl

/-- The pose is read back as it was. -/
theorem read_pose (x y z : F) :
    let pose := Json.object [("x", ossNum x), ("y", ossNum y), ("yaw", ossNum z)]
    numberAt "x" pose = some (CDouble.ostreamText x) ∧
      numberAt "y" pose = some (CDouble.ostreamText y) ∧
      numberAt "yaw" pose = some (CDouble.ostreamText z) := by
  refine ⟨?_, ?_, ?_⟩ <;>
    simp only [numberAt, Json.find?_object_cons, Json.find?_object_nil] <;>
    rfl

/-- A reader finds what it shows under its keys. -/
theorem read_stateJson (nowMs : UInt64) (r : FakeRobot F) :
    StateView.read (stateJson nowMs r) = some r.view := by
  obtain ⟨hmode, hphase, hestop, hcontrol, htask, hfaults, hpose, hbattery⟩ := find?_view nowMs r
  obtain ⟨hid, htype, hstatus⟩ := read_taskJson r
  obtain ⟨hx, hy, hyaw⟩ := read_pose r.poseX r.poseY r.poseYaw
  have hread := read_faults nowMs r.faults
  have hmode' : stringAt "mode" (stateJson nowMs r) = some (ascii r.mode.text) := by
    rw [stringAt, hmode]
    rfl
  have hphase' : stringAt "phase" (stateJson nowMs r) = some (ascii r.phase.text) := by
    rw [stringAt, hphase]
    rfl
  have hbattery' : numberAt "battery" (stateJson nowMs r) =
      some (CDouble.ostreamText r.battery) := by
    rw [numberAt, hbattery]
    rfl
  simp only [StateView.read, hmode', hphase', boolAt, hestop, hcontrol, htask, hid, htype, hstatus,
    arrayAt, hfaults, hread, hpose, hx, hy, hyaw, hbattery', Option.bind_eq_bind, Option.bind_some]
  rfl

/-- Of a printed `double`, exactly a finite one is a number. -/
theorem isNumber_iff {finite : Bool} {text : Bytes} (hnum : finite = true → Json.IsNumber text)
    (hnon : finite = false → text ∈ Json.nonFinite) : Json.IsNumber text ↔ finite = true := by
  have hnone : ∀ t ∈ Json.nonFinite, ¬Json.IsNumber t := by decide
  cases finite with
  | true => exact ⟨fun _ => rfl, fun _ => hnum rfl⟩
  | false => exact ⟨fun h => absurd h (hnone text (hnon rfl)), fun h => by cases h⟩

/-- The texts of the program are ASCII, hence UTF-8. -/
theorem plain_utf8 : Plain Json.utf8 :=
  ⟨rfl, fun _ => rfl,
    fun _ hs => decide_eq_true (Utf8.wellFormed_of_ascii fun b hb => (hs b hb).2), fun _ => rfl⟩

/-- The texts of the program are printable, hence readable. -/
theorem plain_readable : Plain (Json.readable printable) :=
  ⟨rfl, fun _ => rfl, fun s hs => (printable_iff s).mpr fun b hb => (hs b hb).1,
    fun n => decide_eq_true (Json.isNumber_decimal n)⟩

/-- The text of a clean robot is its state message, and that of another one is not JSON. -/
theorem parse_buildStateJson (hprint : PrintsDoubles F) (nowMs : UInt64) {r : FakeRobot F}
    (hutf8 : Texts Utf8.WellFormed r) :
    (Clean r → Json.parse (buildStateJson nowMs r) = some (stateJson nowMs r)) ∧
      (¬Clean r → Json.parse (buildStateJson nowMs r) = none) := by
  have hwf := wf_stateJson hprint nowMs r
  have hbytes : Utf8.WellFormed (buildStateJson nowMs r) := by
    refine Json.wellFormed_render esc_wellFormed _ hwf ?_
    exact (plain_utf8.allLeaves_stateJson nowMs r).mpr
      ⟨fun s hs => decide_eq_true (hutf8 s hs), fun _ _ => rfl, fun _ _ => rfl⟩
  have hparse := Json.parse_render esc_readsBack hwf hbytes
  have hclean : Json.allLeaves (Json.readable printable) (stateJson nowMs r) = true ↔ Clean r := by
    rw [plain_readable.allLeaves_stateJson]
    simp only [Json.readable, printable_iff, decide_eq_true_eq,
      isNumber_iff (hprint.ostream _) (hprint.ostream_nonFinite _),
      isNumber_iff (hprint.toString _) (hprint.toString_nonFinite _)]
    exact ⟨fun h => ⟨h.1, h.2.1, h.2.2⟩, fun h => ⟨h.strings, h.gauges, h.coordinates⟩⟩
  constructor
  · intro h
    rw [buildStateJson, hparse, if_pos (hclean.mpr h)]
  · intro h
    rw [buildStateJson, hparse, if_neg fun h' => h (hclean.mp h')]

/-- **When a reader gets the robot out of its state message.** -/
theorem readAs_iff (hprint : PrintsDoubles F) (nowMs : UInt64) {r : FakeRobot F}
    (hutf8 : Texts Utf8.WellFormed r) : ReadAs (buildStateJson nowMs r) r ↔ Clean r := by
  obtain ⟨hsome, hnone⟩ := parse_buildStateJson hprint nowMs hutf8
  constructor
  · rintro ⟨j, hj, -⟩
    by_contra hno
    rw [hnone hno] at hj
    cases hj
  · exact fun h => ⟨_, hsome h, read_stateJson nowMs r⟩

end FakeRobot

open FakeRobot

variable {F : Type} [CDouble F] {C : Type} [CFloat C]

/-- Commands in UTF-8 leave only texts in UTF-8 in the state. -/
theorem Node.Runs.wellFormed {h : Node.History F} {n : Node F} (hrun : Node.Runs C h n)
    (hutf8 : Commands Utf8.WellFormed h) : Texts Utf8.WellFormed n.robot :=
  hrun.texts (fun _ hs => Utf8.wellFormed_of_ascii fun b hb => (hs b hb).2)
    fun x hx data hdata _ _ _ hs => extractString_wellFormed hs (hutf8 x hx data hdata)

/-- **When a published state is read as the state.** In a run whose command messages are UTF-8, the
state message of every state is JSON that a reader reads as the state exactly when the state is
clean. No string has a control character when no command message carries one in. -/
theorem state_message (hprint : PrintsDoubles F) {h : Node.History F} {n : Node F}
    (hrun : Node.Runs C h n) (hutf8 : Commands Utf8.WellFormed h) :
    (∀ nowMs, ReadAs (buildStateJson nowMs n.robot) n.robot ↔ Clean n.robot) ∧
      (Commands CarriesPrintable h → ∀ s ∈ n.robot.strings, Printable s) :=
  ⟨fun nowMs => readAs_iff hprint nowMs (hrun.wellFormed hutf8),
    fun hcarry => hrun.texts (fun _ hs b hb => (hs b hb).1) hcarry⟩

/-! ### Two faults -/

/-- Exact numbers are printed as decimal fractions. -/
theorem printsDoubles_exact : PrintsDoubles ℚ := by
  have hnum : ∀ x : ℚ, Json.IsNumber (Exact.sixDigits x) := by
    intro x
    unfold Exact.sixDigits
    dsimp only
    -- The digits after the point, filled up to six.
    generalize (Exact.sixDigits.abs x * 10 ^ 6 + 1 / 2).floor.toNat = n
    have hdigits : ∀ b ∈ List.replicate (6 - (decimal (n % 10 ^ 6)).length) 48 ++
        decimal (n % 10 ^ 6), isDigit b = true := by
      intro b hb
      rcases List.mem_append.mp hb with hb | hb
      · rw [(List.mem_replicate.mp hb).2]
        rfl
      · exact isDigit_of_mem_decimal _ b hb
    have hne := List.append_ne_nil_of_right_ne_nil
      (List.replicate (6 - (decimal (n % 10 ^ 6)).length) 48) (decimal_ne_nil (n % 10 ^ 6))
    simpa only [decide_eq_true_eq] using
      Json.isNumber_fraction (decide (x < 0)) (n / 10 ^ 6) hdigits hne
  exact ⟨fun x _ => hnum x, fun x h => Bool.noConfusion h, fun x _ => hnum x,
    fun x h => Bool.noConfusion h⟩

/-- The messages of the command callbacks. -/
def commandData (h : Node.History F) : List Bytes := h.filterMap fun x =>
  match x.1.call with
  | .cmd data => some data
  | _ => none

/-- A property of the commands of a run, over the list of their payloads. -/
theorem commands_iff {P : Bytes → Prop} {h : Node.History F} :
    Commands P h ↔ ∀ data ∈ commandData h, P data := by
  unfold Commands commandData
  constructor
  · intro hP data hdata
    obtain ⟨x, hx, hcall⟩ := List.mem_filterMap.mp hdata
    cases hc : x.1.call <;> simp only [hc, Option.some.injEq, reduceCtorEq] at hcall
    exact hP x hx data (hcall ▸ hc)
  · intro hP x hx data hcall
    exact hP data (List.mem_filterMap.mpr ⟨x, hx, by rw [hcall]⟩)

instance (s : Bytes) : Decidable (Printable s) := List.decidableBAll (32 ≤ ·) s

/-- A robot that was brought up, and a fault with this detail. -/
def detailEvents (detail : Bytes) : List Event :=
  readyEvents ++ [⟨5,
    .cmd (ascii "\x7b\"cmd\":\"INJECT_FAULT\",\"detail\":\"" ++ detail ++ ascii "\"\x7d")⟩]

/-- The detail has quotes, a backslash and a character outside ASCII. -/
def quotedRun : Node.History ℚ × Node ℚ :=
  (exec (Node.step Exact.Cost) anyStep Node.init
    (detailEvents (ascii "wheel \\\"left\\\" C:\\\\x " ++ [0xC3, 0xA9]))).get (by decide +kernel)

/-- A run whose task id has a quote in it: its message is read as the state. -/
theorem state_message_quoted :
    ReadAs (buildStateJson 6 quotedRun.2.robot) quotedRun.2.robot := by
  refine ((state_message printsDoubles_exact (C := Exact.Cost) (h := quotedRun.1)
    (Run.of_exec (Option.some_get _).symm) ?_).1 6).mpr ⟨?_, fun _ _ => rfl, fun _ _ => rfl⟩
  · rw [commands_iff]
    decide +kernel
  · decide +kernel

/-- The detail has a tab. -/
def tabbedRun : Node.History ℚ × Node ℚ :=
  (exec (Node.step Exact.Cost) anyStep Node.init (detailEvents (ascii "left\twheel"))).get
    (by decide +kernel)

/-- **A tab blanks the state.** The command is UTF-8, and no state message of the robot is JSON. -/
theorem state_message_tab :
    ∃ (h : Node.History ℚ) (n : Node ℚ), Node.Runs Exact.Cost h n ∧
      Commands Utf8.WellFormed h ∧ ∀ nowMs, Json.parse (buildStateJson nowMs n.robot) = none := by
  have hrun : Node.Runs Exact.Cost tabbedRun.1 tabbedRun.2 := Run.of_exec (Option.some_get _).symm
  have hutf8 : Commands Utf8.WellFormed tabbedRun.1 := by
    rw [commands_iff]
    decide +kernel
  refine ⟨_, _, hrun, hutf8, fun nowMs => ?_⟩
  refine (parse_buildStateJson printsDoubles_exact nowMs (hrun.wellFormed hutf8)).2 fun h => ?_
  exact absurd h.strings (by decide +kernel)

end BotCockpit.Sim
