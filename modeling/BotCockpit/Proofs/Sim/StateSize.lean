import BotCockpit.Spec.StateSize
import Mathlib.Algebra.Order.BigOperators.Group.List

/-!
# `BotCockpit.Proofs.Sim.StateSize`: the state message takes what is counted

`length_buildStateJson` compares the text of `build_state_json` with the count over the members of
the robot, value by value.
-/

set_option autoImplicit false

namespace BotCockpit.Sim

open BotCockpit.Lib

variable {F : Type} [CDouble F]

/-- The size of a value. -/
def size (v : Json) : Nat := (Json.render esc v).length

/-- A truth value is four or five letters. -/
theorem size_bool (b : Bool) : size (.bool b) = boolBytes b := by cases b <;> rfl

/-- A string has its quotes and its escapes. -/
theorem size_str (s : Bytes) : size (.str s) = quotedBytes s := by
  simp [size, Json.render, Json.renderString, quotedBytes]

/-- An empty text is written as `null`. -/
theorem size_strOrNull (s : Bytes) : size (strOrNull s) = nullableBytes s := by
  unfold strOrNull nullableBytes
  split
  · rfl
  · exact size_str s

/-- A list has its elements, the commas between them and two brackets. -/
theorem size_arr (vs : List Json) : size (.arr vs) = listBytes (vs.map size) + 2 := by
  simp [size, Json.render, Json.length_renderItems, listBytes]
  rfl

/-- The keys of an object, with their quotes and colons, and the commas between the members. -/
def keyBytes (keys : List String) : Nat :=
  listBytes (keys.map fun key => (ascii key).length + 3)

/-- An object has its keys with their quotes and colons, its values, the commas and two braces. -/
theorem size_object (fs : List (String × Json)) :
    size (.object fs) = keyBytes (fs.map Prod.fst) + (fs.map fun f => size f.2).sum + 2 := by
  have hsum : ∀ fs : List (String × Json),
      (fs.map fun f => (ascii f.1).length + 3 + size f.2).sum =
        ((fs.map Prod.fst).map fun key => (ascii key).length + 3).sum +
          (fs.map fun f => size f.2).sum := by
    intro fs
    induction fs with
    | nil => rfl
    | cons f fs ih =>
        simp only [List.map_cons, List.sum_cons, ih]
        omega
  have hfields := Json.length_renderFields esc (fs.map fun f => (ascii f.1, f.2))
  rw [List.map_map, List.length_map] at hfields
  have hmap : (fs.map ((fun f : Bytes × Json => f.1.length + 3 + (Json.render esc f.2).length) ∘
      fun f => (ascii f.1, f.2))) = fs.map fun f => (ascii f.1).length + 3 + size f.2 := rfl
  rw [hmap, hsum] at hfields
  unfold keyBytes listBytes size
  simp only [Json.object, Json.render, List.length_cons, List.length_append, hfields,
    List.length_nil, List.length_map]
  unfold size
  omega

/-- A natural number has its decimal digits. -/
theorem size_natNum (n : Nat) : size (natNum n) = (decimal n).length := rfl

/-- A `double` is what the stream writes for it. -/
theorem size_ossNum (x : F) : size (ossNum x) = (CDouble.ostreamText x).length := rfl

/-- A number is the text it is written with. -/
theorem size_num (text : Bytes) : size (.num text) = text.length := rfl

/-- The nested form of a path: two numbers, a comma and two brackets for each point. -/
theorem size_pathToJson (path : List (F × F)) :
    size (pathToJson path) = listBytes (path.map fun p =>
      (CDouble.toStringText p.1).length + (CDouble.toStringText p.2).length + 3) + 2 := by
  rw [pathToJson, size_arr, List.map_map]
  congr 3
  funext p
  show size (.arr [.num (CDouble.toStringText p.1), .num (CDouble.toStringText p.2)]) = _
  simp only [size_arr, listBytes, List.map_cons, List.map_nil, size_num, List.sum_cons,
    List.sum_nil, List.length_cons, List.length_nil]
  omega

/-- The flat form of a path: two numbers and a comma for each point. -/
theorem size_pathToFlatJson (path : List (F × F)) :
    size (pathToFlatJson path) = listBytes (path.map fun p =>
      (CDouble.toStringText p.1).length + (CDouble.toStringText p.2).length + 1) + 2 := by
  rw [pathToFlatJson, size_arr]
  congr 1
  -- A point is two entries and a comma.
  have hsum : ∀ ps : List (F × F),
      ((ps.flatMap fun p => [Json.num (CDouble.toStringText p.1),
          Json.num (CDouble.toStringText p.2)]).map size).sum + ps.length =
        (ps.map fun p =>
          (CDouble.toStringText p.1).length + (CDouble.toStringText p.2).length + 1).sum := by
    intro ps
    induction ps with
    | nil => rfl
    | cons p ps ih =>
        simp only [List.flatMap_cons, List.map_append, List.map_cons, List.map_nil, List.sum_append,
          List.sum_cons, List.sum_nil, List.length_cons, size, Json.render] at ih ⊢
        omega
  have hlen : (path.flatMap fun p => [Json.num (CDouble.toStringText p.1),
      Json.num (CDouble.toStringText p.2)]).length = 2 * path.length := by
    simp [List.length_flatMap, Nat.mul_comm]
  have h := hsum path
  unfold listBytes
  simp only [List.length_map, hlen]
  omega

/-- One entry of the list of faults. -/
theorem size_fault (nowMs : UInt64) (f : FaultItem) :
    size (.object [("ts_ms", natNum nowMs.toNat), ("code", .lit f.code.text),
      ("level", .lit f.level.text), ("node", .lit "fake_robot"), ("detail", .str f.detail),
      ("active", .bool f.active)]) = f.bytes nowMs := by
  have hkeys : keyBytes ["ts_ms", "code", "level", "node", "detail", "active"] = 53 := rfl
  have hnode : quotedBytes (ascii "fake_robot") = 12 := rfl
  rw [size_object]
  simp only [List.map_cons, List.map_nil, List.sum_cons, List.sum_nil, hkeys, size_natNum,
    Json.lit, size_str, size_bool, hnode]
  unfold FaultItem.bytes
  omega

/-- The length of the whole message, one summand for each field. -/
theorem length_buildStateJson (nowMs : UInt64) (r : FakeRobot F) :
    (r.buildStateJson nowMs).length = r.stateBytes nowMs := by
  have htop : keyBytes ["ts_ms", "conn", "mode", "phase", "heartbeat_rtt_ms", "nodes", "pose",
      "battery", "task", "faults", "estop", "control_enabled", "nav"] = 134 := rfl
  have hnode : keyBytes ["name", "status", "last_hb_ms"] = 31 := rfl
  have hpose : keyBytes ["x", "y", "yaw"] = 16 := rfl
  have htask : keyBytes ["id", "type", "status"] = 23 := rfl
  have hnav : keyBytes ["status", "path_len", "idx", "path", "path_flat", "trail", "trail_flat",
      "goal", "track_err", "track_err_max"] = 110 := rfl
  have hgoal : keyBytes ["x", "y"] = 9 := rfl
  have htype : size (if r.taskType = .goto then .str (ascii "goto") else .null) =
      if r.taskType = .goto then 6 else 4 := by
    split <;> rfl
  have hrobot : quotedBytes (ascii "fake_robot") = 12 := rfl
  have hbridge : quotedBytes (ascii "bridge") = 8 := rfl
  have hzero : (decimal 0).length = 1 := by decide +kernel
  show size (r.stateJson nowMs) = _
  simp only [FakeRobot.stateJson]
  rw [size_object]
  simp only [List.map_cons, List.map_nil, size_arr, List.map_map, Function.comp_def, size_fault]
  simp only [size_object, Json.lit, size_str, size_strOrNull, size_bool, size_natNum, size_ossNum,
    size_pathToJson, size_pathToFlatJson, List.map_cons, List.map_nil, List.sum_cons, List.sum_nil,
    htop, hnode, hpose, htask, hnav, hgoal, hrobot, hbridge, hzero]
  unfold FakeRobot.stateBytes FakeRobot.wordBytes FakeRobot.numberBytes pointsBytes
  simp only [List.map_cons, List.map_nil, List.sum_cons, List.sum_nil, htype, listBytes,
    List.length_cons, List.length_nil]
  omega

/-- A fault takes at least its detail. -/
theorem length_le_quotedBytes (s : Bytes) : s.length ≤ quotedBytes s := by
  have hesc : s.length ≤ (esc s).length := by
    induction s with
    | nil => exact le_refl _
    | cons b s ih =>
        have hbyte : 1 ≤ (if b = 34 ∨ b = 92 then [92, b] else [b]).length := by split <;> simp
        simp only [esc, List.flatMap_cons, List.length_append, List.length_cons] at ih ⊢
        omega
  unfold quotedBytes
  omega

/-- No detail of a fault is longer than the message that lists it. -/
theorem detail_le_stateBytes {nowMs : UInt64} {r : FakeRobot F} {f : FaultItem}
    (hf : f ∈ r.faults) : f.detail.length ≤ r.stateBytes nowMs := by
  have hdetail := length_le_quotedBytes f.detail
  have hsum := List.le_sum_of_mem (List.mem_map_of_mem (f := fun f => f.bytes nowMs) hf)
  unfold FaultItem.bytes at hsum
  unfold FakeRobot.stateBytes listBytes FaultItem.bytes
  omega

end BotCockpit.Sim
