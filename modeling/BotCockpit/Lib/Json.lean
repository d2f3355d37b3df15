import BotCockpit.Lib.Bytes

/-!
# `BotCockpit.Lib.Json`: JSON values and their compact text

A JSON value as RFC 8259 has it. A number keeps its text. The fields of an object keep their
order. `render esc` is the compact text, with `esc` as the escaping of string contents.
-/

set_option autoImplicit false

namespace BotCockpit.Lib

/-- A JSON value. -/
inductive Json where
  | null
  | bool (b : Bool)
  | num (text : Bytes)
  | str (s : Bytes)
  | arr (items : List Json)
  | obj (fields : List (Bytes × Json))

namespace Json

/-- A string literal. -/
def lit (s : String) : Json := .str (ascii s)

/-- An object with ASCII keys. -/
def object (fields : List (String × Json)) : Json :=
  .obj (fields.map fun kv => (ascii kv.1, kv.2))

/-- The fields of an object. Any other value has none. -/
def fields : Json → List (Bytes × Json)
  | .obj fs => fs
  | _ => []

/-- The items of an array. Any other value has none. -/
def items : Json → List Json
  | .arr vs => vs
  | _ => []

/-- The value of a key. Of two equal keys the last one counts. -/
def find? (j : Json) (key : String) : Option Json := j.fields.reverse.lookup (ascii key)

/-- The empty object has no key. -/
theorem find?_object_nil (key : String) : (object []).find? key = none := rfl

/-- A later field of the same key hides the first one. -/
theorem find?_object_cons (k key : String) (v : Json) (fs : List (String × Json)) :
    (object ((k, v) :: fs)).find? key =
      ((object fs).find? key).or (if ascii key == ascii k then some v else none) := by
  simp only [find?, object, fields, List.map_cons, List.reverse_cons, List.lookup_append]
  cases h : ascii key == ascii k <;> simp [List.lookup_cons, h]

/-- `"s"` with its content escaped. -/
def renderString (esc : Bytes → Bytes) (s : Bytes) : Bytes := 34 :: (esc s ++ [34])

mutual

/-- The compact text of a value. -/
def render (esc : Bytes → Bytes) : Json → Bytes
  | .null => ascii "null"
  | .bool b => if b then ascii "true" else ascii "false"
  | .num text => text
  | .str s => renderString esc s
  | .arr items => 91 :: (renderItems esc items ++ [93])
  | .obj fields => 123 :: (renderFields esc fields ++ [125])

/-- The items of an array, with commas between them. -/
def renderItems (esc : Bytes → Bytes) : List Json → Bytes
  | [] => []
  | [v] => render esc v
  | v :: w :: vs => render esc v ++ 44 :: renderItems esc (w :: vs)

/-- The fields of an object, with commas between them. -/
def renderFields (esc : Bytes → Bytes) : List (Bytes × Json) → Bytes
  | [] => []
  | [(k, v)] => 34 :: (k ++ 34 :: 58 :: render esc v)
  | (k, v) :: f :: fs => 34 :: (k ++ 34 :: 58 :: render esc v) ++ 44 :: renderFields esc (f :: fs)

end

/-- The items take their own lengths and a comma between two. -/
theorem length_renderItems (esc : Bytes → Bytes) (vs : List Json) :
    (renderItems esc vs).length =
      (vs.map fun v => (render esc v).length).sum + (vs.length - 1) := by
  induction vs with
  | nil => rfl
  | cons v vs ih =>
      cases vs with
      | nil => simp [renderItems]
      | cons w vs =>
          rw [renderItems, List.length_append, List.length_cons, ih]
          simp only [List.map_cons, List.sum_cons, List.length_cons]
          omega

/-- The length of the members: keys, values, quotes, colons and commas. -/
theorem length_renderFields (esc : Bytes → Bytes) (fs : List (Bytes × Json)) :
    (renderFields esc fs).length =
      (fs.map fun f => f.1.length + 3 + (render esc f.2).length).sum + (fs.length - 1) := by
  induction fs with
  | nil => rfl
  | cons f fs ih =>
      obtain ⟨k, v⟩ := f
      cases fs with
      | nil =>
          simp [renderFields]
          omega
      | cons f fs =>
          have hstep : (renderFields esc ((k, v) :: f :: fs)).length =
              k.length + 3 + (render esc v).length + (1 + (renderFields esc (f :: fs)).length) := by
            simp [renderFields]
            omega
          rw [hstep, ih]
          simp only [List.map_cons, List.sum_cons, List.length_cons]
          omega

/-- The text of an object starts with its first field. -/
theorem render_object_num (esc : Bytes → Bytes) (key : String) (text : Bytes)
    (f : String × Json) (fs : List (String × Json)) :
    (object ((key, .num text) :: f :: fs)).render esc =
      123 :: (quoted key ++ 58 :: (text ++ 44 ::
        (renderFields esc ((f :: fs).map fun kv => (ascii kv.1, kv.2)) ++ [125]))) := by
  simp [object, render, renderFields, quoted]

/-- The text of an object whose second field is a truth value. -/
theorem render_object_num_bool (esc : Bytes → Bytes) (key key' : String) (text : Bytes) (b : Bool)
    (f : String × Json) (fs : List (String × Json)) :
    (object ((key, .num text) :: (key', .bool b) :: f :: fs)).render esc =
      123 :: (quoted key ++ 58 :: (text ++ 44 :: (quoted key' ++
        58 :: (ascii (if b then "true" else "false") ++ 44 ::
          (renderFields esc ((f :: fs).map fun kv => (ascii kv.1, kv.2)) ++ [125]))))) := by
  cases b <;> simp [render_object_num, render, renderFields, quoted]

example : (object [("a", .num (ascii "1")), ("b", .arr [.null, .lit "x"])]).render id
    = ascii "\x7b\"a\":1,\"b\":[null,\"x\"]\x7d" := by decide

end Json

end BotCockpit.Lib
