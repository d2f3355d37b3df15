import BotCockpit.Lib.CArith

/-!
# `BotCockpit.Bridge.JsonUtil`: the JSON helpers of the bridge

The field extractors of `json_util.cpp`. `findKeyValue` takes the first occurrence of the quoted
key that a colon follows. The suffix from the value on stands for its position.
-/

set_option autoImplicit false

namespace BotCockpit.Bridge

open BotCockpit.Lib

/-- `find_key_value`: the text from the value on. An occurrence without a colon after it is
passed over. -/
def findKeyValue (key : String) (obj : Bytes) : Option Bytes :=
  match _h : afterFirst (quoted key) obj with
  | none => none
  | some rest =>
      match rest.dropWhile isSpace with
      | 58 :: v =>
          let v := v.dropWhile isSpace
          if v = [] then none else some v
      | _ => findKeyValue key rest
termination_by obj.length
decreasing_by exact length_afterFirst_lt (quoted_ne_nil key) _h

/-- The byte that an escape sequence stands for. -/
def unescape (e : UInt8) : UInt8 :=
  if e = 110 then 10
  else if e = 116 then 9
  else if e = 114 then 13
  else e

/-- The content of a string up to the closing quote or the end, and whether there was a closing
quote. -/
def jsonStringBody : Bytes → Bool × Bytes
  | [] => (false, [])
  | [b] => if b = 34 then (true, []) else if b = 92 then (false, []) else (false, [b])
  | b :: e :: rest =>
      if b = 92 then ((jsonStringBody rest).1, unescape e :: (jsonStringBody rest).2)
      else if b = 34 then (true, [])
      else ((jsonStringBody (e :: rest)).1, b :: (jsonStringBody (e :: rest)).2)

/-- `parse_json_string_at`: the returned value, and the output variable, which is empty before
the call. -/
def parseJsonString : Bytes → Bool × Bytes
  | [] => (false, [])
  | b :: body => if b = 34 then jsonStringBody body else (false, [])

/-- A hexadecimal digit as `%x` writes it. -/
def hexDigit (n : Nat) : UInt8 := UInt8.ofNat (if n < 10 then 48 + n else 87 + n)

/-- The escape sequence of one byte, in `escape`. -/
def escapeByte (c : UInt8) : Bytes :=
  if c = 34 then [92, 34]
  else if c = 92 then [92, 92]
  else if c = 10 then [92, 110]
  else if c = 13 then [92, 114]
  else if c = 9 then [92, 116]
  else if c < 0x20 then [92, 117, 48, 48, hexDigit (c.toNat / 16), hexDigit (c.toNat % 16)]
  else [c]

/-- `escape`. -/
def escape (s : Bytes) : Bytes := s.flatMap escapeByte

/-- `get_string`: the returned value, and the output variable, which is empty before the call. A
string that is not closed is left in the output variable. -/
def getString (obj : Bytes) (key : String) : Bool × Bytes :=
  match findKeyValue key obj with
  | none => (false, [])
  | some v => parseJsonString v

/-- `get_int`. One sign in front of the digits is dropped, so the result is never negative. -/
def getInt (obj : Bytes) (key : String) : Option Int :=
  match findKeyValue key obj with
  | none => none
  | some v =>
      match (readSign v).2 with
      | [] => none
      | d :: ds => if isDigit d then strtoll (d :: ds) else none

/-- `get_double`: whether a number was read, and the output variable after the call. One sign in
front of the digits is dropped, so the sign of the number is lost. -/
def getDouble {F : Type} [CDouble F] (obj : Bytes) (key : String) (out : F) : Bool × F :=
  match findKeyValue key obj with
  | none => (false, out)
  | some v =>
      match (readSign v).2 with
      | [] => (false, out)
      | d :: ds =>
          if isDigit d || d == 46 then
            match strtod (d :: ds) with
            | some text => (true, CDouble.ofText text)
            | none => (false, 0.0)
          else (false, out)

/-- `get_bool`. -/
def getBool (obj : Bytes) (key : String) : Option Bool :=
  match findKeyValue key obj with
  | none => none
  | some v =>
      if (ascii "true").isPrefixOf v then some true
      else if (ascii "false").isPrefixOf v then some false
      else none

example : getInt (ascii "\x7b\"cmd\":\"seq\",\"seq\": 7\x7d") "seq" = some 7 := by
  decide +kernel

end BotCockpit.Bridge
