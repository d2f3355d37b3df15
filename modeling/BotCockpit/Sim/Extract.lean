import BotCockpit.Lib.CArith

/-!
# `BotCockpit.Sim.Extract`: how the robot reads a command message

The four scanners of `fake_robot.cpp`. Each takes the first textual occurrence of the quoted
key, then the next colon, and reads the value there. None of them parses JSON.
-/

set_option autoImplicit false

namespace BotCockpit.Sim

open BotCockpit.Lib

/-- The text from the value of a key on: after the key and the next colon, without blanks. -/
def valueOf (obj : Bytes) (key : String) : Option Bytes :=
  match afterFirst (quoted key) obj with
  | none => none
  | some rest =>
      match afterFirst [58] rest with
      | none => none
      | some v => some (v.dropWhile fun b => b == 32 || b == 9)

/-- The content of a string up to the closing quote or the end. A backslash stands for the
byte after it. -/
def stringBody : Bytes → Bytes
  | [] => []
  | [b] => if b = 34 then [] else [b]
  | b :: c :: rest =>
      if b = 34 then []
      else if b = 92 then c :: stringBody rest
      else b :: stringBody (c :: rest)

/-- `extract_string`. -/
def extractString (obj : Bytes) (key : String) : Option Bytes :=
  match valueOf obj key with
  | some (b :: body) => if b = 34 then some (stringBody body) else none
  | _ => none

/-- `extract_number`: whether a number was read, and the output variable after the call. A
value that is not a number sets the variable to zero, because `strtod` returns zero there. -/
def extractNumber {F : Type} [CDouble F] (obj : Bytes) (key : String) (out : F) : Bool × F :=
  match valueOf obj key with
  | some (b :: body) =>
      match strtod (b :: body) with
      | some text => (true, CDouble.ofText text)
      | none => (false, 0.0)
  | _ => (false, out)

/-- `extract_bool`. -/
def extractBool (obj : Bytes) (key : String) : Option Bool :=
  match valueOf obj key with
  | none => none
  | some v =>
      if (ascii "true").isPrefixOf v then some true
      else if (ascii "false").isPrefixOf v then some false
      else none

/-- `extract_seq`. -/
def extractSeq (F : Type) [CDouble F] (obj : Bytes) : UInt16 :=
  match extractNumber (F := F) obj "seq" 0.0 with
  | (true, v) => CDouble.toUInt16 v
  | (false, _) => 0

example : extractString (ascii "\x7b\"cmd\" : \"A\\\"B\"\x7d") "cmd" =
    some (ascii "A\"B") := by decide

end BotCockpit.Sim
