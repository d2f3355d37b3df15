import BotCockpit.Bridge.JsonUtil
import BotCockpit.Lib.FlatJson
import BotCockpit.Sim.Extract

/-!
# `BotCockpit.Spec.Payload`: a payload whose fields both sides read

The robot and the bridge search the text of a command message for a quoted key. What they find is
the member of that key when nothing in front of it looks like the key (`Clear`), the key is written
without escapes, and its value is written so that both read it (`Direct`).
-/

set_option autoImplicit false

namespace BotCockpit

open BotCockpit.Lib
open BotCockpit.Sim (extractString extractNumber extractBool valueOf)
open BotCockpit.Bridge (getString getDouble getBool)

/-- The fields of a command payload that the robot reads. -/
def commandFields : List String := ["type", "task_id", "x", "y", "mode", "confirm"]

namespace Lib

/-- The string, the number and the truth value of a field. -/
def Scalar.string? : Scalar → Option Bytes
  | str s => some s.content
  | _ => none

def Scalar.number? : Scalar → Option NumText
  | num n => some n.value
  | _ => none

def Scalar.bool? : Scalar → Option Bool
  | bool b => some b
  | _ => none

/-- The value is a string that ends with the word. -/
def Scalar.Mentions (key : String) : Scalar → Prop
  | str s => s.Mentions key
  | _ => False

instance (key : String) (v : Scalar) : Decidable (v.Mentions key) :=
  match v with
  | .str s => inferInstanceAs (Decidable (s.Mentions key))
  | .num _ => inferInstanceAs (Decidable False)
  | .bool _ => inferInstanceAs (Decidable False)

/-- The member stands under the key, written without escapes. -/
def JsonMember.Under (key : String) (m : JsonMember) : Prop := m.key.text = ascii key

instance (key : String) (m : JsonMember) : Decidable (m.Under key) :=
  inferInstanceAs (Decidable (_ = _))

/-- The text from behind the colon of the member under the key on. -/
def ownValue (key : String) : List JsonMember → Bytes → Option Bytes
  | [], _ => none
  | m :: ms, rest =>
      if m.Under key then some (m.afterColon.1 ++ m.valueOnto (tailOnto ms rest))
      else ownValue key ms rest

/-- The same in the text of an object, in front of `rest`. -/
def FlatObject.textFrom (o : FlatObject) (key : String) (rest : Bytes) : Option Bytes :=
  ownValue key o.members (125 :: (o.back.1 ++ rest))

/-- No string in front of the member of the key ends with the key, unless it is the value right in
front of that member. Without such a member no string does, unless it is the last value. -/
def Clear (key : String) : List JsonMember → Prop
  | [] => True
  | m :: ms => m.Under key ∨ ¬m.key.Mentions key ∧
      if m.value.Mentions key then ∀ n ∈ ms.head?, n.Under key else Clear key ms

instance decidableClear (key : String) : (ms : List JsonMember) → Decidable (Clear key ms)
  | [] => inferInstanceAs (Decidable True)
  | m :: ms =>
      have := decidableClear key ms
      inferInstanceAs (Decidable (m.Under key ∨ ¬m.key.Mentions key ∧
        if m.value.Mentions key then ∀ n ∈ ms.head?, n.Under key else Clear key ms))

/-- Between the colon and the value there are spaces and tabs only. -/
def JsonMember.InLine (m : JsonMember) : Prop := ∀ b ∈ m.afterColon.1, b = 32 ∨ b = 9

instance (m : JsonMember) : Decidable m.InLine :=
  inferInstanceAs (Decidable (∀ b ∈ m.afterColon.1, b = 32 ∨ b = 9))

/-- The number without its minus sign. -/
def JsonNumber.abs (n : JsonNumber) : JsonNumber := { n with neg := false }

/-- The value is written so that both readers get it: a string without escapes other than those
of a byte by itself, and a number that does not depend on its minus sign. -/
def JsonMember.Direct (F : Type) [CDouble F] (m : JsonMember) : Prop :=
  match m.value with
  | .str s => m.InLine ∧ ∀ p ∈ s, p.verbatim = true
  | .num n => (CDouble.ofText n.value : F) = CDouble.ofText n.abs.value
  | .bool _ => m.InLine

instance (F : Type) [CDouble F] [DecidableEq F] (m : JsonMember) : Decidable (m.Direct F) :=
  match m with
  | ⟨_, _, _, gap, .str s, _⟩ =>
      inferInstanceAs (Decidable ((∀ b ∈ gap.1, b = 32 ∨ b = 9) ∧ ∀ p ∈ s, p.verbatim = true))
  | ⟨_, _, _, _, .num n, _⟩ =>
      inferInstanceAs (Decidable ((CDouble.ofText n.value : F) = CDouble.ofText n.abs.value))
  | ⟨_, _, _, gap, .bool _, _⟩ => inferInstanceAs (Decidable (∀ b ∈ gap.1, b = 32 ∨ b = 9))

end Lib

/-- A key that both sides read from the text of the object. -/
structure Legible (F : Type) [CDouble F] (o : FlatObject) (key : String) : Prop where
  clear : Clear key o.members
  own : ∀ m ∈ o.members, m.key.content = ascii key → m.Under key ∧ m.Direct F

instance (F : Type) [CDouble F] [DecidableEq F] (o : FlatObject) (key : String) :
    Decidable (Legible F o key) :=
  decidable_of_iff (Clear key o.members ∧
      ∀ m ∈ o.members, m.key.content = ascii key → m.Under key ∧ m.Direct F)
    ⟨fun h => ⟨h.1, h.2⟩, fun h => ⟨h.clear, h.own⟩⟩

/-- The text behind spaces and tabs, where the robot reads a value. -/
def skipTabs (bs : Bytes) : Bytes := bs.dropWhile fun b => b == 32 || b == 9

/-- What a reader reports through its result and its output variable. -/
def reported {α : Type} : Bool × α → Option α
  | (true, a) => some a
  | (false, _) => none

/-- The robot reads exactly the value of the key from the message, as text, as a number and as a
truth value, and the bridge reads the same. -/
structure ReadsField (F : Type) [CDouble F] (message : Bytes) (key : String)
    (value : Option Scalar) : Prop where
  string : extractString message key = value.bind Scalar.string?
  number : ∀ out : F, reported (extractNumber message key out) =
    (value.bind Scalar.number?).map CDouble.ofText
  bool : extractBool message key = value.bind Scalar.bool?
  agreeString : reported (getString message key) = extractString message key
  agreeNumber : ∀ out out' : F, reported (getDouble message key out) =
    reported (extractNumber message key out')
  agreeBool : getBool message key = extractBool message key

/-- The robot reads the field that was sent: of the message it reads the text from the value of
the member under the key on, and none when there is no such member, and it makes of it the value. -/
structure ReadsSent (F : Type) [CDouble F] (message : Bytes) (o : FlatObject) (key : String) :
    Prop where
  stands : valueOf message key = (o.textFrom key [125]).map skipTabs
  reads : ReadsField F message key (o.value? key)

end BotCockpit
