import Mathlib.Data.List.Basic

/-!
# `BotCockpit.Lib.Queue`: what a queue still owes

The messages of a queue are taken from the front. A message that raises a flag leaves a debt, and
a later message of the queue that lowers it again pays. `Followed P Q l` says that every message of
`l` that meets `P` is followed by one that meets `Q`, so that nothing is owed once the queue has
been taken.

The queue keeps this when a message is taken (`Followed.tail`) and when messages are added that
raise nothing, or of which the last one lowers (`followed_append`, `followed_append_of_mem`).
-/

set_option autoImplicit false

namespace BotCockpit.Lib

variable {α : Type} {P Q : α → Prop}

/-- Every entry that meets `P` is followed by one that meets `Q`. -/
def Followed (P Q : α → Prop) : List α → Prop
  | [] => True
  | x :: l => (P x → ∃ y ∈ l, Q y) ∧ Followed P Q l

/-- What holds of a list holds of its tail. -/
theorem Followed.tail {x : α} {l : List α} (h : Followed P Q (x :: l)) : Followed P Q l := h.2

/-- Entries that do not meet `P` may be added at the end. -/
theorem followed_append {l m : List α} (h : Followed P Q l) (hm : ∀ x ∈ m, ¬P x) :
    Followed P Q (l ++ m) := by
  induction l with
  | nil =>
      induction m with
      | nil => trivial
      | cons x m ih =>
          refine ⟨fun hx => absurd hx (hm x List.mem_cons_self), ih fun y hy => ?_⟩
          exact hm y (List.mem_cons_of_mem x hy)
  | cons x l ih =>
      refine ⟨fun hx => ?_, ih h.2⟩
      obtain ⟨y, hy, hq⟩ := h.1 hx
      exact ⟨y, List.mem_append_left m hy, hq⟩

/-- What is in front of an entry that meets `Q` is followed by it. -/
theorem followed_append_of_mem {m : List α} (l : List α) (hm : Followed P Q m)
    (hq : ∃ y ∈ m, Q y) : Followed P Q (l ++ m) := by
  induction l with
  | nil => exact hm
  | cons x l ih =>
      obtain ⟨y, hy, hqy⟩ := hq
      exact ⟨fun _ => ⟨y, List.mem_append_right l hy, hqy⟩, ih⟩

end BotCockpit.Lib
