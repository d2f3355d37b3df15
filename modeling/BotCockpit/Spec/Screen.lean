import BotCockpit.Lib.Run
import BotCockpit.Ui.Screen

/-!
# `BotCockpit.Spec.Screen`: what the screen promises

QML should show every property as it is. `applyState` leaves a `double` alone that compares equal to
the old one, so a number is only shown up to `==`, and the fault list up to the `operator==` of Qt.
-/

set_option autoImplicit false

namespace BotCockpit.Ui

open BotCockpit.Lib

/-- A comparison that `std::sort` accepts: a strict weak order. -/
structure StrictWeak {α : Type} (less : α → α → Bool) : Prop where
  irrefl : ∀ a, less a a = false
  trans : ∀ a b c, less a b = true → less b c = true → less a c = true
  incomparable : ∀ a b c, less a b = false → less b a = false → less b c = false →
    less c b = false → less a c = false ∧ less c a = false

/-- What is documented of Qt and of the standard library: texts are ordered, equal lists have equal
rows, and `std::sort` gives a sorted permutation. -/
class LawfulContainers (F : Type) [QVariants F] [Containers] : Prop where
  lessText_irrefl : ∀ a, Containers.lessText a a = false
  lessText_trans : ∀ a b c, Containers.lessText a b = true → Containers.lessText b c = true →
    Containers.lessText a c = true
  lessText_total : ∀ a b, Containers.lessText a b = false → Containers.lessText b a = false → a = b
  equalLists_symm : ∀ a b, Containers.equalLists a b = true → Containers.equalLists b a = true
  equalLists_trans : ∀ a b c, Containers.equalLists a b = true →
    Containers.equalLists b c = true → Containers.equalLists a c = true
  equalLists_rows : ∀ a b, Containers.equalLists a b = true →
    a.map (FaultRow.ofFault F) = b.map (FaultRow.ofFault F)
  sort_perm : ∀ {α : Type} (less : α → α → Bool), StrictWeak less → ∀ l : List α,
    (Containers.sort less l).Perm l
  sort_sorted : ∀ {α : Type} (less : α → α → Bool), StrictWeak less → ∀ l : List α,
    (Containers.sort less l).Pairwise fun a b => less b a = false

section Screen

variable {F : Type} [CDouble F] [QVariants F] [Containers]

/-- The two values compare equal. -/
def PropValue.Close : PropValue F → PropValue F → Prop
  | .number x, .number y => (x == y) = true
  | .numbers xs, .numbers ys => (xs == ys) = true
  | .points ps, .points qs => (RobotState.flatten ps == RobotState.flatten qs) = true
  | .variants vs, .variants ws => Containers.equalLists vs ws = true
  | _, _ => False

/-- Nobody tells the two values apart. -/
def PropValue.Same (v w : PropValue F) : Prop := v = w ∨ v.Close w

namespace Screen

/-- The faults of the robot, as the table has to show them with its filter. -/
def faultRows (w : Screen F) : List FaultRow :=
  (w.state.faultsList.map (FaultRow.ofFault F)).filter (FaultRow.passes w.table.levelFilter)

/-- The table shows the faults of the robot that pass the filter, the most severe first, and faults
of one severity in the order of their codes. -/
structure TableCurrent (w : Screen F) : Prop where
  rows : w.table.visible.Perm w.faultRows
  sorted : w.table.visible.Pairwise fun a b =>
    FaultRow.rank a.level < FaultRow.rank b.level ∨
      FaultRow.rank a.level = FaultRow.rank b.level ∧
        Containers.lessText b.code a.code = false

end Screen

end Screen

/-- The screen after a run of the console: the calls that its steps have made. -/
def Console.screen {F : Type} [CDouble F] [Qt F] [Containers] (h : List (Event F × List (Obs F))) :
    Screen F :=
  Screen.after ((trace Console.step Console.init h).flatMap Console.stateCalls)

end BotCockpit.Ui
