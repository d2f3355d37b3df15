import BotCockpit.Ui.RobotState

/-!
# `BotCockpit.Ui.FaultTableModel`: the rows of the fault page

`class FaultTableModel`: all rows in the order of their severity, and of these the ones that pass
the filter. `std::sort` does not say which of two rows that compare equal comes first, and the
comparisons of `QString` and `QVariantList` belong to Qt, so they are taken from `Containers`.
-/

set_option autoImplicit false

namespace BotCockpit.Ui

open BotCockpit.Lib

/-- `operator<` of `QString`, `operator==` of `QVariantList`, and `std::sort` by a comparison. -/
class Containers where
  lessText : Bytes → Bytes → Bool
  equalLists : List Json → List Json → Bool
  sort : {α : Type} → (α → α → Bool) → List α → List α

/-- A row of the table. -/
structure FaultRow where
  code : Bytes
  level : Bytes
  node : Bytes
  detail : Bytes
  active : Bool
  deriving DecidableEq

namespace FaultRow

/-- The row of a fault in a state message. -/
def ofFault (F : Type) [QVariants F] (item : Json) : FaultRow where
  code := toText F (value item "code")
  level := toText F (value item "level")
  node := toText F (value item "node")
  detail := toText F (value item "detail")
  active := ((item.find? "active").map toBool).getD true

/-- ERROR first, then WARN, then the others. -/
def rank (level : Bytes) : Nat :=
  if level = ascii "ERROR" then 0 else if level = ascii "WARN" then 1 else 2

/-- The comparison of `setFaults`. -/
def less [Containers] (a b : FaultRow) : Bool :=
  if rank a.level ≠ rank b.level then rank a.level < rank b.level
  else Containers.lessText a.code b.code

/-- Whether the row passes a filter. The empty filter lets all rows pass. -/
def passes (levelFilter : Bytes) (r : FaultRow) : Bool :=
  levelFilter = [] || r.level = levelFilter

end FaultRow

/-- The fields of `class FaultTableModel`. -/
structure FaultTableModel where
  all : List FaultRow := []
  visible : List FaultRow := []
  levelFilter : Bytes := []

namespace FaultTableModel

def rebuildVisible (t : FaultTableModel) : FaultTableModel :=
  { t with visible := t.all.filter (FaultRow.passes t.levelFilter) }

def setLevelFilter (level : Bytes) (t : FaultTableModel) : FaultTableModel :=
  if t.levelFilter = level then t else rebuildVisible { t with levelFilter := level }

def setFaults (F : Type) [QVariants F] [Containers] (faults : List Json) (t : FaultTableModel) :
    FaultTableModel :=
  rebuildVisible { t with all := Containers.sort FaultRow.less (faults.map (FaultRow.ofFault F)) }

end FaultTableModel

end BotCockpit.Ui
