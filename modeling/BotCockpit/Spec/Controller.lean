import BotCockpit.Lib.Run
import BotCockpit.Ui.ConnectionController

/-!
# `BotCockpit.Spec.Controller`: the controller by itself, and its backoff

The controller runs one slot at a time: a call of the user, a signal of the worker, or its reconnect
timer. Here signals come in any order, whether or not a worker could send them so.
-/

set_option autoImplicit false

namespace BotCockpit.Ui

open BotCockpit.Lib

/-- What the controller runs. -/
inductive ControllerEvent (F : Type) where
  | user (call : UserCall F)
  | signal (s : WorkerSignal)
  /-- The reconnect timer runs out. -/
  | timer

namespace ControllerEvent

variable {F : Type}

/-- The backoff starts again: with `connectToServer`, and with an accepted HELLO. -/
def resetsBackoff : ControllerEvent F → Bool
  | .user (.connectToServer _ _) => true
  | .signal (.helloAck info) => info.ok
  | _ => false

/-- The connection fails, or the session. -/
def isFailure : ControllerEvent F → Bool
  | .signal .disconnected => true
  | .signal (.errorOccurred _) => true
  | .signal (.helloAck info) => !info.ok
  | _ => false

end ControllerEvent

/-- The interval of a timer that is started. -/
def UiOutput.started? {F : Type} : UiOutput F → Option Nat
  | .emit _ => none
  | .startTimer ms => some ms

namespace Controller

variable {F : Type} [CDouble F]

/-- One slot. The timer is called only while it runs. -/
def step [Qt F] (c : Controller F) : ControllerEvent F → Option (Controller F × List (UiOutput F))
  | .user call => some (c.onCall call)
  | .signal s => some (c.onSignal s)
  | .timer => if c.reconnectTimer.isSome then some c.onReconnectTimer else none

/-- A history of the controller: its slots, and what each does to the outside. -/
abbrev History (F : Type) := List (ControllerEvent F × List (UiOutput F))

/-- A run of the controller from its start. -/
abbrev Runs [Qt F] (h : History F) (c : Controller F) : Prop := Run step anyStep {} h c

/-- The starts of the timer since the last reset, after one more slot. -/
def startsAfter (starts : List Nat) (x : ControllerEvent F × List (UiOutput F)) : List Nat :=
  if x.1.resetsBackoff then [] else starts ++ x.2.filterMap UiOutput.started?

/-- The intervals with which the reconnect timer was started since the last reset of the backoff, in
order. -/
def starts (h : History F) : List Nat := h.foldl startsAfter []

end Controller

end BotCockpit.Ui
