import BotCockpit.Ui.ConnectionController

/-!
# `BotCockpit.Ui.Console`: the two threads of the console

`ConnectionController` connects its signals to the slots of `SocketWorker`, and the signals of the
worker to its own slots. The two objects live on different threads, so both kinds are queued: each
thread takes the events that were posted to it in order. An event of the system is one slot of one
of the threads, and the threads may take turns in any way.
-/

set_option autoImplicit false

namespace BotCockpit.Ui

open BotCockpit.Lib
open BotCockpit.Wire (Frame)

/-- The two threads, and the events posted to each. -/
structure Console (F : Type) [CDouble F] where
  ui : Controller F := {}
  worker : SocketWorker := {}
  toWorker : List (WorkerCall F) := []
  toUi : List WorkerSignal := []

/-- What runs next. -/
inductive Event (F : Type) where
  /-- The user thread: a call, the reconnect timer, or the next signal of the worker. -/
  | user (call : UserCall F)
  | reconnectTimer
  | deliver
  /-- The worker thread: the next call, or an event of the socket. -/
  | take (now : Int64)
  | socket (now : Int64) (e : SocketWorker.SocketEvent)

/-- What is seen of a slot. -/
inductive Obs (F : Type) where
  | emitted (call : WorkerCall F)
  | timerStarted (ms : Nat)
  | signalled (s : WorkerSignal)
  | wrote (frame : Frame)

namespace SocketWorker

variable {F : Type} [Qt F]

/-- The slot of a call. -/
def onCall (now : Int64) (w : SocketWorker) : WorkerCall F → SocketWorker × List Output
  | .startWorker _ _ => w.connectToHost now
  | .stopWorker => w.disconnectFromHost
  | .cmdMode mode => w.sendCmdMode F mode
  | .cmdTask taskId type x y timeoutS => w.sendCmdTask taskId type x y timeoutS
  | .cmdEstop reason => w.sendCmdEstop F reason
  | .cmdReset => w.sendCmdReset F

end SocketWorker

/-! ### What a slot sends to the other thread -/

def UiOutput.call? {F : Type} : UiOutput F → Option (WorkerCall F)
  | .emit call => some call
  | .startTimer _ => none

def UiOutput.obs {F : Type} : UiOutput F → Obs F
  | .emit call => .emitted call
  | .startTimer ms => .timerStarted ms

def Output.signal? : Output → Option WorkerSignal
  | .signal s => some s
  | .write _ => none

def Output.obs (F : Type) : Output → Obs F
  | .signal s => .signalled s
  | .write frame => .wrote frame

namespace Console

variable {F : Type} [CDouble F]

/-- A slot of the user thread has run. -/
def afterUi (s : Console F) (r : Controller F × List (UiOutput F)) : Console F × List (Obs F) :=
  ({ s with ui := r.1, toWorker := s.toWorker ++ r.2.filterMap UiOutput.call? },
    r.2.map UiOutput.obs)

/-- A slot of the worker thread has run. -/
def afterWorker (s : Console F) (r : SocketWorker × List Output) : Console F × List (Obs F) :=
  ({ s with worker := r.1, toUi := s.toUi ++ r.2.filterMap Output.signal? },
    r.2.map (Output.obs F))

variable [Qt F]

/-- One slot. `none` when there is nothing to run it for. -/
def step (s : Console F) : Event F → Option (Console F × List (Obs F))
  | .user call => some (s.afterUi (s.ui.onCall call))
  | .reconnectTimer =>
      if s.ui.reconnectTimer.isSome then some (s.afterUi s.ui.onReconnectTimer) else none
  | .deliver =>
      match s.toUi with
      | [] => none
      | signal :: rest => some (afterUi { s with toUi := rest } (s.ui.onSignal signal))
  | .take now =>
      match s.toWorker with
      | [] => none
      | call :: rest =>
          some (afterWorker { s with toWorker := rest } (s.worker.onCall now call))
  | .socket now e => (s.worker.onEvent F now e).map s.afterWorker

/-- The console as `main` starts it. -/
def init : Console F := {}

end Console

end BotCockpit.Ui
