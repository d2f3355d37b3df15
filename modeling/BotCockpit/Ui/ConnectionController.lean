import BotCockpit.Ui.RobotState
import BotCockpit.Ui.SocketWorker

/-!
# `BotCockpit.Ui.ConnectionController`: the thread of the console that the user calls

`class ConnectionController`, and the side of `class RobotState` that describes the link. A call
or a slot is a function from the state of the controller to the new one and what it emits
(`UiOutput`), in order. `main.cpp` gives the controller a state and a node table, so the tests for
null are left out, as are the log lines, which nothing reads back.

The reconnect timer is single-shot: it is `some` interval while it runs, and it no longer runs when
`onReconnectTimer` is called.
-/

set_option autoImplicit false

namespace BotCockpit.Ui

open BotCockpit.Lib

/-- The side of `class RobotState` that describes the link. -/
structure Link where
  connecting : Bool := false
  errorString : Bytes := []
  host : Bytes := ascii "127.0.0.1"
  port : Int := 8765
  rttMs : Int32 := 0
  proto : Bytes := []
  server : Bytes := []
  lastCmdAckText : Bytes := []
  lastCmdOk : Bool := false
  autoReconnect : Bool := true
  reconnectAttempts : Int := 0

/-- The signals of the controller, which are calls of the worker's slots. -/
inductive WorkerCall (F : Type) where
  | startWorker (host : Bytes) (port : Int)
  | stopWorker
  | cmdMode (mode : Bytes)
  | cmdTask (taskId type : Bytes) (x y timeoutS : F)
  | cmdEstop (reason : Bytes)
  | cmdReset

/-- What a slot of the controller does to the outside. -/
inductive UiOutput (F : Type) where
  | emit (call : WorkerCall F)
  | startTimer (ms : Nat)

/-- `class ConnectionController` with the objects it was given. -/
structure Controller (F : Type) [CDouble F] where
  state : RobotState F := {}
  link : Link := {}
  nodes : List Json := []
  reconnectTimer : Option Nat := none
  lastHost : Bytes := []
  lastPort : Int := 8765
  backoffS : Nat := 1
  manualDisconnect : Bool := false
  reconnectPending : Bool := false
  helloOkSession : Bool := false

/-- What the user can do. -/
inductive UserCall (F : Type) where
  | connectToServer (host : Bytes) (port : Int)
  | disconnectFromServer
  | setAutoReconnect (v : Bool)
  | cmdMode (mode : Bytes)
  | cmdTaskGoto (taskId : Bytes) (x y : F)
  | cmdTaskSimple (type : Bytes)
  | cmdEstop (reason : Bytes)
  | cmdReset

/-- `setLastCmdAck`. -/
def Link.setLastCmdAck (F : Type) [QVariants F] (ack : Json) (l : Link) : Link :=
  let ok := toBool (value ack "ok")
  let cmd := toText F (value ack "cmd")
  let status := toText F (value ack "status")
  let reason := toText F (value ack "reason")
  let text := if cmd = [] then cmd else cmd ++ ascii " "
  let text := text ++ ascii (if ok then "OK" else "REJECTED")
  let text := if status = [] then text else text ++ ascii " | " ++ status
  let text :=
    if reason = [] ∨ reason = ascii "null" then text else text ++ ascii " | " ++ reason
  let text :=
    match ack.find? "seq" with
    | none | some .null => text
    | some seq => text ++ ascii " | seq=" ++ toText F seq
  { l with lastCmdOk := ok, lastCmdAckText := text }

namespace Controller

variable {F : Type} [CDouble F]

def setConnected (v : Bool) (c : Controller F) : Controller F :=
  { c with state := { c.state with connected := v } }

def setConnecting (v : Bool) (c : Controller F) : Controller F :=
  { c with link := { c.link with connecting := v } }

def setErrorString (e : Bytes) (c : Controller F) : Controller F :=
  { c with link := { c.link with errorString := e } }

/-- `resetRemote`, with the round-trip time. -/
def resetRemote (c : Controller F) : Controller F :=
  { c with state := c.state.resetRemote, link := { c.link with rttMs := 0 } }

/-! ### The user's calls -/

def connectToServer (host : Bytes) (port : Int) (c : Controller F) :
    Controller F × List (UiOutput F) :=
  let c := { c with manualDisconnect := false, backoffS := 1, reconnectTimer := none }
  if c.state.connected ∨ c.link.connecting then (c, [])
  else
    let c := { c with
      lastHost := host
      lastPort := port
      link := { c.link with host := host, port := port } }
    ((c.setConnecting true).setErrorString [], [.emit (.startWorker host port)])

def disconnectFromServer (c : Controller F) : Controller F × List (UiOutput F) :=
  ({ c with
      manualDisconnect := true
      reconnectTimer := none
      link := { c.link with reconnectAttempts := 0 } },
    [.emit .stopWorker])

/-- The body of the command calls: nothing without a session. -/
def cmd (call : WorkerCall F) (c : Controller F) : Controller F × List (UiOutput F) :=
  if c.state.connected then (c, [.emit call]) else (c, [])

def cmdMode (mode : Bytes) (c : Controller F) : Controller F × List (UiOutput F) :=
  c.cmd (.cmdMode mode)

def cmdTaskGoto [Qt F] (taskId : Bytes) (x y : F) (c : Controller F) :
    Controller F × List (UiOutput F) :=
  c.cmd (.cmdTask (Qt.trimmed F taskId) (ascii "goto") x y 30.0)

def cmdTaskSimple (type : Bytes) (c : Controller F) : Controller F × List (UiOutput F) :=
  c.cmd (.cmdTask [] type 0.0 0.0 0.0)

def cmdEstop (reason : Bytes) (c : Controller F) : Controller F × List (UiOutput F) :=
  c.cmd (.cmdEstop reason)

def cmdReset (c : Controller F) : Controller F × List (UiOutput F) := c.cmd .cmdReset

/-! ### Reconnecting -/

/-- `scheduleReconnect`. What it is called for goes to the log only. -/
def scheduleReconnect (c : Controller F) : Controller F × List (UiOutput F) :=
  if c.manualDisconnect ∨ ¬c.link.autoReconnect then (c, [])
  else if c.lastHost = [] then (c, [])
  -- Single-flight: a timer that runs is left alone, and so is the backoff.
  else if c.reconnectPending ∧ c.reconnectTimer.isSome then (c, [])
  else
    ({ c with
        reconnectPending := true
        link := { c.link with reconnectAttempts := c.link.reconnectAttempts + 1 }
        backoffS := min (c.backoffS * 2) 10
        reconnectTimer := some (c.backoffS * 1000) },
      [.startTimer (c.backoffS * 1000)])

/-- `onReconnectTimer`: the timer has run out. -/
def onReconnectTimer (c : Controller F) : Controller F × List (UiOutput F) :=
  let c := { c with reconnectTimer := none, reconnectPending := false }
  if c.manualDisconnect ∨ c.state.connected then (c, [])
  else
    ({ (c.setConnecting true).setErrorString [] with helloOkSession := false },
      [.emit (.startWorker c.lastHost c.lastPort)])

/-! ### The slots of the worker's signals -/

def onConnected (c : Controller F) : Controller F :=
  ((({ c with
    reconnectTimer := none
    reconnectPending := false
    helloOkSession := false }).setConnecting true).setConnected false).setErrorString []

/-- `onDisconnected`. Both calls of `scheduleReconnect` do the same. -/
def onDisconnected (c : Controller F) : Controller F × List (UiOutput F) :=
  let c := { c with helloOkSession := false }
  let c := ((c.setConnecting false).setConnected false).resetRemote
  scheduleReconnect { c with nodes := [] }

def onHelloAck (info : HelloInfo) (c : Controller F) : Controller F × List (UiOutput F) :=
  if !info.ok then
    let c := { c.setErrorString info.reason with helloOkSession := false }
    let c := (c.setConnected false).setConnecting false
    let (c, out) := scheduleReconnect { c with manualDisconnect := false }
    (c, .emit .stopWorker :: out)
  else
    let c := { c with
      link := { c.link with proto := info.proto, server := info.server, reconnectAttempts := 0 }
      helloOkSession := true
      reconnectPending := false
      reconnectTimer := none
      backoffS := 1 }
    (((c.setConnecting false).setConnected true).setErrorString [], [])

/-- `onError`. It does not schedule a reconnect. -/
def onError (message : Bytes) (c : Controller F) : Controller F :=
  let c := { c with helloOkSession := false }
  (((c.setConnecting false).setConnected false).setErrorString message).resetRemote

section Steps

variable [Qt F]

/-- A call of the user. -/
def onCall (c : Controller F) : UserCall F → Controller F × List (UiOutput F)
  | .connectToServer host port => c.connectToServer host port
  | .disconnectFromServer => c.disconnectFromServer
  | .setAutoReconnect v => ({ c with link := { c.link with autoReconnect := v } }, [])
  | .cmdMode mode => c.cmdMode mode
  | .cmdTaskGoto taskId x y => c.cmdTaskGoto taskId x y
  | .cmdTaskSimple type => c.cmdTaskSimple type
  | .cmdEstop reason => c.cmdEstop reason
  | .cmdReset => c.cmdReset

/-- The slot of a signal. -/
def onSignal (c : Controller F) : WorkerSignal → Controller F × List (UiOutput F)
  | .connected => (c.onConnected, [])
  | .disconnected => c.onDisconnected
  | .helloAck info => c.onHelloAck info
  | .stateUpdated state => ({ c with state := c.state.applyState state }, [])
  | .nodesUpdated nodes => ({ c with nodes := nodes }, [])
  | .rttUpdated ms => ({ c with link := { c.link with rttMs := ms } }, [])
  | .cmdAck ack => ({ c with link := c.link.setLastCmdAck F ack }, [])
  | .errorOccurred message => (c.onError message, [])

end Steps

end Controller

end BotCockpit.Ui
