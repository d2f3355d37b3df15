import BotCockpit.Lib.Exact
import BotCockpit.Lib.JsonText
import BotCockpit.Lib.Run
import BotCockpit.Ui.Console

/-!
# `BotCockpit.Spec.Console`: what the console promises about its connection

The properties of a run of the console that its two threads have to keep between them, and the
guards on single steps under which they do. A property of the form "from this call on, until that
call" reads the history through `Since`. The others read the state.

At the end, functions of Qt on which a run can be evaluated.
-/

set_option autoImplicit false

namespace BotCockpit.Ui

open BotCockpit.Lib
open BotCockpit.Wire (Frame)

variable {F : Type} [CDouble F]

/-! ### The entries of a history -/

namespace Event

/-- A call of `connectToServer`. -/
def isConnect : Event F → Bool
  | .user (.connectToServer _ _) => true
  | _ => false

def isDisconnect : Event F → Bool
  | .user .disconnectFromServer => true
  | _ => false

/-- A call of the user that is about the connection. -/
def isLinkCall : Event F → Bool
  | .user (.connectToServer _ _) => true
  | .user .disconnectFromServer => true
  | .user (.setAutoReconnect _) => true
  | _ => false

end Event

/-- A reconnect: the worker is started, or the timer is. -/
def Obs.isReconnect : Obs F → Bool
  | .emitted (.startWorker _ _) => true
  | .timerStarted _ => true
  | _ => false

namespace Console

/-- A history of the console: its slots, and what is seen of each. -/
abbrev History (F : Type) [CDouble F] := List (Event F × List (Obs F))

/-- A run of the console from its start, whose steps all meet the guard. -/
abbrev Runs [Qt F] (allow : Console F → Event F → Prop) (h : History F) (s : Console F) : Prop :=
  Run step allow init h s

/-! ### A manual disconnect -/

/-- After `disconnectFromServer` and until the next `connectToServer`, nothing reconnects. -/
def StaysDisconnected (h : History F) : Prop :=
  ∀ pre x post, h = pre ++ x :: post →
    Since (fun y => y.1.isDisconnect = true) (fun y => y.1.isConnect = false) pre →
      x.1.isConnect = false → ∀ o ∈ x.2, o.isReconnect = false

/-- The controller takes a rejection of HELLO after a manual disconnect. -/
def staleRejection (s : Console F) : Event F → Bool
  | .deliver =>
      match s.toUi with
      | .helloAck info :: _ => s.ui.manualDisconnect && !info.ok
      | _ => false
  | _ => false

/-! ### Nothing is under way -/

/-- A `startWorker` waits for the worker. -/
def startQueued : List (WorkerCall F) → Bool
  | [] => false
  | .startWorker _ _ :: _ => true
  | _ :: calls => startQueued calls

/-- A `disconnected` waits for the controller. -/
def disconnectedQueued : List WorkerSignal → Bool
  | [] => false
  | .disconnected :: _ => true
  | _ :: signals => disconnectedQueued signals

/-- An `errorOccurred` waits for the controller. -/
def errorQueued : List WorkerSignal → Bool
  | [] => false
  | .errorOccurred _ :: _ => true
  | _ :: signals => errorQueued signals

/-- All signals have been handled, and the socket is unconnected with no attempt in progress. -/
def Settled (s : Console F) : Prop :=
  s.toWorker = [] ∧ s.toUi = [] ∧ s.worker.socket = .unconnected

/-- What the user sees of the connection. -/
def showsLink (s : Console F) : Bool := s.ui.link.connecting || s.ui.state.connected

/-- The step ends a connection attempt without a connection: the attempt fails, or `stopWorker`
aborts it. -/
def endsAttempt (s : Console F) : Event F → Bool
  | .take _ =>
      match s.toWorker with
      | .stopWorker :: _ => s.worker.socket = .connecting
      | _ => false
  | .socket _ (.failed _) => s.worker.socket = .connecting
  | _ => false

/-! ### Reconnecting by itself -/

/-- The last call about the connection was `connectToServer`. -/
def AskedToConnect (h : History F) : Prop :=
  Since (fun y => y.1.isConnect = true) (fun y => y.1.isLinkCall = false) h

/-- When all is settled and the user wants a connection, the reconnect timer runs. -/
def KeepsTrying (h : History F) (s : Console F) : Prop :=
  Settled s → AskedToConnect h → s.ui.link.autoReconnect = true → s.ui.lastHost ≠ [] →
    s.ui.reconnectTimer.isSome = true

/-- A reconnect is wanted: the tests of `scheduleReconnect`. -/
def wantsReconnect (s : Console F) : Bool :=
  !s.ui.manualDisconnect && s.ui.link.autoReconnect && decide (s.ui.lastHost ≠ [])

/-- Something is under way that ends in a connection or in the reconnect timer, other than the
timer and the socket. -/
def retryQueued (s : Console F) : Bool := startQueued s.toWorker || disconnectedQueued s.toUi

/-- The attempt that ends leaves nothing under way. -/
def givesUp (s : Console F) (e : Event F) : Bool :=
  endsAttempt s e && s.wantsReconnect && !s.ui.reconnectTimer.isSome && !s.retryQueued

/-- The user asks for a connection, and the flags say that there is one, or an attempt, although
nothing is under way. -/
def ignoresCall (s : Console F) (e : Event F) : Bool :=
  e.isConnect && s.showsLink && s.ui.link.autoReconnect && decide (s.ui.lastHost ≠ []) &&
    decide (s.worker.socket = .unconnected) && !s.retryQueued

/-! ### The flags -/

/-- When all is settled, neither flag is set, and `connectToServer` starts a new attempt. -/
def NotStuck (s : Console F) : Prop :=
  Settled s → s.ui.link.connecting = false ∧ s.ui.state.connected = false ∧
    ∀ host port, (s.ui.connectToServer host port).2 = [.emit (.startWorker host port)]

/-- `stopWorker` aborts an attempt that the flags still show, and nothing is queued that would
clear them or start another one. -/
def strands (s : Console F) : Event F → Bool
  | .take _ =>
      match s.toWorker with
      | .stopWorker :: calls =>
          decide (s.worker.socket = .connecting) && s.showsLink && !startQueued calls &&
            !disconnectedQueued s.toUi && !errorQueued s.toUi
      | _ => false
  | _ => false

/-! ### The endpoint -/

/-- The endpoint asked for after one more call. -/
def askedAfter (endpoint : Option (Bytes × Int)) : Event F → Option (Bytes × Int)
  | .user (.connectToServer host port) => some (host, port)
  | .user .disconnectFromServer => none
  | _ => endpoint

/-- The endpoint of the last `connectToServer`, when no `disconnectFromServer` came after it. -/
def asked (h : History F) : Option (Bytes × Int) :=
  h.foldl (fun endpoint x => askedAfter endpoint x.1) none

/-- Every `startWorker` goes to the endpoint last asked for. -/
def StartsAsked (h : History F) : Prop :=
  ∀ pre x post, h = pre ++ x :: post → ∀ host port, .emitted (.startWorker host port) ∈ x.2 →
    ∀ endpoint, asked (pre ++ [x]) = some endpoint → (host, port) = endpoint

/-- `connectToServer` is called with another endpoint than the last one, in a state in which it
returns early. -/
def keepsOldEndpoint (s : Console F) : Event F → Bool
  | .user (.connectToServer host port) =>
      s.showsLink && decide ((host, port) ≠ (s.ui.lastHost, s.ui.lastPort))
  | _ => false

/-! ### Fail-closed -/

/-- The frame is a HELLO_ACK with `ok:true`. -/
def isWelcome (F : Type) [Qt F] (f : Frame) : Bool :=
  f.type = msgHelloAck && jsonBool (Qt.fromJson F f.payload) "ok"

/-- The worker has received a HELLO_ACK with `ok:true` on the current connection. -/
def welcomed (F : Type) [Qt F] (w : SocketWorker) : Bool := w.handled.any (isWelcome F)

/-- The frame is a command. -/
def isCommand (f : Frame) : Bool :=
  f.type ∈ [msgCmdMode, msgCmdTask, msgCmdEstop, msgCmdReset]

/-- A command is written only on a connection on which the worker was welcomed. -/
def FailsClosed [Qt F] (s : Console F) (e : Event F) : Prop :=
  ∀ t o, step s e = some (t, o) → ∀ f, .wrote f ∈ o → isCommand f = true →
    s.worker.socket = .connected ∧ welcomed F s.worker = true

/-- The controller takes a HELLO_ACK with `ok:true`, and the worker has begun another connection
since, or has been asked to. -/
def staleWelcome [Qt F] (s : Console F) : Event F → Bool
  | .deliver =>
      match s.toUi with
      | .helloAck info :: _ =>
          info.ok && (startQueued s.toWorker || decide (s.worker.socket = .connecting) ||
            (decide (s.worker.socket = .connected) && !welcomed F s.worker))
      | _ => false
  | _ => false

end Console

/-! ### Functions of Qt on which a run can be evaluated -/

namespace Exact

/-- The escaping of `QJsonDocument`, for ASCII texts. -/
def escapeControl (s : Bytes) : Bytes :=
  s.flatMap fun c =>
    if c = 34 ∨ c = 92 then [92, c]
    else if c < 32 then
      [92, 117, 48, 48, 48 + c / 16, if c % 16 < 10 then 48 + c % 16 else 87 + c % 16]
    else [c]

/-- The fields of a `QJsonObject` are sorted by their keys. -/
def insertField (f : Bytes × Json) : List (Bytes × Json) → List (Bytes × Json)
  | [] => [f]
  | g :: fs => if f.1 ≤ g.1 then f :: g :: fs else g :: insertField f fs

def sortFields (j : Json) : Json := .obj (j.fields.foldr insertField [])

instance : Qt ℚ where
  fromJson text :=
    match Json.parse text with
    | some (.obj fields) => .obj fields
    | _ => .null
  toJson j := (sortFields j).render escapeControl
  number x := .num (CDouble.toStringText x)
  trimmed s := ((s.dropWhile Json.isSpace).reverse.dropWhile Json.isSpace).reverse

end Exact

end BotCockpit.Ui
