import BotCockpit.Lib.Stream
import BotCockpit.Ui.QVariant
import BotCockpit.Wire.Frame

/-!
# `BotCockpit.Ui.SocketWorker`: the thread of the console that owns the socket

`class SocketWorker` and the `QTcpSocket` under it. A slot is a function from the state of the
worker to the new one and its `Output`: the signals it emits and the frames it writes, in order.
Slots and socket events run one at a time on the worker thread, and the socket's own signals are
direct calls, so a slot that aborts a connected socket runs `onSocketDisconnected` itself.

Of Qt the model takes the conversions between JSON and text (`Qt`), and of `QTcpSocket` what its
documentation says: `disconnected` is emitted only for a socket that had been connected, and a
connection attempt that fails emits `errorOccurred` alone. Host lookup is a part of connecting.
`disconnectFromHost` closes in two phases, but the `abort` that follows ends both, so a slot never
leaves the socket closing.
-/

set_option autoImplicit false

namespace BotCockpit.Ui

open BotCockpit.Lib
open BotCockpit.Wire (Frame)

/-! ### The protocol -/

def msgHeartbeat : UInt8 := 0x01
def msgHello : UInt8 := 0x02
def msgHelloAck : UInt8 := 0x03
def msgStateSnapshot : UInt8 := 0x10
def msgStateDelta : UInt8 := 0x11
def msgCmdMode : UInt8 := 0x20
def msgCmdTask : UInt8 := 0x21
def msgCmdEstop : UInt8 := 0x22
def msgCmdReset : UInt8 := 0x23
def msgCmdAck : UInt8 := 0x2F

def flagNeedAck : UInt8 := 0x01
def flagUrgent : UInt8 := 0x02

def kHeartbeatTimeoutMs : UInt64 := 3000

/-! ### Qt -/

/-- The functions of Qt that the console uses, on texts in UTF-8. `F` is `double`. -/
class Qt (F : Type) extends QVariants F where
  /-- `QJsonDocument::fromJson(text).object()`: `null` here when the text is not an object. -/
  fromJson : Bytes → Json
  /-- `QJsonDocument(object).toJson(QJsonDocument::Compact)`. -/
  toJson : Json → Bytes
  /-- A `double` as a `QJsonValue`. -/
  number : F → Json
  /-- `QString::trimmed`. -/
  trimmed : Bytes → Bytes

/-- `obj.value(key).toBool()` of a `QJsonObject`: only a truth value counts. -/
def jsonBool (obj : Json) (key : String) : Bool :=
  match obj.find? key with
  | some (.bool b) => b
  | _ => false

/-- `obj.value(key).toString()` of a `QJsonObject`: only a text counts. -/
def jsonText (obj : Json) (key : String) : Bytes :=
  match obj.find? key with
  | some (.str s) => s
  | _ => []

/-- `QVariantMap::insert` of a key. -/
def insertKey (map : Json) (key : String) (v : Json) : Json := .obj (map.fields ++ [(ascii key, v)])

/-- The JSON text of a `qint64`. -/
def integerText (n : Int64) : Bytes :=
  if n.toInt < 0 then 45 :: decimal n.toInt.natAbs else decimal n.toInt.natAbs

/-! ### Hash tables by sequence number -/

/-- `QHash<quint16, V>`: at most one value for each key. -/
abbrev SeqHash (V : Type) := List (UInt16 × V)

namespace SeqHash

variable {V : Type}

def insert (m : SeqHash V) (seq : UInt16) (v : V) : SeqHash V := (seq, v) :: m.filter (·.1 ≠ seq)

def value (m : SeqHash V) (seq : UInt16) : Option V := m.lookup seq

def remove (m : SeqHash V) (seq : UInt16) : SeqHash V := m.filter (·.1 ≠ seq)

end SeqHash

/-! ### The worker -/

/-- `QAbstractSocket::SocketState`, as a slot finds it. -/
inductive SocketState where
  | unconnected | connecting | connected
  deriving DecidableEq, Repr

/-- The `QVariantMap` of a HELLO_ACK. -/
structure HelloInfo where
  ok : Bool
  proto : Bytes
  server : Bytes
  reason : Bytes
  deriving DecidableEq

/-- The signals of the worker. -/
inductive WorkerSignal where
  | connected
  | disconnected
  | helloAck (info : HelloInfo)
  | stateUpdated (state : Json)
  | nodesUpdated (nodes : List Json)
  | rttUpdated (ms : Int32)
  | cmdAck (ack : Json)
  | errorOccurred (message : Bytes)

/-- What a slot does to the outside: it emits a signal, or writes a frame to the socket. -/
inductive Output where
  | signal (s : WorkerSignal)
  | write (frame : Frame)

/-- `class SocketWorker` with its socket. `handled` is not a field of the class: the frames that
have come in on the current connection and were handled, oldest first. -/
structure SocketWorker where
  socket : SocketState := .unconnected
  handled : List Frame := []
  hbTimer : Bool := false
  timeoutTimer : Bool := false
  decoder : Bytes := []
  nextSeq : UInt16 := 1
  hbSendTs : SeqHash Int64 := []
  pendingCmdName : SeqHash Bytes := []
  lastRxMs : Int64 := 0
  helloSent : Bool := false
  helloOk : Bool := false

namespace SocketWorker

/-! ### Sending -/

/-- The sequence number after this one. 0 is skipped. -/
def stepSeq (w : SocketWorker) : SocketWorker :=
  { w with nextSeq := if w.nextSeq + 1 = 0 then 1 else w.nextSeq + 1 }

/-- `sendFrame`, with the sequence number it returns. -/
def sendFrame (type flags : UInt8) (payload : Bytes) (w : SocketWorker) :
    UInt16 × SocketWorker × List Output :=
  if w.socket ≠ .connected then (0, w, [])
  else
    (w.nextSeq, w.stepSeq,
      [.write { type := type, flags := flags, seq := w.nextSeq, payload := payload }])

/-- The body of the command slots. -/
def sendCmd (type flags : UInt8) (name : String) (payload : Bytes) (w : SocketWorker) :
    SocketWorker × List Output :=
  let (seq, w, out) := w.sendFrame type flags payload
  if seq ≠ 0 then ({ w with pendingCmdName := w.pendingCmdName.insert seq (ascii name) }, out)
  else (w, out)

section Commands

variable (F : Type) [Qt F]

def sendCmdMode (mode : Bytes) (w : SocketWorker) : SocketWorker × List Output :=
  w.sendCmd msgCmdMode flagNeedAck "CMD_MODE" (Qt.toJson F (.object [("mode", .str mode)]))

def sendCmdEstop (reason : Bytes) (w : SocketWorker) : SocketWorker × List Output :=
  w.sendCmd msgCmdEstop (flagUrgent ||| flagNeedAck) "CMD_ESTOP"
    (Qt.toJson F (.object [("reason", .str reason)]))

def sendCmdReset (w : SocketWorker) : SocketWorker × List Output :=
  w.sendCmd msgCmdReset flagNeedAck "CMD_RESET" (Qt.toJson F (.object [("confirm", .bool true)]))

variable {F}

def sendCmdTask (taskId type : Bytes) (x y timeoutS : F) (w : SocketWorker) :
    SocketWorker × List Output :=
  let obj := [("task_id", .str taskId), ("type", .str type)] ++
    if type = ascii "goto" then
      [("x", Qt.number x), ("y", Qt.number y), ("timeout_s", Qt.number timeoutS)]
    else []
  w.sendCmd msgCmdTask flagNeedAck "CMD_TASK" (Qt.toJson F (.object obj))

/-- `onHeartbeatTick`. It counts its sequence number itself. -/
def onHeartbeatTick (F : Type) [Qt F] (now : Int64) (w : SocketWorker) :
    SocketWorker × List Output :=
  if w.socket ≠ .connected then (w, [])
  else
    let payload := Qt.toJson F
      (.object [("ts_ms", .num (integerText now)), ("role", .lit "console")])
    let seq := w.nextSeq
    ({ w.stepSeq with hbSendTs := w.hbSendTs.insert seq now },
      [.write { type := msgHeartbeat, flags := 0, seq := seq, payload := payload }])

end Commands

/-! ### The socket -/

def onSocketDisconnected (w : SocketWorker) : SocketWorker × List Output :=
  ({ w with hbTimer := false, timeoutTimer := false }, [.signal .disconnected])

/-- `socket_->abort()`: only a connected socket emits `disconnected`. -/
def abort (w : SocketWorker) : SocketWorker × List Output :=
  match w.socket with
  | .connected => onSocketDisconnected { w with socket := .unconnected }
  | _ => ({ w with socket := .unconnected }, [])

/-- `connectToHost`. The socket takes the host and the port, and the worker keeps neither. -/
def connectToHost (now : Int64) (w : SocketWorker) : SocketWorker × List Output :=
  let (w, out) := w.abort
  ({ w with
      decoder := []
      hbSendTs := []
      pendingCmdName := []
      helloSent := false
      helloOk := false
      lastRxMs := now
      socket := .connecting },
    out)

def disconnectFromHost (w : SocketWorker) : SocketWorker × List Output :=
  abort { w with hbTimer := false, timeoutTimer := false }

/-- `failAndClose`: the error comes first. -/
def failAndClose (message : Bytes) (w : SocketWorker) : SocketWorker × List Output :=
  let (w, out) := w.disconnectFromHost
  (w, .signal (.errorOccurred message) :: out)

/-- `onSocketConnected`, on the new connection. -/
def onSocketConnected (F : Type) [Qt F] (now : Int64) (w : SocketWorker) :
    SocketWorker × List Output :=
  let hello := Qt.toJson F
    (.object [("client", .lit "BotCockpit"), ("ui_version", .lit "0.1.0"),
      ("proto_min", .lit "0.1"), ("proto_max", .lit "0.1")])
  let (_, w, out) := sendFrame msgHello 0 hello { w with lastRxMs := now }
  ({ w with helloSent := true, hbTimer := true, timeoutTimer := true },
    .signal .connected :: out)

/-- The timeout of `timeout_timer_`. The elapsed time is computed in `uint64_t`. -/
def onTimeoutTick (now : Int64) (w : SocketWorker) : SocketWorker × List Output :=
  if w.socket ≠ .connected ∨ w.lastRxMs = 0 then (w, [])
  else if kHeartbeatTimeoutMs < now.toUInt64 - w.lastRxMs.toUInt64 then
    w.failAndClose (ascii "heartbeat timeout")
  else (w, [])

/-! ### Receiving -/

section Frames

variable (F : Type) [Qt F]

/-- The map that `cmdAck` carries: without a `seq` or a `cmd` of its own it gets those of the
frame. -/
def ackMap (frame : Frame) (obj : Json) (w : SocketWorker) : Json :=
  let ack := match obj.find? "seq" with
    | none | some .null => insertKey obj "seq" (.num (decimal frame.seq.toNat))
    | some _ => obj
  match ack.find? "cmd" with
  | none => insertKey ack "cmd" (.str ((w.pendingCmdName.value frame.seq).getD []))
  | some _ => ack

/-- `handleFrame`. -/
def handleFrame (now : Int64) (frame : Frame) (w : SocketWorker) : SocketWorker × List Output :=
  let obj := Qt.fromJson F frame.payload
  let w := { w with handled := w.handled ++ [frame] }
  if frame.type = msgHelloAck then
    let info : HelloInfo :=
      { ok := jsonBool obj "ok"
        proto := jsonText obj "proto"
        server := jsonText obj "server"
        reason := jsonText obj "reason" }
    ({ w with helloOk := jsonBool obj "ok" }, [.signal (.helloAck info)])
  else if frame.type = msgHeartbeat then
    if jsonText obj "role" = ascii "bridge" then
      let sendTs := (w.hbSendTs.value frame.seq).getD 0
      ({ w with hbSendTs := w.hbSendTs.remove frame.seq },
        if 0 < sendTs then [.signal (.rttUpdated (now - sendTs).toInt32)] else [])
    else (w, [])
  else if frame.type = msgStateSnapshot ∨ frame.type = msgStateDelta then
    (w, .signal (.stateUpdated obj) ::
      match obj.find? "nodes" with
      | some nodes => [.signal (.nodesUpdated nodes.items)]
      | none => [])
  else if frame.type = msgCmdAck then
    ({ w with pendingCmdName := w.pendingCmdName.remove frame.seq },
      [.signal (.cmdAck (w.ackMap frame obj))])
  else (w, [])

/-- The loop over the frames that `decoder_.next` yields. -/
def handleFrames (now : Int64) : List Frame → SocketWorker → SocketWorker × List Output
  | [], w => (w, [])
  | frame :: frames, w =>
      let (w, out) := w.handleFrame F now frame
      let (w, out') := handleFrames now frames w
      (w, out ++ out')

/-- `onReadyRead`. -/
def onReadyRead (now : Int64) (data : Bytes) (w : SocketWorker) : SocketWorker × List Output :=
  let (frames, rest) := drain next (w.decoder ++ data)
  handleFrames F now frames { w with lastRxMs := now, decoder := rest }

end Frames

/-! ### The events of the socket and of the timers -/

/-- What Qt calls the worker for. Each comes with the reading of the clock. -/
inductive SocketEvent where
  /-- The attempt has succeeded, or failed. -/
  | connected
  | failed (message : Bytes)
  /-- An error of the connection, as when the peer closes it. -/
  | error (message : Bytes)
  /-- The connection is gone without an error. -/
  | closed
  | readyRead (data : Bytes)
  | heartbeatTick
  | timeoutTick

/-- The slot of an event. `none` when the event cannot come. -/
def onEvent (F : Type) [Qt F] (now : Int64) (w : SocketWorker) :
    SocketEvent → Option (SocketWorker × List Output)
  | .connected =>
      if w.socket = .connecting then
        some (onSocketConnected F now { w with socket := .connected, handled := [] })
      else none
  | .failed message =>
      if w.socket = .connecting then
        some (failAndClose message { w with socket := .unconnected })
      else none
  | .error message => if w.socket = .connected then some (w.failAndClose message) else none
  | .closed =>
      if w.socket = .connected then
        some (onSocketDisconnected { w with socket := .unconnected })
      else none
  | .readyRead data => if w.socket = .connected then some (w.onReadyRead F now data) else none
  | .heartbeatTick => if w.hbTimer then some (w.onHeartbeatTick F now) else none
  | .timeoutTick => if w.timeoutTimer then some (w.onTimeoutTick now) else none

end SocketWorker

end BotCockpit.Ui
