import BotCockpit.Bridge.Messages
import BotCockpit.Lib.Stream
import BotCockpit.Wire.Frame

/-!
# `BotCockpit.Bridge.TcpServer`: connections, frames and jobs

The data of `tcp_server.cpp`, and what the receive thread of a connection does with a batch of
frames. Threads interleave, so a thread is a list of operations, each of which is one access to
what the threads share. `handleFrame` is the list for one frame, `batchOps` the one for
everything that one `recv` has completed.

A command carries its position among the frames of its connection, and a job the connection.
Nothing in the code depends on the position: it says which frame of the client a job is.
-/

set_option autoImplicit false

namespace BotCockpit.Bridge

open BotCockpit.Lib
open BotCockpit.Wire (Frame)

/-! ### Commands and jobs -/

/-- A command frame: the frame at position `index` of its connection. -/
structure Command where
  index : Nat
  frame : Frame
  forwarded : frame.type ∈ commandTypes
  deriving DecidableEq

def Command.urgent (k : Command) : Bool := k.frame.type = msgCmdEstop

/-- `struct CmdJob`. -/
structure CmdJob where
  client : Nat
  command : Command
  deriving DecidableEq

namespace CmdJob

def seq (j : CmdJob) : UInt16 := j.command.frame.seq

def payload (j : CmdJob) : Bytes := j.command.frame.payload

def cmdName (j : CmdJob) : Bytes := ascii (msgTypeName j.command.frame.type)

/-- The position among the frames of the connection. -/
def index (j : CmdJob) : Nat := j.command.index

def urgent (j : CmdJob) : Bool := j.command.urgent

def reset (j : CmdJob) : Bool := j.command.frame.type = msgCmdReset

end CmdJob

/-- A job that waits for the command worker. An urgent job is never queued. -/
structure QueuedJob extends CmdJob where
  notUrgent : command.urgent = false
  deriving DecidableEq

/-! ### The receive thread -/

/-- The accesses of `urgent_estop`, in order. -/
inductive UrgentOp where
  | raise | storeSeq | storeValid | register | publish
  deriving DecidableEq, Repr

/-- One operation of a receive thread. -/
inductive RxOp where
  | helloAck (seq : UInt16) (ok : Bool)
  | setHelloOk
  | snapshot
  | heartbeat (seq : UInt16)
  | enqueue (k : Command) (h : k.urgent = false)
  | urgent (op : UrgentOp) (k : Command)
  /-- The test of `fd` after each frame of a batch. -/
  | checkFd

/-- `urgent_estop`. The notification of the waiting worker is left out: a wait may end at any
time. -/
def urgentEstop (k : Command) : List RxOp :=
  [.urgent .raise k, .urgent .storeSeq k, .urgent .storeValid k, .urgent .register k,
    .urgent .publish k]

/-- `enqueue_cmd`. -/
def enqueueCmd (k : Command) : List RxOp :=
  if h : k.urgent = false then [.enqueue k h] else urgentEstop k

/-- Whether a HELLO is for this version of the protocol. -/
def helloAccepted (payload : Bytes) : Bool :=
  let protoMin := (getString payload "proto_min").2
  let protoMax := (getString payload "proto_max").2
  protoMin = ascii protoVersion || protoMax = ascii protoVersion || (protoMin = [] && protoMax = [])

/-- `handle_frame`, for the frame at position `index` of its connection. -/
def handleFrame (index : Nat) (f : Frame) : List RxOp :=
  if f.type = msgHello then
    if helloAccepted f.payload then [.helloAck f.seq true, .setHelloOk, .snapshot]
    else [.helloAck f.seq false]
  else if f.type = msgHeartbeat then [.heartbeat f.seq]
  else if h : f.type ∈ commandTypes then enqueueCmd { index := index, frame := f, forwarded := h }
  else []

/-- `std::stable_sort` with ESTOP first: the comparison has two classes, so the frames of each
class keep their order. -/
def estopFirst (batch : List (Frame × Nat)) : List (Frame × Nat) :=
  batch.filter (fun x => x.1.type = msgCmdEstop) ++
    batch.filter (fun x => ¬x.1.type = msgCmdEstop)

/-- What the receive thread does with the frames that one `recv` has completed. -/
def batchOps (batch : List (Frame × Nat)) : List RxOp :=
  (estopFirst batch).flatMap fun x => handleFrame x.2 x.1 ++ [.checkFd]

/-- `struct Client`. `fdOpen` says that `fd` is not negative. `received` are all frames that the
decoder has yielded, and `todo` is what the receive thread still does before its next `recv`. -/
structure Client where
  fdOpen : Bool := false
  helloOk : Bool := false
  buffer : Bytes := []
  received : List Frame := []
  todo : List RxOp := []

/-- `kReadChunk`. -/
def kReadChunk : Nat := 4096

/-- One `recv`: the frames it completes are handled as one batch. -/
def Client.receive (cl : Client) (chunk : Bytes) : Client :=
  let (frames, rest) := drain next (cl.buffer ++ chunk)
  { cl with
    buffer := rest
    received := cl.received ++ frames
    todo := batchOps (frames.zipIdx cl.received.length) }

/-! ### Texts that the server writes -/

def serverName : String := "botcockpit_bridge/0.1.0"

def helloAckText (ok : Bool) : Bytes :=
  if ok then
    ascii "\x7b\"ok\":true,\"proto\":\"" ++ ascii protoVersion ++ ascii "\",\"server\":\"" ++
      ascii serverName ++ ascii "\"\x7d"
  else ascii "\x7b\"ok\":false,\"reason\":\"proto_unsupported\"\x7d"

def heartbeatText (nowMs : UInt64) : Bytes :=
  ascii "\x7b\"ts_ms\":" ++ decimal nowMs.toNat ++ ascii ",\"role\":\"bridge\"\x7d"

/-- `inject_runtime_fields`. -/
def injectRuntimeFields (stateJson connValue : Bytes) : Bytes :=
  if (afterFirst (quoted "conn") stateJson).isSome then stateJson
  else
    let body := if stateJson.head? = some 123 then stateJson else ascii "\x7b\x7d"
    let body := if body.getLast? = some 125 then body.dropLast else body
    let body :=
      if body ≠ [] ∧ body.getLast? ≠ some 44 ∧ body.getLast? ≠ some 123 then body ++ [44] else body
    body ++ ascii "\"conn\":\"" ++ escape connValue ++ ascii "\",\"heartbeat_rtt_ms\":0\x7d"

end BotCockpit.Bridge
