import BotCockpit.Bridge.BridgeNode
import BotCockpit.Sim.Lifecycle

/-!
# `BotCockpit.Bridge.System`: the bridge, its clients and the robot

The whole system as a partial step function. An event says which party moves: a connection (the
bytes that `recv` returns, its end), a thread of the bridge, or the robot. A thread makes one
access to shared data in a step, so a run of this system is an interleaving of the threads. The
readings of the clocks are part of the event.

The ROS topics are first-in first-out queues. A message on `botcockpit/cmd` is lost when the
robot has no subscription, and any message may be lost on the way (`Event.lose`). What a step
shows is a list of `Obs`.

What a thread sends is shown at the moment when `send_frame` reads the number of the descriptor
(`Obs.sent`). What becomes of the frame, which connection the number belongs to and whether the
write succeeds, is the matter of `BotCockpit.Bridge.Net`. The watchdog is added in
`BotCockpit.Bridge.Watchdog`. Its `shutdown` of a silent connection shows as the end of the stream
(`Event.hangup`), and `Event.close` is the `fd.exchange(-1)` of `TcpServer::stop`.
-/

set_option autoImplicit false

namespace BotCockpit.Bridge

open BotCockpit.Lib
open BotCockpit.Wire (Frame)
open BotCockpit.Sim (FakeRobot CmdResult Output Node)

/-- The state of the system. Clients are numbered in the order of `accept`, and the ones that have
not come yet are in their initial state. `asyncEstop` is the ESTOP that was the last to store
`asyncSeq`; the code does not know it. -/
structure Sys (F : Type) [CDouble F] where
  accepted : Nat := 0
  clients : Nat → Client := fun _ => {}
  queue : List QueuedJob := []
  worker : Worker := .idle
  ros : Ros := .idle
  estopRaised : Bool := false
  asyncSeq : UInt16 := 0
  asyncEstop : Option CmdJob := none
  asyncValid : Bool := false
  pending : UInt16 → Option PendingCmd := fun _ => none
  robotStateJson : Bytes := ascii "\x7b\x7d"
  lastRobotStateMs : UInt64 := 0
  cmdTopic : List CmdJob := []
  resultTopic : List ResultMsg := []
  stateTopic : List Bytes := []
  consoleTopic : List Bytes := []
  node : Node F := {}

/-- What a step shows. -/
inductive Obs where
  /-- A frame is sent to a client: `send_frame` has read the number of its descriptor. -/
  | sent (client : Nat) (f : Frame)
  /-- `publish_cmd_envelope`. -/
  | published (j : CmdJob)
  /-- The robot has handled a command, and published these results. -/
  | processed (j : CmdJob) (results : List CmdResult)
  /-- `handle_command` returns. -/
  | answered (j : QueuedJob) (text : Bytes)
  /-- `complete_async_ack` is called, for the ESTOP that `async_estop_seq_` stood for. -/
  | completed (estop : Option CmdJob) (seq : UInt16) (text : Bytes)
  deriving DecidableEq

/-- The topics. -/
inductive Topic where
  | cmd | result | state | console
  deriving DecidableEq, Repr

/-- A move of one party. `nowMs` is the wall clock, `steady` the steady clock in milliseconds. -/
inductive Event where
  | accept
  | recv (c : Nat) (chunk : Bytes)
  | hangup (c : Nat)
  | close (c : Nat)
  /-- The next operation of a receive thread. -/
  | rx (c : Nat) (nowMs : UInt64)
  | worker (nowMs : UInt64) (steady : Nat)
  /-- The executor takes a result, a robot state, or the delta timer. -/
  | takeResult
  | takeState
  | deltaTimer (nowMs : UInt64)
  /-- The next access of the callback that the executor is in. -/
  | ros (nowMs : UInt64)
  /-- The robot takes a command, a console message, or makes a callback of its own. -/
  | robotCmd (nowMs : UInt64)
  | robotConsole (nowMs : UInt64)
  | robot (e : Sim.Event)
  | lose (topic : Topic) (i : Nat)

namespace Sys

variable {F : Type} [CDouble F]

def setClient (s : Sys F) (c : Nat) (cl : Client) : Sys F :=
  { s with clients := Function.update s.clients c cl }

def setPending (s : Sys F) (seq : UInt16) (p : Option PendingCmd) : Sys F :=
  { s with pending := Function.update s.pending seq p }

/-- Whether frames go out to a client: it is connected, and its HELLO was accepted. -/
def greeted (s : Sys F) (c : Nat) : Bool := (s.clients c).helloOk && (s.clients c).fdOpen

/-- `client_count`. -/
def clientCount (s : Sys F) : Nat := ((List.range s.accepted).filter s.greeted).length

/-- `send_frame`, up to the test of the number. -/
def sendFrame (s : Sys F) (c : Nat) (type : UInt8) (seq : UInt16) (payload : Bytes) : List Obs :=
  if (s.clients c).fdOpen then
    [.sent c { type := type, flags := 0, seq := seq, payload := payload }]
  else []

/-- `robot_state_fresh`. -/
def robotStateFresh (nowMs : UInt64) (s : Sys F) : Bool :=
  0 < s.lastRobotStateMs && nowMs - s.lastRobotStateMs < hbTimeoutMs

/-- `state_for_tcp`. -/
def stateForTcp (nowMs : UInt64) (s : Sys F) : Bytes :=
  if s.robotStateFresh nowMs then s.robotStateJson else offlineState nowMs

/-- `publish_cmd_envelope`: the message is lost without a subscription. -/
def publishCmd (j : CmdJob) (s : Sys F) : Sys F :=
  if s.node.robot.topicsReady then { s with cmdTopic := s.cmdTopic ++ [j] } else s

/-! ### The receive threads -/

/-- One access of `urgent_estop`. -/
def urgentStep (j : CmdJob) (s : Sys F) : UrgentOp → Sys F × List Obs
  | .raise => ({ s with estopRaised := true }, [])
  | .storeSeq => ({ s with asyncSeq := j.seq, asyncEstop := some j }, [])
  | .storeValid => ({ s with asyncValid := true }, [])
  | .register => (s.setPending j.seq (some {}), [])
  | .publish => (s.publishCmd j, [.published j])

/-- One operation of the receive thread of `c`. `rest` is what it does afterwards. -/
def rxOp (c : Nat) (nowMs : UInt64) (rest : List RxOp) (s : Sys F) : RxOp → Sys F × List Obs
  | .helloAck seq ok =>
      (s.setClient c { s.clients c with todo := rest },
        s.sendFrame c msgHelloAck seq (helloAckText ok))
  | .setHelloOk => (s.setClient c { s.clients c with helloOk := true, todo := rest }, [])
  | .snapshot =>
      (s.setClient c { s.clients c with todo := rest },
        s.sendFrame c msgStateSnapshot 0
          (injectRuntimeFields (s.stateForTcp nowMs) (ascii "OFFLINE")))
  | .heartbeat seq =>
      (s.setClient c { s.clients c with todo := rest },
        s.sendFrame c msgHeartbeat seq (heartbeatText nowMs))
  | .enqueue k h =>
      let s := s.setClient c { s.clients c with todo := rest }
      ({ s with queue := s.queue ++ [{ client := c, command := k, notUrgent := h }] }, [])
  | .urgent op k =>
      urgentStep { client := c, command := k }
        (s.setClient c { s.clients c with todo := rest }) op
  | .checkFd =>
      (s.setClient c { s.clients c with todo := if (s.clients c).fdOpen then rest else [] }, [])

/-! ### The command worker -/

/-- `handle_command` returns. -/
def answer (j : QueuedJob) (text : Bytes) (s : Sys F) : Sys F × List Obs :=
  ({ s with worker := .ack j text }, [.answered j text])

def goto (s : Sys F) (w : Worker) : Sys F × List Obs := ({ s with worker := w }, [])

def workerStep (nowMs : UInt64) (steady : Nat) (s : Sys F) : Option (Sys F × List Obs) :=
  match s.worker with
  | .idle =>
      match s.queue with
      | [] => none
      | j :: queue => some ({ s with queue := queue, worker := .popped j }, [])
  | .popped j => some (if (s.clients j.client).fdOpen then s.goto (.greeted j) else s.goto .idle)
  | .greeted j =>
      some (if (s.clients j.client).helloOk then s.goto (.fresh j)
        else s.goto (.ack j (refusal .protoError j.cmdName j.seq)))
  | .fresh j =>
      some (if s.robotStateFresh nowMs then
          s.goto (if needsGate j then .gate j else .register j)
        else s.answer j (refusal .timeout j.cmdName j.seq))
  | .gate j =>
      some (if (getBool s.robotStateJson "estop").getD false then
          s.answer j (refusal .estopActive j.cmdName j.seq)
        else s.goto (.register j))
  | .register j => some ((s.setPending j.seq (some {})).goto (.publish j))
  | .publish j =>
      some ({ s.publishCmd j.toCmdJob with worker := .enter j }, [.published j.toCmdJob])
  | .enter j => some (s.goto (.loop j (steady + ackTimeoutMs.toNat)))
  | .loop j deadline =>
      some (s.goto (if steady < deadline then .checkRaised j deadline else .expired j))
  | .checkRaised j deadline =>
      some (s.goto (if s.estopRaised then .abort j else .checkDone j deadline))
  | .abort j =>
      some ((s.setPending j.seq none).answer j (refusal .estopActive j.cmdName j.seq))
  | .checkDone j deadline =>
      some (match s.pending j.seq with
        | some p =>
            if p.done then (s.setPending j.seq none).answer j p.ackJson
            else s.goto (.loop j deadline)
        | none => s.goto (.loop j deadline))
  | .expired j => some ((s.setPending j.seq none).answer j (refusal .timeout j.cmdName j.seq))
  | .ack j text => some ({ s with worker := .idle }, s.sendFrame j.client msgCmdAck j.seq text)

/-! ### The ROS executor -/

def rosGoto (s : Sys F) (r : Ros) : Sys F × List Obs := ({ s with ros := r }, [])

def rosStep (nowMs : UInt64) (s : Sys F) : Option (Sys F × List Obs) :=
  match s.ros with
  | .idle => none
  | .result m =>
      some (match resultSeq m.text with
        | none => s.rosGoto .idle
        | some seq => s.rosGoto (if s.asyncValid then .validSeen m seq else .deliver m seq))
  | .validSeen m seq =>
      some (s.rosGoto (if s.asyncSeq = seq then .lower m seq s.asyncEstop else .deliver m seq))
  | .lower m seq estop => some ({ s with estopRaised := false, ros := .invalidate m seq estop }, [])
  | .invalidate m seq estop =>
      some ({ s with asyncValid := false, ros := .complete m seq estop }, [])
  | .complete m seq estop =>
      some ({ s with ros := .ackClients m seq (List.range s.accepted) },
        [.completed estop seq m.text])
  | .ackClients _ _ [] => some (s.rosGoto .idle)
  | .ackClients m seq (d :: clients) =>
      some ({ s with ros := .ackClients m seq clients },
        if s.greeted d then s.sendFrame d msgCmdAck seq m.text else [])
  | .deliver m seq =>
      some (match s.pending seq with
        | none => s.rosGoto .idle
        | some _ => (s.setPending seq (some { done := true, ackJson := m.text })).rosGoto .idle)
  | .stored => some ({ s with lastRobotStateMs := nowMs, ros := .idle }, [])
  | .delta body => some (s.rosGoto (.broadcast body (List.range s.accepted)))
  | .broadcast _ [] => some (s.rosGoto .console)
  | .broadcast body (d :: clients) =>
      some ({ s with ros := .broadcast body clients },
        if s.greeted d then s.sendFrame d msgStateDelta 0 body else [])
  | .console =>
      some ({ s with
        consoleTopic := s.consoleTopic ++ [consoleText (0 < s.clientCount)]
        ros := .idle }, [])

/-! ### The robot -/

/-- The state messages among the outputs of the robot. -/
def stateTexts (out : List (Output F)) : List Bytes :=
  out.filterMap fun o =>
    match o with
    | .state t r => some (r.buildStateJson t)
    | .result _ => none

/-- The robot after a callback: its states go out, and without a subscription the commands that
it has not taken are gone. -/
def setNode (s : Sys F) (node : Node F) (out : List (Output F)) : Sys F :=
  { s with
    node := node
    stateTopic := s.stateTopic ++ stateTexts out
    cmdTopic := if node.robot.topicsReady then s.cmdTopic else []
    consoleTopic := if node.robot.topicsReady then s.consoleTopic else [] }

variable (C : Type) [CFloat C]

/-- The robot takes the next command. -/
def robotCmdStep (nowMs : UInt64) (s : Sys F) : Option (Sys F × List Obs) :=
  match s.cmdTopic with
  | [] => none
  | j :: topic =>
      match s.node.step C
        { nowMs := nowMs, call := .cmd (cmdEnvelope j.cmdName j.seq j.payload) } with
      | none => none
      | some (node, out) =>
          let results := out.filterMap Output.result?
          let s := setNode { s with cmdTopic := topic } node out
          some ({ s with
            resultTopic := s.resultTopic ++ results.map fun res => { job := j, text := res.text } },
            [.processed j results])

/-- The robot takes the next console message. -/
def robotConsoleStep (nowMs : UInt64) (s : Sys F) : Option (Sys F × List Obs) :=
  match s.consoleTopic with
  | [] => none
  | data :: topic =>
      match s.node.step C { nowMs := nowMs, call := .console data } with
      | none => none
      | some (node, out) => some (setNode { s with consoleTopic := topic } node out, [])

/-- A callback of the robot that takes no message. Only `on_cmd` publishes results. -/
def robotStep (e : Sim.Event) (s : Sys F) : Option (Sys F × List Obs) :=
  match e.call with
  | .cmd _ => none
  | .console _ => none
  | _ =>
      match s.node.step C e with
      | none => none
      | some (node, out) => some (setNode s node out, [])

/-! ### The system -/

/-- A message is lost on the way. -/
def lose (i : Nat) (s : Sys F) : Topic → Sys F
  | .cmd => { s with cmdTopic := s.cmdTopic.eraseIdx i }
  | .result => { s with resultTopic := s.resultTopic.eraseIdx i }
  | .state => { s with stateTopic := s.stateTopic.eraseIdx i }
  | .console => { s with consoleTopic := s.consoleTopic.eraseIdx i }

/-- One step of the system. -/
def step (s : Sys F) : Event → Option (Sys F × List Obs)
  | .accept =>
      some ({ s.setClient s.accepted { s.clients s.accepted with fdOpen := true } with
        accepted := s.accepted + 1 }, [])
  | .recv c chunk =>
      if (s.clients c).fdOpen ∧ (s.clients c).todo.isEmpty ∧ chunk ≠ [] ∧
          chunk.length ≤ kReadChunk then
        some (s.setClient c ((s.clients c).receive chunk), [])
      else none
  | .hangup c =>
      if (s.clients c).todo.isEmpty then
        some (s.setClient c { s.clients c with fdOpen := false }, [])
      else none
  | .close c => some (s.setClient c { s.clients c with fdOpen := false }, [])
  | .rx c nowMs =>
      match (s.clients c).todo with
      | [] => none
      | op :: rest => some (s.rxOp c nowMs rest op)
  | .worker nowMs steady => s.workerStep nowMs steady
  | .takeResult =>
      match s.ros, s.resultTopic with
      | .idle, m :: topic => some ({ s with resultTopic := topic, ros := .result m }, [])
      | _, _ => none
  | .takeState =>
      match s.ros, s.stateTopic with
      | .idle, text :: topic =>
          some ({ s with stateTopic := topic, robotStateJson := text, ros := .stored }, [])
      | _, _ => none
  | .deltaTimer nowMs =>
      match s.ros with
      | .idle =>
          some (s.rosGoto (.delta (injectRuntimeFields (s.stateForTcp nowMs) (ascii "OFFLINE"))))
      | _ => none
  | .ros nowMs => s.rosStep nowMs
  | .robotCmd nowMs => s.robotCmdStep C nowMs
  | .robotConsole nowMs => s.robotConsoleStep C nowMs
  | .robot e => s.robotStep C e
  | .lose topic i => some (s.lose i topic, [])

/-- The system before anything has happened. -/
def init : Sys F := {}

/-- A run of the system whose steps meet the guard. -/
abbrev Runs (allow : Sys F → Event → Prop) (h : List (Event × List Obs)) (s : Sys F) : Prop :=
  Run (step C) allow init h s

end Sys

end BotCockpit.Bridge
