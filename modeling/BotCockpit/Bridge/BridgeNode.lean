import BotCockpit.Bridge.TcpServer

/-!
# `BotCockpit.Bridge.BridgeNode`: the threads of the bridge

The command worker runs `cmd_worker_loop` and in it `handle_command` and `wait_cmd_result`. The
ROS executor is one thread, which runs `on_robot_state`, `on_cmd_result` and the delta timer.
Both are program counters here: a constructor is the place before the next access to shared
data, with the local variables that are still needed. `System` makes the accesses.

A fallback of `handle_command` takes CMD_ESTOP. It has no place here, because no queued job is
urgent. The branch for a missing publisher has none either: the constructor creates it.
-/

set_option autoImplicit false

namespace BotCockpit.Bridge

open BotCockpit.Lib

/-- `struct PendingCmd`. -/
structure PendingCmd where
  done : Bool := false
  ackJson : Bytes := []
  deriving DecidableEq, Repr

/-- A result on its way: its text, and the command that the robot has answered with it. The
bridge reads the text only. -/
structure ResultMsg where
  job : CmdJob
  text : Bytes
  deriving DecidableEq

/-- The command worker. -/
inductive Worker where
  | idle
  /-- The job is taken from the queue; next is the test of its `fd`. -/
  | popped (j : QueuedJob)
  /-- Next is the test of `hello_ok`. -/
  | greeted (j : QueuedJob)
  /-- `handle_command`: next is the freshness of the robot state. -/
  | fresh (j : QueuedJob)
  /-- Next is the look at `estop` in the last robot state. -/
  | gate (j : QueuedJob)
  | register (j : QueuedJob)
  | publish (j : QueuedJob)
  /-- `wait_cmd_result`: next is the deadline. -/
  | enter (j : QueuedJob)
  /-- The head of the loop. -/
  | loop (j : QueuedJob) (deadline : Nat)
  | checkRaised (j : QueuedJob) (deadline : Nat)
  /-- The stop was seen; next the pending entry is erased. -/
  | abort (j : QueuedJob)
  | checkDone (j : QueuedJob) (deadline : Nat)
  | expired (j : QueuedJob)
  /-- Next is the ACK frame. -/
  | ack (j : QueuedJob) (text : Bytes)

/-- The ROS executor. `estop` is the ESTOP whose sequence number `async_estop_seq_` was when it
was compared. -/
inductive Ros where
  | idle
  /-- `on_cmd_result`: next is `async_estop_seq_valid_`. -/
  | result (m : ResultMsg)
  /-- Next is `async_estop_seq_`. -/
  | validSeen (m : ResultMsg) (seq : UInt16)
  | lower (m : ResultMsg) (seq : UInt16) (estop : Option CmdJob)
  | invalidate (m : ResultMsg) (seq : UInt16) (estop : Option CmdJob)
  /-- `complete_async_ack`: next is the copy of the client list. -/
  | complete (m : ResultMsg) (seq : UInt16) (estop : Option CmdJob)
  | ackClients (m : ResultMsg) (seq : UInt16) (clients : List Nat)
  /-- Next is the pending entry. -/
  | deliver (m : ResultMsg) (seq : UInt16)
  /-- `on_robot_state`: the text is stored, next is the time. -/
  | stored
  /-- `broadcast_state_delta`: next is the copy of the client list. -/
  | delta (body : Bytes)
  | broadcast (body : Bytes) (clients : List Nat)
  /-- `delta_timer_cb`: next is the console message. -/
  | console

/-- Whether `handle_command` looks at the robot state for an emergency stop first. -/
def needsGate (j : QueuedJob) : Bool :=
  j.cmdName = ascii "CMD_TASK" ||
    (j.cmdName = ascii "CMD_MODE" && (afterFirst (quoted "AUTO") j.payload).isSome)

/-- The sequence number that `on_cmd_result` reads from a result. -/
def resultSeq (text : Bytes) : Option UInt16 :=
  match getInt text "seq" with
  | none => none
  | some v => if v < 0 then none else some (UInt16.ofNat v.toNat)

end BotCockpit.Bridge
