import BotCockpit.Lib.Bytes

/-!
# `BotCockpit.Bridge.Protocol`: message types, times and names of the protocol

The constants of `protocol.hpp`, and the frame types that the bridge forwards to the robot as
commands.
-/

set_option autoImplicit false

namespace BotCockpit.Bridge

open BotCockpit.Lib

/-! ### Message types -/

def msgHeartbeat : UInt8 := 0x01
def msgHello : UInt8 := 0x02
def msgHelloAck : UInt8 := 0x03
def msgStateSnapshot : UInt8 := 0x10
def msgStateDelta : UInt8 := 0x11
def msgCmdMode : UInt8 := 0x20
def msgCmdTask : UInt8 := 0x21
def msgCmdEstop : UInt8 := 0x22
def msgCmdReset : UInt8 := 0x23
def msgCmdAck : UInt8 := 0x2F
def msgEventFault : UInt8 := 0x30
def msgParamGet : UInt8 := 0x40
def msgParamSet : UInt8 := 0x41
def msgParamAck : UInt8 := 0x42

/-! ### Times in milliseconds -/

def hbTimeoutMs : UInt64 := 3000
def ackTimeoutMs : UInt64 := 2000

def protoVersion : String := "0.1"

/-- `msg_type_name`. -/
def msgTypeName (type : UInt8) : String :=
  if type = msgHeartbeat then "HEARTBEAT"
  else if type = msgHello then "HELLO"
  else if type = msgHelloAck then "HELLO_ACK"
  else if type = msgStateSnapshot then "STATE_SNAPSHOT"
  else if type = msgStateDelta then "STATE_DELTA"
  else if type = msgCmdMode then "CMD_MODE"
  else if type = msgCmdTask then "CMD_TASK"
  else if type = msgCmdEstop then "CMD_ESTOP"
  else if type = msgCmdReset then "CMD_RESET"
  else if type = msgCmdAck then "CMD_ACK"
  else if type = msgEventFault then "EVENT_FAULT"
  else if type = msgParamGet then "PARAM_GET"
  else if type = msgParamSet then "PARAM_SET"
  else if type = msgParamAck then "PARAM_ACK"
  else "UNKNOWN"

/-- The frame types that `handle_frame` passes to `enqueue_cmd`. -/
def commandTypes : List UInt8 :=
  [msgCmdMode, msgCmdTask, msgCmdEstop, msgCmdReset, msgParamGet, msgParamSet]

end BotCockpit.Bridge
