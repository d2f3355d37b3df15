import BotCockpit.Bridge.JsonUtil
import BotCockpit.Bridge.Protocol
import BotCockpit.Lib.Json

/-!
# `BotCockpit.Bridge.Messages`: the texts that the bridge writes

The command envelope for the robot, the console message, the answers that the bridge gives
itself, and the state template for a robot that it has not heard of lately.
-/

set_option autoImplicit false

namespace BotCockpit.Bridge

open BotCockpit.Lib

/-- The text of `publish_cmd_envelope`. The payload is put in as it is. -/
def cmdEnvelope (cmdName : Bytes) (seq : UInt16) (payload : Bytes) : Bytes :=
  ascii "\x7b\"seq\":" ++ decimal seq.toNat ++ ascii ",\"cmd\":\"" ++ escape cmdName ++
    ascii "\",\"payload\":" ++ (if payload = [] then ascii "null" else payload) ++ ascii "\x7d"

/-- The message that `delta_timer_cb` publishes for the robot. -/
def consoleText (online : Bool) : Bytes :=
  ascii "\x7b\"online\":" ++ ascii (if online then "true" else "false") ++ ascii "\x7d"

/-- The reasons of the bridge's own refusals. -/
inductive Refusal where
  | timeout | estopActive | protoError
  deriving DecidableEq, Repr

def Refusal.text : Refusal → String
  | .timeout => "timeout"
  | .estopActive => "estop_active"
  | .protoError => "proto_error"

/-- The answer with which the bridge itself refuses a command. -/
def refusal (reason : Refusal) (cmdName : Bytes) (seq : UInt16) : Bytes :=
  ascii "\x7b\"seq\":" ++ decimal seq.toNat ++ ascii ",\"ok\":false,\"cmd\":\"" ++ cmdName ++
    ascii "\",\"status\":\"REJECTED\",\"reason\":\"" ++ ascii reason.text ++ ascii "\"\x7d"

/-- The stale-robot template of `state_for_tcp`. -/
def offlineStateJson (nowMs : UInt64) : Json :=
  .object
    [("ts_ms", .num (decimal nowMs.toNat)),
      ("conn", .lit "OFFLINE"),
      ("mode", .lit "TELEOP"),
      ("phase", .lit "BOOT"),
      ("heartbeat_rtt_ms", .num (ascii "0")),
      ("nodes", .arr []),
      ("pose", .object [("x", .num (ascii "0")), ("y", .num (ascii "0")),
        ("yaw", .num (ascii "0"))]),
      ("battery", .num (ascii "0")),
      ("task", .object [("id", .null), ("type", .null), ("status", .lit "NONE")]),
      ("faults", .arr []),
      ("estop", .bool false),
      ("control_enabled", .bool false)]

def offlineState (nowMs : UInt64) : Bytes := (offlineStateJson nowMs).render escape

end BotCockpit.Bridge
