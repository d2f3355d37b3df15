import BotCockpit.Wire.Frame

/-!
# `BotCockpit.Bridge.SendFrame`: the loop of `send_frame`

`TcpServer::send_frame` down to the calls of the operating system. Any number of calls run at once
on one client: each reads `fd`, waits for `send_mu`, and then sends its frame in as many parts as
`::send` makes of it. What `::send` returns is a part of the event, so a run has every sequence of
results: a count up to the request, or an error. `wire` is what the connection has taken.

`Bridge.System` has a frame go out in one piece. The proofs about this model say when it does.
-/

set_option autoImplicit false

namespace BotCockpit.Bridge

open BotCockpit.Lib
open BotCockpit.Wire (Frame)

/-- Where a call of `send_frame` is. `off` is the number of bytes it has sent. -/
inductive SendPc where
  | idle
  /-- The frame is encoded, and the call waits for `send_mu`. -/
  | waiting (frame : Frame)
  | sending (frame : Frame) (off : Nat)
  | returned (frame : Frame) (off : Nat) (ok : Bool)

/-- `bytes` of a call. -/
def SendPc.bytes : SendPc → Bytes
  | .idle => []
  | .waiting frame => encodeFrame frame.type frame.flags frame.seq frame.payload
  | .sending frame _ => encodeFrame frame.type frame.flags frame.seq frame.payload
  | .returned frame _ _ => encodeFrame frame.type frame.flags frame.seq frame.payload

/-- The connection of one client, and the calls of `send_frame` on it. -/
structure Connection where
  /-- `fd` is not negative. -/
  fdOpen : Bool := true
  /-- The connection takes bytes: it is neither closed nor shut down nor reset. -/
  up : Bool := true
  sendMu : Option Nat := none
  calls : Nat → SendPc := fun _ => .idle
  wire : Bytes := []

/-- What happens next. -/
inductive ConnEvent where
  /-- `send_frame` is called, and reads `fd`. -/
  | call (i : Nat) (frame : Frame)
  | lock (i : Nat)
  /-- `::send` returns `n`. -/
  | send (i : Nat) (n : Int)
  /-- `client_loop` ends: `fd.exchange(-1)`. -/
  | clearFd
  /-- `::close`, `::shutdown`, or the peer. -/
  | down

namespace Connection

def setCall (s : Connection) (i : Nat) (pc : SendPc) : Connection :=
  { s with calls := Function.update s.calls i pc }

/-- The call returns, and `lock` goes out of scope. -/
def finish (s : Connection) (i : Nat) (frame : Frame) (off : Nat) (ok : Bool) : Connection :=
  { s.setCall i (.returned frame off ok) with sendMu := none }

/-- The test of the loop. -/
def loop (s : Connection) (i : Nat) (frame : Frame) (off : Nat) : Connection :=
  if off < (encodeFrame frame.type frame.flags frame.seq frame.payload).length then
    s.setCall i (.sending frame off)
  else s.finish i frame off true

/-- One step, with the bytes that the connection takes. `none` when it cannot happen. -/
def step (s : Connection) : ConnEvent → Option (Connection × Bytes)
  | .call i frame =>
      match s.calls i with
      | .idle =>
          some (s.setCall i (if s.fdOpen then .waiting frame else .returned frame 0 false), [])
      | _ => none
  | .lock i =>
      match s.calls i, s.sendMu with
      | .waiting frame, none => some (loop { s with sendMu := some i } i frame 0, [])
      | _, _ => none
  | .send i n =>
      match s.calls i with
      | .sending frame off =>
          let rest := (encodeFrame frame.type frame.flags frame.seq frame.payload).drop off
          if n ≤ 0 then some (s.finish i frame off false, [])
          else if n.toNat ≤ rest.length ∧ s.up = true then
            some (loop { s with wire := s.wire ++ rest.take n.toNat } i frame (off + n.toNat),
              rest.take n.toNat)
          else none
      | _ => none
  | .clearFd => some ({ s with fdOpen := false }, [])
  | .down => some ({ s with up := false }, [])

/-- The connection as `accept_loop` leaves it. -/
def init : Connection := {}

end Connection

end BotCockpit.Bridge
