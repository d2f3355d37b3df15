import BotCockpit.Lib.Run
import BotCockpit.Ui.Console

/-!
# `BotCockpit.Spec.Worker`: the worker by itself, and its sequence numbers

The worker runs one slot at a time: a call of the user thread, or an event of its socket or of its
timers. What it does with sequence numbers is a list of acts, read off the slots in order: a
connection comes up, a frame is written, a frame that came in is handled. `acts` is that list for a
whole history, and an act of the last kind carries the round trips that were reported for the frame.
-/

set_option autoImplicit false

namespace BotCockpit.Ui

open BotCockpit.Lib
open BotCockpit.Wire (Frame)

/-- What the worker thread runs. Each comes with the reading of the clock. -/
inductive WorkerEvent (F : Type) where
  | call (now : Int64) (call : WorkerCall F)
  | socket (now : Int64) (e : SocketWorker.SocketEvent)

/-- The frame that is written. -/
def Output.frame? : Output → Option Frame
  | .signal _ => none
  | .write frame => some frame

/-- The time that `rttUpdated` carries. -/
def Output.rtt? : Output → Option Int32
  | .signal (.rttUpdated ms) => some ms
  | _ => none

namespace SocketWorker

/-- What the worker does, as far as the sequence numbers are concerned. -/
inductive Act where
  /-- A connection came up. -/
  | opened
  /-- The frame was written at this time. -/
  | sent (frame : Frame) (now : Int64)
  /-- The frame came in and was handled at this time, and these round trips were reported. -/
  | got (frame : Frame) (now : Int64) (rtts : List Int32)

namespace Act

def sent? : Act → Option Frame
  | .sent frame _ => some frame
  | _ => none

def rtts : Act → List Int32
  | .got _ _ rtts => rtts
  | _ => []

end Act

section

variable {F : Type} [Qt F]

/-- One slot of the worker. -/
def step (w : SocketWorker) : WorkerEvent F → Option (SocketWorker × List Output)
  | .call now call => some (w.onCall now call)
  | .socket now e => w.onEvent F now e

/-- A history of the worker: its slots, and what each sends out. -/
abbrev History (F : Type) := List (WorkerEvent F × List Output)

/-- A run of the worker from its start. -/
abbrev Runs (h : History F) (w : SocketWorker) : Prop := Run step anyStep {} h w

/-! ### The acts of a history -/

/-- The frames that a slot writes. -/
def sentActs (now : Int64) (out : List Output) : List Act :=
  (out.filterMap Output.frame?).map (Act.sent · now)

variable (F) in
/-- The frames that a slot handles, each with the round trips reported for it. -/
def gotActs (now : Int64) : List Frame → SocketWorker → List Act
  | [], _ => []
  | frame :: frames, w =>
      .got frame now ((w.handleFrame F now frame).2.filterMap Output.rtt?) ::
        gotActs now frames (w.handleFrame F now frame).1

/-- The acts of a slot. -/
def slotActs (w : SocketWorker) : WorkerEvent F → List Act
  | .call now call => sentActs now (w.onCall now call).2
  | .socket now (.readyRead data) =>
      gotActs F now (drain next (w.decoder ++ data)).1
        { w with lastRxMs := now, decoder := (drain next (w.decoder ++ data)).2 }
  | .socket now .connected =>
      .opened :: sentActs now (((w.onEvent F now .connected).map Prod.snd).getD [])
  | .socket now e => sentActs now (((w.onEvent F now e).map Prod.snd).getD [])

/-- The acts of a history from the start of the worker. -/
def acts (h : History F) : List Act := (trace step {} h).flatMap fun x => slotActs x.1 x.2

/-- The frames that were written, in order. -/
def written (h : History F) : List Frame := h.flatMap fun x => x.2.filterMap Output.frame?

/-- The round trips that were reported, in order. -/
def reported (h : History F) : List Int32 := h.flatMap fun x => x.2.filterMap Output.rtt?

variable (F) in
/-- A heartbeat of the bridge. -/
def isPong (frame : Frame) : Bool :=
  frame.type = msgHeartbeat && jsonText (Qt.fromJson F frame.payload) "role" = ascii "bridge"

variable (F) in
/-- The act leaves a heartbeat with this number unmatched on its connection: no new connection
comes up, and no heartbeat of the bridge with this number comes in. -/
def Act.leaves (seq : UInt16) : Act → Prop
  | .opened => False
  | .sent _ _ => True
  | .got frame _ _ => isPong F frame = true → frame.seq ≠ seq

variable (F) in
/-- The heartbeat was sent at this time on the current connection, and is not matched yet. -/
def Unmatched (acts : List Act) (beat : Frame) (sentTs : Int64) : Prop :=
  beat.type = msgHeartbeat ∧ Since (· = .sent beat sentTs) (Act.leaves F beat.seq) acts

variable (F) in
/-- Every round trip that was reported is that of a heartbeat of the bridge to the unmatched
heartbeat of the same number, from the time that one was sent. -/
def PairsRoundTrips (acts : List Act) : Prop :=
  ∀ pre frame now rtts post, acts = pre ++ .got frame now rtts :: post → ∀ ms ∈ rtts,
    isPong F frame = true ∧ ∃ beat sentTs, Unmatched F pre beat sentTs ∧
      beat.seq = frame.seq ∧ ms = (now - sentTs).toInt32

end

end SocketWorker

end BotCockpit.Ui
