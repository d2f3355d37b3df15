import BotCockpit.Bridge.SendFrame
import BotCockpit.Lib.Run

/-!
# `BotCockpit.Spec.Connection`: the bytes on a connection are whole frames

The property of a connection that its calls of `send_frame` have to keep between them, and the guard
on single steps under which they do.
-/

set_option autoImplicit false

namespace BotCockpit.Bridge.Connection

open BotCockpit.Lib

/-- A run of a connection from its start, whose steps all meet the guard. -/
abbrev Runs (allow : Connection → ConnEvent → Prop) (h : List (ConnEvent × Bytes))
    (s : Connection) : Prop :=
  Run step allow init h s

/-- The frames of the calls, one after the other. -/
def framesOf (s : Connection) (ids : List Nat) : Bytes := ids.flatMap fun i => (s.calls i).bytes

/-- `tail` is what another call has sent of its frame, or nothing. -/
def Incomplete (s : Connection) (ids : List Nat) (tail : Bytes) : Prop :=
  tail = [] ∨ ∃ i, i ∉ ids ∧ tail <+: (s.calls i).bytes ∧ tail ≠ (s.calls i).bytes

/-- The connection has taken whole frames, each from a call of its own, and then at most a part of
another one. -/
def WholeFrames (s : Connection) : Prop :=
  ∃ ids tail, ids.Nodup ∧ s.wire = s.framesOf ids ++ tail ∧ Incomplete s ids tail

/-- A call has returned in the middle of its frame. -/
def Abandoned (s : Connection) : Prop :=
  ∃ i frame off, s.calls i = .returned frame off false ∧ 0 < off

/-- After an incomplete frame that nobody completes nothing more is written. -/
def Silent (s : Connection) : Prop :=
  Abandoned s → ∀ e t written, step s e = some (t, written) → written = []

/-- `::send` returns an error or 0 in the middle of a frame, and the connection stays up. -/
def breaksFrame (s : Connection) : ConnEvent → Bool
  | .send i n =>
      match s.calls i with
      | .sending _ off => decide (n ≤ 0) && decide (0 < off) && s.up
      | _ => false
  | _ => false

end BotCockpit.Bridge.Connection
