import BotCockpit.Bridge.Net
import BotCockpit.Spec.Bridge
import BotCockpit.Spec.Watchdog

/-!
# `BotCockpit.Spec.Net`: what arrives on a connection

What the bridge promises to a client, it promises for the frames on its connection, and for the
shutdown of this connection. Besides the conditions of `Spec.Bridge` and `Spec.Watchdog`, such a
promise needs that the number of a descriptor leads where the thread means that it leads
(`writesAstray`, `shutsAstray`).
-/

set_option autoImplicit false

namespace BotCockpit.Bridge

open BotCockpit.Lib
open BotCockpit.Wire (Frame)

/-! ### What a history shows -/

/-- The step of `Watch` in a step. -/
def NetEvent.watch? : NetEvent → Option (UInt64 × WatchEvent)
  | .accept now _ => some (now, .sys .accept)
  | .move now e => some (now, e)
  | _ => none

/-- The step of `Sys` in a step. -/
def NetEvent.sys? : NetEvent → Option Event
  | .accept _ _ => some .accept
  | .move _ (.sys e) => some e
  | _ => none

def NetObs.watch? : NetObs → Option WatchObs
  | .watch o => some o
  | _ => none

def NetObs.sys? : NetObs → Option Obs
  | .watch (.sys o) => some o
  | _ => none

/-- The frame that a step puts on connection `c`. -/
def NetObs.frameOn? (c : Nat) : NetObs → Option Frame
  | .wrote _ d f => if d = c then some f else none
  | _ => none

/-- The shutdown of a connection. -/
def NetObs.shut? : NetObs → Option (Nat × UInt64)
  | .shut d now => some (d, now)
  | _ => none

namespace Net

variable {F : Type} [CDouble F] (C : Type) [CFloat C]

/-- A history of the bridge and its connections. -/
abbrev History := List (NetEvent × List NetObs)

/-- A run of the bridge and its connections, from its start. -/
abbrev Runs (allow : Net F → NetEvent → Prop) (h : History) (n : Net F) : Prop :=
  Run (step C) allow init h n

/-- The steps of `Watch` in a history. -/
def watchHistory (h : History) : Watch.History :=
  h.filterMap fun x => x.1.watch?.map fun e => (e, x.2.filterMap NetObs.watch?)

/-- The steps of `Sys` in a history. -/
def sysHistory (h : History) : List (Event × List Obs) :=
  h.filterMap fun x => x.1.sys?.map fun e => (e, x.2.filterMap NetObs.sys?)

/-- The frames that have come on connection `c`, in order. -/
def framesOn (c : Nat) (h : History) : List Frame :=
  h.flatMap fun x => x.2.filterMap (NetObs.frameOn? c)

/-- The shutdowns of connections, in order. -/
def shutdowns (h : History) : List (Nat × UInt64) := h.flatMap fun x => x.2.filterMap NetObs.shut?

/-- The guard of a run of `Watch`, on the steps of `Watch` in a step. -/
def onWatch (P : Watch F → UInt64 × WatchEvent → Prop) (n : Net F) (e : NetEvent) : Prop :=
  match e.watch? with
  | some x => P n.watch x
  | none => True

/-- The guard of a run of `Sys`, on the steps of `Sys` in a step. -/
def onSys (P : Sys F → Event → Prop) (n : Net F) (e : NetEvent) : Prop :=
  match e.sys? with
  | some e => P n.watch.sys e
  | none => True

/-! ### Numbers that lead astray -/

/-- The number of the client belongs to the connection of another client. -/
def leadsAstray (n : Net F) (c : Nat) : Bool :=
  match n.conn c with
  | some d => d ≠ c
  | none => false

/-- A frame for a client is written to the connection of another one. -/
def writesAstray (n : Net F) : NetEvent → Bool
  | .write i _ => (n.posts[i]?).any fun p => n.leadsAstray p.client
  | _ => false

/-- The watchdog is about to test a client whose number leads to another connection. -/
def shutsAstray (n : Net F) : NetEvent → Bool
  | .move _ .watchdog =>
      match n.watch.pass with
      | .timed _ c _ _ _ _ => n.leadsAstray c
      | _ => false
  | _ => false

/-- A write to a connection succeeds after one to it has failed. -/
def writesOn (n : Net F) : NetEvent → Bool
  | .write i true => (n.posts[i]?).any fun p => (n.conn p.client).any n.broken
  | _ => false

/-! ### ACKs -/

/-- The sequence numbers of the CMD_ACK frames on connection `c`, in order. -/
def acksOn (c : Nat) (h : History) : List UInt16 :=
  ((framesOn c h).filter fun f => f.type = msgCmdAck).map Frame.seq

/-- A frame of `complete_async_ack` goes to the client whose ESTOP the result is for, and every
frame goes to the client that it is for. -/
def ownAck (n : Net F) (e : NetEvent) : Prop :=
  onSys Sys.ownAck n e ∧ n.writesAstray e = false

/-! ### State frames -/

/-- The receive thread of the client has accepted its HELLO, and the snapshot is not written yet. -/
def snapshotDue (n : Net F) (c : Nat) : Prop :=
  (n.watch.sys.clients c).snapshotDue = true ∨
    ∃ p ∈ n.posts, p.thread = .rx c ∧ p.frame.type = msgStateSnapshot

/-- The delta broadcaster comes to no client whose first snapshot is still to be written. -/
def DeltaWaits (h : History) (n : Net F) : NetEvent → Prop
  | .move _ (.sys (.ros _)) =>
      match n.watch.sys.ros with
      | .broadcast _ (d :: _) =>
          n.watch.sys.greeted d = true → n.snapshotDue d →
            ∃ f ∈ framesOn d h, f.type = msgStateSnapshot
      | _ => True
  | _ => True

/-- In every step of the run the delta broadcaster waits, every frame is written to the connection
that it is for, and none after a write to this connection has failed. -/
def Orderly (F : Type) [CDouble F] (h : History) : Prop :=
  ∀ pre x (n : Net F), pre ++ [x] <+: h → Runs C anyStep pre n →
    n.DeltaWaits pre x.1 ∧ n.writesAstray x.1 = false ∧ n.writesOn x.1 = false

/-! ### Shutdowns -/

/-- When the step shuts a connection down, the client of this connection is the one whose time the
pass has read. The time is not later than the clock of the pass, and more than the limit lies
between it and the moment when it was read. The limit is the one for the client at that moment. -/
def Elapsed (n : Net F) (e : NetEvent) : Prop :=
  ∀ m out d now, n.step C e = some (m, out) → .shut d now ∈ out →
    ∃ ref readMs greeted todo, n.watch.pass = .timed now d ref readMs greeted todo ∧ ref ≤ now ∧
      ref.toNat + (Watch.limitMs greeted).toNat < readMs.toNat

/-- The watchdog reads no time that is later than the clock of its pass, and no first HELLO comes
between its two readings of `hello_ok` at the wrong moment. -/
def readsInTime : Net F → NetEvent → Prop :=
  onWatch fun s x => s.readsLater x = false ∧ s.switchesLimit x = false

/-- A connection whose HELLO came in time is shut down only by a pass whose clock is more than
3000 ms after the acceptance of the HELLO. -/
def FullPeriod (h : History) (n : Net F) : Prop :=
  ∀ c now, (c, now) ∈ shutdowns h → (n.watch.sys.clients c).helloOk = true → n.watch.inTime c →
    (n.watch.helloMs c).toNat + 3000 < now.toNat

/-- The watchdog reads no stale time, no HELLO is accepted over one, and a connection is shut down
for its own client. -/
def readsFresh (n : Net F) (e : NetEvent) : Prop :=
  onWatch (fun s x => s.readsStale x = false ∧ s.acceptsStale x = false) n e ∧
    n.shutsAstray e = false

/-! ### Decidability -/

instance (P : Watch F → UInt64 × WatchEvent → Prop) [∀ s x, Decidable (P s x)] (n : Net F)
    (e : NetEvent) : Decidable (onWatch P n e) := by
  unfold onWatch
  split <;> infer_instance

instance (P : Sys F → Event → Prop) [∀ s e, Decidable (P s e)] (n : Net F) (e : NetEvent) :
    Decidable (onSys P n e) := by
  unfold onSys
  split <;> infer_instance

instance (n : Net F) (e : NetEvent) : Decidable (n.ownAck e) :=
  inferInstanceAs (Decidable (_ ∧ _))

instance (n : Net F) (c : Nat) : Decidable (n.snapshotDue c) := inferInstanceAs (Decidable (_ ∨ _))

instance (h : History) (n : Net F) (e : NetEvent) : Decidable (n.DeltaWaits h e) := by
  unfold DeltaWaits
  split <;> try split
  all_goals infer_instance

instance (n : Net F) (e : NetEvent) : Decidable (n.readsInTime e) := by
  unfold readsInTime
  infer_instance

instance (n : Net F) (e : NetEvent) : Decidable (n.readsFresh e) :=
  inferInstanceAs (Decidable (_ ∧ _))

end Net

end BotCockpit.Bridge
