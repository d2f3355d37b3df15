import BotCockpit.Bridge.Watchdog
import BotCockpit.Lib.Run

/-!
# `BotCockpit.Spec.Watchdog`: what the watchdog promises to a client

Two promises: it shuts a client down only after the limit has really elapsed, and it leaves a new
session a full period. Each comes with the steps that break it. All of these are about the time
that the watchdog reads for a client, or about a HELLO that is accepted while the watchdog is
between its two readings of `hello_ok`.

Durations are compared as natural numbers, so nothing here wraps around.
-/

set_option autoImplicit false

namespace BotCockpit.Bridge.Watch

open BotCockpit.Lib

variable {F : Type} [CDouble F] (C : Type) [CFloat C]

/-- A history of the bridge with its watchdog. -/
abbrev History := List ((UInt64 × WatchEvent) × List WatchObs)

/-- A run of the bridge with its watchdog, from its start. -/
abbrev Runs (allow : Watch F → UInt64 × WatchEvent → Prop) (h : History) (s : Watch F) : Prop :=
  Run (step C) allow init h s

/-! ### The limit has elapsed -/

/-- When the step shuts a client down, the time that was read for it is not later than the clock of
the pass, and more than the limit lies between that time and the moment when it was read. The
limit is the one for the client at that moment. -/
def Elapsed (s : Watch F) (x : UInt64 × WatchEvent) : Prop :=
  ∀ t out c now, s.step C x = some (t, out) → .shutdown c now ∈ out →
    ∃ ref readMs greeted todo, s.pass = .timed now c ref readMs greeted todo ∧ ref ≤ now ∧
      ref.toNat + (limitMs greeted).toNat < readMs.toNat

/-- The receive thread of `c` accepts the first HELLO in this step. -/
def accepts (s : Watch F) (c : Nat) : WatchEvent → Bool
  | .sys (.rx d _) =>
      d = c && !(s.sys.clients c).helloOk &&
        match (s.sys.clients c).todo with
        | .setHelloOk :: _ => true
        | _ => false
  | _ => false

/-- The watchdog reads a time that is later than the clock of its pass. -/
def readsLater (s : Watch F) (x : UInt64 × WatchEvent) : Bool :=
  match x.2, s.pass with
  | .watchdog, .asked now c hello _ => now < s.refMs c hello
  | _, _ => false

/-- The first HELLO is accepted between the time that the watchdog has read and its second look at
`hello_ok`, when more than the shorter limit has elapsed and not the longer one. -/
def switchesLimit (s : Watch F) (x : UInt64 × WatchEvent) : Bool :=
  match s.pass with
  | .timed now c ref readMs _ _ =>
      s.accepts c x.2 && decide (ref.toNat + 3000 < now.toNat) &&
        decide (readMs.toNat ≤ ref.toNat + 6000)
  | _ => false

/-! ### A full period -/

/-- The shutdowns of a history. -/
def shutdowns (h : History) : List (Nat × UInt64) :=
  h.flatMap fun x => x.2.filterMap fun
    | .shutdown c now => some (c, now)
    | _ => none

/-- The HELLO of the client was accepted within the 6000 ms that it has for it. -/
def inTime (s : Watch F) (c : Nat) : Prop :=
  (s.helloMs c).toNat ≤ (s.acceptMs c).toNat + 6000

instance (s : Watch F) (c : Nat) : Decidable (s.inTime c) := inferInstanceAs (Decidable (_ ≤ _))

/-- A client whose HELLO came in time is shut down only by a pass whose clock is more than 3000 ms
after the acceptance of the HELLO. -/
def FullPeriod (h : History) (s : Watch F) : Prop :=
  ∀ c now, (c, now) ∈ shutdowns h → (s.sys.clients c).helloOk = true → s.inTime c →
    (s.helloMs c).toNat + 3000 < now.toNat

/-- The time that was read lies in the 3000 ms before the clock of the pass. -/
def recent (now ref : UInt64) : Bool := ref ≤ now && decide (now.toNat ≤ ref.toNat + 3000)

/-- The watchdog reads a time for the client that is later than the clock of its pass. After a
HELLO that came in time, a time is also bad that is more than 3000 ms before that clock, and a bad
time matters only to a pass whose clock is at most 3000 ms after the acceptance. -/
def readsStale (s : Watch F) (x : UInt64 × WatchEvent) : Bool :=
  match x.2, s.pass with
  | .watchdog, .asked now c hello _ =>
      if (s.sys.clients c).helloOk then
        decide (s.inTime c) && decide (now.toNat ≤ (s.helloMs c).toNat + 3000) &&
          !recent now (s.refMs c hello)
      else now < s.refMs c hello
  | _, _ => false

/-- The first HELLO is accepted between the time that the watchdog has read and its second look at
`hello_ok`. The HELLO comes in time, and the time that was read is no recent one. -/
def acceptsStale (s : Watch F) (x : UInt64 × WatchEvent) : Bool :=
  match s.pass with
  | .timed now c ref _ _ _ =>
      s.accepts c x.2 && decide (x.1.toNat ≤ (s.acceptMs c).toNat + 6000) && !recent now ref
  | _ => false

end BotCockpit.Bridge.Watch
