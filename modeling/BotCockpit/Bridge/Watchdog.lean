import BotCockpit.Bridge.System

/-!
# `BotCockpit.Bridge.Watchdog`: the thread that looks for silent clients

`heartbeat_watchdog` beside the rest of the bridge. The rest is `Sys`; here are the two times of
each `Client`, who writes them, and the thread that reads them. A pass of the thread is a sequence
of accesses, since the other threads run between any two of them: it reads the clock once, copies
the list of clients, sends the periodic heartbeats, and then reads `fd`, `hello_ok`, a time and
`hello_ok` again of one client after the other.

Every step comes with a reading of the clock, and no reading is earlier than the one before.

A pass names the client whose `fd` it has read. The connection that `::shutdown` meets with this
number is the matter of `BotCockpit.Bridge.Net`.
-/

set_option autoImplicit false

namespace BotCockpit.Bridge

open BotCockpit.Lib

/-- `HB_INTERVAL_MS`. -/
def hbIntervalMs : UInt64 := 1000

/-- Where `heartbeat_watchdog` stands in its loop. `now` is the reading of the clock that the pass
uses throughout, and `todo` are the clients that it has still to look at. -/
inductive Pass where
  | asleep
  | awake (now : UInt64)
  /-- It sends the heartbeat to `rest`. -/
  | beating (now : UInt64) (rest todo : List Nat)
  | next (now : UInt64) (todo : List Nat)
  /-- `fd` of the client was open. -/
  | opened (now : UInt64) (c : Nat) (todo : List Nat)
  /-- `hello_ok` was read for `ref`. -/
  | asked (now : UInt64) (c : Nat) (hello : Bool) (todo : List Nat)
  /-- `ref` was read. The code does not know the other two: the time at which it was read, and
  whether the HELLO had been accepted then. -/
  | timed (now : UInt64) (c : Nat) (ref : UInt64) (readMs : UInt64) (greeted : Bool)
      (todo : List Nat)
  deriving DecidableEq

/-- What a step shows. -/
inductive WatchObs where
  | sys (o : Obs)
  /-- A periodic heartbeat goes out. -/
  | beat (o : Obs)
  /-- `::shutdown` with the number of a client, in the pass that read the clock at `now`. -/
  | shutdown (c : Nat) (now : UInt64)
  deriving DecidableEq

/-- A move of the watchdog or of another thread. -/
inductive WatchEvent where
  | watchdog
  | sys (e : Event)

/-- The bridge with its watchdog. `lastRxMs` and `lastHbRxMs` are those fields of each client.
`clock` is the last reading of the clock, and the code does not keep `acceptMs` and `helloMs`: the
times at which a client was accepted, and at which its first HELLO was. -/
structure Watch (F : Type) [CDouble F] where
  sys : Sys F := {}
  clock : UInt64 := 0
  lastRxMs : Nat → UInt64 := fun _ => 0
  lastHbRxMs : Nat → UInt64 := fun _ => 0
  acceptMs : Nat → UInt64 := fun _ => 0
  helloMs : Nat → UInt64 := fun _ => 0
  lastTx : UInt64 := 0
  pass : Pass := .asleep

namespace Watch

variable {F : Type} [CDouble F]

/-- The times that a step of another thread writes, at `now`. -/
def stamp (now : UInt64) (s : Watch F) : Event → Watch F
  | .accept =>
      { s with
        lastRxMs := Function.update s.lastRxMs s.sys.accepted now
        lastHbRxMs := Function.update s.lastHbRxMs s.sys.accepted now
        acceptMs := Function.update s.acceptMs s.sys.accepted now }
  | .recv c _ => { s with lastRxMs := Function.update s.lastRxMs c now }
  | .rx c _ =>
      match (s.sys.clients c).todo with
      | .heartbeat _ :: _ => { s with lastHbRxMs := Function.update s.lastHbRxMs c now }
      | .setHelloOk :: _ =>
          if (s.sys.clients c).helloOk then s
          else { s with helloMs := Function.update s.helloMs c now }
      | _ => s
  | _ => s

/-- The limit for a client, as `hello_ok` is when it is read. -/
def limitMs (hello : Bool) : UInt64 := if hello then hbTimeoutMs else hbTimeoutMs * 2

/-- The time that `ref` is read from. -/
def refMs (s : Watch F) (c : Nat) (hello : Bool) : UInt64 :=
  if hello then s.lastHbRxMs c else s.lastRxMs c

/-- The next access of `heartbeat_watchdog`. -/
def watchdogStep (s : Watch F) : Watch F × List WatchObs :=
  match s.pass with
  | .asleep => ({ s with pass := .awake s.clock }, [])
  | .awake now =>
      let snapshot := List.range s.sys.accepted
      if hbIntervalMs ≤ now - s.lastTx then
        ({ s with lastTx := now, pass := .beating now snapshot snapshot }, [])
      else ({ s with pass := .next now snapshot }, [])
  | .beating now [] todo => ({ s with pass := .next now todo }, [])
  | .beating now (c :: rest) todo =>
      ({ s with pass := .beating now rest todo },
        if s.sys.greeted c then
          (s.sys.sendFrame c msgHeartbeat 0 (heartbeatText now)).map WatchObs.beat
        else [])
  | .next _ [] => ({ s with pass := .asleep }, [])
  | .next now (c :: todo) =>
      ({ s with
        pass := if (s.sys.clients c).fdOpen then .opened now c todo else .next now todo }, [])
  | .opened now c todo => ({ s with pass := .asked now c (s.sys.clients c).helloOk todo }, [])
  | .asked now c hello todo =>
      ({ s with
        pass := .timed now c (s.refMs c hello) s.clock (s.sys.clients c).helloOk todo }, [])
  | .timed now c ref _ _ todo =>
      ({ s with pass := .next now todo },
        if 0 < ref ∧ limitMs (s.sys.clients c).helloOk < now - ref then [.shutdown c now] else [])

variable (C : Type) [CFloat C]

/-- One step, at the time `now`. -/
def step (s : Watch F) (x : UInt64 × WatchEvent) : Option (Watch F × List WatchObs) :=
  if s.clock ≤ x.1 then
    match x.2 with
    | .watchdog => some (watchdogStep { s with clock := x.1 })
    | .sys e =>
        match s.sys.step C e with
        | none => none
        | some (sys, out) =>
            some ({ s.stamp x.1 e with clock := x.1, sys := sys }, out.map WatchObs.sys)
  else none

/-- The bridge before anything has happened. -/
def init : Watch F := {}

end Watch

end BotCockpit.Bridge
