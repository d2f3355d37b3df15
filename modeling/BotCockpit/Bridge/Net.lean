import BotCockpit.Bridge.Watchdog

/-!
# `BotCockpit.Bridge.Net`: descriptor numbers and connections

`Sys` and `Watch` say what the threads of the bridge do. This module adds what the kernel does with
their calls. A client holds the number of a descriptor, and a number is given to a connection by
`accept` and taken back by `close`. `send_frame` reads the number, waits for `send_mu` and only then
writes, and `heartbeat_watchdog` reads the number before it tests the client. So the number may
belong to another connection when it is used, or to none.

Connections are numbered as their clients are. A frame that `Watch` shows as sent is a `Post` here:
its thread has read the number, and it does nothing else until the write has ended. The mutex is one
for each client, so the frames to a client are written one at a time. A write may fail at any time,
and then some part of the frame may be on the connection (`broken`). Nobody looks at the result.

The descriptor of a client is closed by its own receive thread, or by `TcpServer::stop`, and a
receive thread reads from no number that was given out again: before `recv` it tests `fd`, and
`stop` has closed the listening socket by then.
-/

set_option autoImplicit false

namespace BotCockpit.Bridge

open BotCockpit.Lib
open BotCockpit.Wire (Frame)

/-- The threads that write to connections. -/
inductive Thread where
  | rx (c : Nat)
  | worker
  | ros
  | watchdog
  deriving DecidableEq, Repr

/-- A call of `send_frame` that has read the number of the client and has not written yet. -/
structure Post where
  thread : Thread
  client : Nat
  frame : Frame
  deriving DecidableEq

/-- The thread that moves. `accept_loop`, `stop` and the robot write to no connection. -/
def WatchEvent.thread? : WatchEvent → Option Thread
  | .watchdog => some .watchdog
  | .sys (.recv c _) => some (.rx c)
  | .sys (.hangup c) => some (.rx c)
  | .sys (.rx c _) => some (.rx c)
  | .sys (.worker _ _) => some .worker
  | .sys .takeResult => some .ros
  | .sys .takeState => some .ros
  | .sys (.deltaTimer _) => some .ros
  | .sys (.ros _) => some .ros
  | _ => none

/-- The call of `send_frame` in a step of the thread. -/
def WatchObs.post? (t : Thread) : WatchObs → Option Post
  | .sys (.sent c f) => some { thread := t, client := c, frame := f }
  | .beat (.sent c f) => some { thread := t, client := c, frame := f }
  | _ => none

/-- The calls of `send_frame` in a step. -/
def WatchEvent.posts (e : WatchEvent) (out : List WatchObs) : List Post :=
  match e.thread? with
  | some t => out.filterMap (WatchObs.post? t)
  | none => []

/-- What a step shows. -/
inductive NetObs where
  | watch (o : WatchObs)
  /-- The frame for `client` is on the connection `conn`. -/
  | wrote (client conn : Nat) (f : Frame)
  /-- A write for `client` to the connection `conn` has failed. -/
  | failed (client conn : Nat)
  /-- `::shutdown` of a connection, in the pass that read the clock at `now`. -/
  | shut (conn : Nat) (now : UInt64)
  deriving DecidableEq

/-- A step of a thread, or of the kernel for one. -/
inductive NetEvent where
  /-- `accept` gives the number `fd` to a new connection. -/
  | accept (now : UInt64) (fd : Nat)
  | move (now : UInt64) (e : WatchEvent)
  /-- The write of the `i`-th post ends. -/
  | write (i : Nat) (ok : Bool)
  /-- `::close` of the descriptor of a client. -/
  | release (c : Nat)

/-- The bridge and its connections. `number` is the number that a client holds, and `owner` the
connection that a number belongs to now. `broken` are the connections to which a write has
failed. -/
structure Net (F : Type) [CDouble F] where
  watch : Watch F := {}
  number : Nat → Nat := fun _ => 0
  owner : Nat → Option Nat := fun _ => none
  posts : List Post := []
  broken : Nat → Bool := fun _ => false

namespace Net

variable {F : Type} [CDouble F]

/-- The connection to which the number of a client leads now. -/
def conn (n : Net F) (c : Nat) : Option Nat := n.owner (n.number c)

/-- The thread of the step is in no call of `send_frame`. -/
def free (n : Net F) (e : WatchEvent) : Bool :=
  match e.thread? with
  | some t => n.posts.all fun p => p.thread ≠ t
  | none => true

/-- `::shutdown` with the number of the client. -/
def shut? (n : Net F) : WatchObs → Option NetObs
  | .shutdown c now => (n.conn c).map fun d => .shut d now
  | _ => none

variable (C : Type) [CFloat C]

/-- `accept` gives a new client a number that belongs to no connection. -/
def acceptStep (n : Net F) (now : UInt64) (fd : Nat) : Option (Net F × List NetObs) :=
  match n.owner fd, n.watch.step C (now, .sys .accept) with
  | none, some (watch, out) =>
      some ({ n with
        watch := watch
        number := Function.update n.number n.watch.sys.accepted fd
        owner := Function.update n.owner fd (some n.watch.sys.accepted) }, out.map .watch)
  | _, _ => none

/-- A thread moves that is in no call of `send_frame`. -/
def moveStep (n : Net F) (now : UInt64) (e : WatchEvent) : Option (Net F × List NetObs) :=
  match e, n.free e, n.watch.step C (now, e) with
  | .sys .accept, _, _ => none
  | e, true, some (watch, out) =>
      some ({ n with watch := watch, posts := n.posts ++ e.posts out },
        out.map .watch ++ out.filterMap n.shut?)
  | _, _, _ => none

/-- The end of a write. With a number that belongs to no connection nothing happens. -/
def writeStep (n : Net F) (i : Nat) (ok : Bool) : Option (Net F × List NetObs) :=
  match n.posts[i]? with
  | none => none
  | some p =>
      let m := { n with posts := n.posts.eraseIdx i }
      match n.conn p.client with
      | none => some (m, [])
      | some d =>
          some (if ok then (m, [.wrote p.client d p.frame])
            else ({ m with broken := Function.update m.broken d true }, [.failed p.client d]))

/-- `::close`, after `fd.exchange(-1)`. -/
def releaseStep (n : Net F) (c : Nat) : Option (Net F × List NetObs) :=
  if (n.watch.sys.clients c).fdOpen = false ∧ n.conn c = some c then
    some ({ n with owner := Function.update n.owner (n.number c) none }, [])
  else none

/-- One step. -/
def step (n : Net F) : NetEvent → Option (Net F × List NetObs)
  | .accept now fd => n.acceptStep C now fd
  | .move now e => n.moveStep C now e
  | .write i ok => n.writeStep i ok
  | .release c => n.releaseStep c

/-- The bridge before anything has happened. -/
def init : Net F := {}

end Net

end BotCockpit.Bridge
