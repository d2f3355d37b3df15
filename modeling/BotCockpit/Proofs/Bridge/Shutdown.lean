import BotCockpit.Proofs.Bridge.Net

/-!
# `BotCockpit.Proofs.Bridge.Shutdown`: when a connection is shut down

The promises of `Watchdog` are about the client that a pass has looked at. `::shutdown` meets the
connection to which its number leads. The two are the same, or the pass goes astray (`step_shut`).
-/

set_option autoImplicit false

namespace BotCockpit.Bridge.Net

open BotCockpit.Lib

variable {F : Type} [CDouble F] {C : Type} [CFloat C] {n m : Net F} {e : NetEvent}
  {o : List NetObs} {allow : Net F → NetEvent → Prop} {h : History}

/-- A connection is shut down by a pass that tests its client, or the pass goes astray. -/
theorem step_shut (hstep : n.step C e = some (m, o)) (hown : n.shutsAstray e = false) {d : Nat}
    {now : UInt64} (hshut : .shut d now ∈ o) :
    ∃ x, e.watch? = some x ∧
      n.watch.step C x = some (m.watch, o.filterMap NetObs.watch?) ∧
        .shutdown d now ∈ o.filterMap NetObs.watch? := by
  have hwatch := step_watch hstep
  cases step_cases hstep with
  | accept now' fd watch out hfree _ =>
      obtain ⟨y, -, hy⟩ := List.mem_map.mp hshut
      cases hy
  | move now' x watch out hnot hfree hmove =>
      rcases hwatch with ⟨hnone, -⟩ | ⟨y, hy, hwatch⟩
      · cases hnone
      · refine ⟨y, hy, hwatch, ?_⟩
        rw [filterMap_watch out _ (shuts_watch n out)]
        rcases List.mem_append.mp hshut with hshut | hshut
        · obtain ⟨z, -, hz⟩ := List.mem_map.mp hshut
          cases hz
        · -- The connection that is shut down owns the number, so it is the client of the pass.
          obtain ⟨c, d', now'', hmem, hconn, heq⟩ := mem_shuts hshut
          cases heq
          obtain ⟨-, hcases⟩ := Watch.step_cases hmove
          cases hcases with
          | other e sys o' he hsys => simp at hmem
          | turn he hturn =>
              obtain ⟨ref, readMs, greeted, todo, hpass, -, -⟩ := hturn.shutdown hmem
              have hpass' : n.watch.pass = .timed now c ref readMs greeted todo := hpass
              cases he
              simp only [shutsAstray, hpass'] at hown
              rwa [conn_own hown hconn]
  | wrote i p d' hp hconn => cases List.mem_singleton.mp hshut
  | failed i p d' hp hconn => cases List.mem_singleton.mp hshut
  | _ => cases hshut

/-! ### The limit has elapsed -/

/-- Accesses of the watchdog, all at one time. -/
def turns (now : UInt64) (n : Nat) : List (UInt64 × WatchEvent) :=
  List.replicate n (now, .watchdog)

/-- A client that says nothing for 7000 ms. -/
def silentRun : History × Net ℚ :=
  (exec (step Exact.Cost) readsInTime init
    (promptly Exact.Cost (init : Net ℚ) ((1, .sys .accept) :: turns 7001 7))).get
      (by decide +kernel)

/-- A pass reads the clock, a client is accepted a millisecond later, and the pass copies the list
of clients after that. -/
def lateRun : History × Net ℚ :=
  (exec (step Exact.Cost) anyStep init
    (promptly Exact.Cost (init : Net ℚ)
      ((4999, .watchdog) :: (5000, .sys .accept) :: turns 5000 6))).get (by decide +kernel)

/-- The test of the client. -/
def lateTest : Net ℚ × List NetObs :=
  (lateRun.2.step Exact.Cost (.move 5000 .watchdog)).get (by decide +kernel)

/-- Client 0 says nothing for 7000 ms. When the pass has looked at it and before the test, it goes,
and another client comes that is given its number. -/
def strayTurns : List NetEvent :=
  .accept 1 5 :: List.replicate 7 (.move 7001 .watchdog) ++
    [.move 7001 (.sys (.hangup 0)), .release 0, .accept 7001 5, .move 7001 .watchdog]

/-- Client 1 is shut down as soon as it has come. -/
example : (exec (step (F := ℚ) Exact.Cost) readsInTime init strayTurns).map
    (fun r => (shutdowns r.1, r.2.watch.acceptMs 1)) = some ([(1, 7001)], 7001) := by
  decide +kernel

/-! ### A full period -/

/-- The shutdowns of a run, one event longer. -/
theorem shutdowns_snoc (h : History) (e : NetEvent) (o : List NetObs) :
    shutdowns (h ++ [(e, o)]) = shutdowns h ++ o.filterMap NetObs.shut? := by
  simp [shutdowns]

/-- A shutdown among the observations. -/
theorem mem_shut {d : Nat} {now : UInt64} (hmem : (d, now) ∈ o.filterMap NetObs.shut?) :
    .shut d now ∈ o := by
  obtain ⟨x, hx, heq⟩ := List.mem_filterMap.mp hmem
  cases x with
  | shut d' now' =>
      cases heq
      exact hx
  | _ => cases heq

/-- In a run that does not go astray, the connections that are shut down are those of the clients
that the watchdog shuts down. -/
theorem Runs.shutdowns_watch (hrun : Runs C (fun n e => n.shutsAstray e = false) h n) {d : Nat}
    {now : UInt64} (hmem : (d, now) ∈ shutdowns h) :
    (d, now) ∈ Watch.shutdowns (watchHistory h) := by
  induction hrun with
  | nil => cases hmem
  | @snoc h n m e o _ hown hstep ih =>
      rw [shutdowns_snoc] at hmem
      rw [watchHistory, List.filterMap_append]
      rcases List.mem_append.mp hmem with hmem | hmem
      · obtain ⟨x, hx, hx'⟩ := List.mem_flatMap.mp (ih hmem)
        exact List.mem_flatMap.mpr ⟨x, List.mem_append_left _ hx, hx'⟩
      · obtain ⟨x, hx, -, hshut⟩ := step_shut hstep hown (mem_shut hmem)
        refine List.mem_flatMap.mpr ⟨(x, o.filterMap NetObs.watch?), ?_, ?_⟩
        · exact List.mem_append_right _ (by simp [hx])
        · exact List.mem_filterMap.mpr ⟨_, hshut, rfl⟩

/-- A client says HELLO at `helloMs`: four operations of the receive thread. -/
def helloEvents (helloMs : UInt64) : List (UInt64 × WatchEvent) :=
  (helloMs, .sys (.recv 0 (encodeFrame msgHello 0 1 (ascii "\x7b\x7d")))) ::
    List.replicate 4 (helloMs, .sys (.rx 0 helloMs))

/-- A client sends HELLO and one heartbeat, and then nothing for 3500 ms. -/
def greetedRun : History × Net ℚ :=
  (exec (step Exact.Cost) readsFresh init
    (promptly Exact.Cost (init : Net ℚ)
      ((1000, .sys .accept) :: helloEvents 1500 ++
        [(2500, .sys (.recv 0 (encodeFrame msgHeartbeat 0 2 []))), (2500, .sys (.rx 0 2500)),
          (2500, .sys (.rx 0 2500))] ++ turns 4000 9 ++ turns 6000 8))).get (by decide +kernel)

/-- A client sends its HELLO 5900 ms after it was accepted, and a pass runs 100 ms later. -/
def lateHelloRun : History × Net ℚ :=
  (exec (step Exact.Cost) anyStep init
    (promptly Exact.Cost (init : Net ℚ)
      ((1000, .sys .accept) :: helloEvents 6900 ++ turns 7000 8))).get (by decide +kernel)

end BotCockpit.Bridge.Net
