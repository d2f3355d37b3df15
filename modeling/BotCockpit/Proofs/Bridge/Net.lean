import BotCockpit.Proofs.Bridge.Watchdog
import BotCockpit.Spec.Net

/-!
# `BotCockpit.Proofs.Bridge.Net`: one step of the bridge and its connections

`step_cases` says what a step does. Two things follow from it. A run is a run of `Watch` and one of
`Sys` (`Runs.watch`, `Runs.sys`), so what is proved of these holds here as well. And a client whose
`fd` is open holds the number of its own connection (`Runs.holds`).

The frames on a connection are compared with the ones that the threads have sent: a frame is sent
before it is written (`Runs.posts_sent`), and it is written once (`Runs.countP_framesOn_le`).
-/

set_option autoImplicit false

namespace BotCockpit.Bridge

open BotCockpit.Lib
open BotCockpit.Wire (Frame)

/-! ### What a thread sends -/

namespace Sys

variable {F : Type} [CDouble F] {C : Type} [CFloat C] {s t : Sys F} {e : Event} {o : List Obs}

/-- `send_frame` sends to a client whose `fd` is open. -/
theorem sendFrame_open {c d : Nat} {type : UInt8} {seq : UInt16} {payload : Bytes} {f : Frame}
    (hx : .sent c f ∈ s.sendFrame d type seq payload) : c = d ∧ (s.clients c).fdOpen = true := by
  unfold sendFrame at hx
  split at hx
  · rename_i hopen
    obtain ⟨rfl, -⟩ := Obs.sent.inj (List.mem_singleton.mp hx)
    exact ⟨rfl, hopen⟩
  · cases hx

/-- A callback sends to open connections only. -/
theorem rosStep_open {nowMs : UInt64} (hstep : s.rosStep nowMs = some (t, o)) {c : Nat} {f : Frame}
    (hx : .sent c f ∈ o) : (s.clients c).fdOpen = true := by
  cases hpc : s.ros with
  | idle => simp [rosStep, hpc] at hstep
  | ackClients m seq clients =>
      cases clients with
      | nil =>
          simp only [rosStep, hpc, rosGoto, Option.some.injEq, Prod.mk.injEq] at hstep
          rw [← hstep.2] at hx
          cases hx
      | cons d clients =>
          simp only [rosStep, hpc, Option.some.injEq, Prod.mk.injEq] at hstep
          rw [← hstep.2] at hx
          split at hx
          · exact (sendFrame_open hx).2
          · cases hx
  | broadcast body clients =>
      cases clients with
      | nil =>
          simp only [rosStep, hpc, rosGoto, Option.some.injEq, Prod.mk.injEq] at hstep
          rw [← hstep.2] at hx
          cases hx
      | cons d clients =>
          -- The frame of a delta, behind the test of the connection.
          simp only [rosStep, hpc, Option.some.injEq, Prod.mk.injEq] at hstep
          rw [← hstep.2] at hx
          split at hx
          · exact (sendFrame_open hx).2
          · cases hx
  | complete m seq estop =>
      -- What is observed here is no frame.
      simp only [rosStep, hpc, Option.some.injEq, Prod.mk.injEq] at hstep
      rw [← hstep.2] at hx
      cases List.mem_singleton.mp hx
  | result m =>
      simp only [rosStep, hpc, rosGoto, Option.some.injEq] at hstep
      split at hstep <;> (rw [← (Prod.mk.inj hstep).2] at hx; cases hx)
  | deliver m seq =>
      simp only [rosStep, hpc, rosGoto, Option.some.injEq] at hstep
      split at hstep <;> (rw [← (Prod.mk.inj hstep).2] at hx; cases hx)
  | _ =>
      simp only [rosStep, hpc, rosGoto, Option.some.injEq, Prod.mk.injEq] at hstep
      rw [← hstep.2] at hx
      cases hx

/-- A frame goes to a client whose `fd` is open, and a receive thread sends to its own client. -/
theorem step_sends (hstep : s.step C e = some (t, o)) {c : Nat} {f : Frame} (hx : .sent c f ∈ o) :
    (s.clients c).fdOpen = true ∧ ∀ d, (WatchEvent.sys e).thread? = some (.rx d) → c = d := by
  cases step_effect hstep with
  | rx d nowMs op rest t o htodo _ =>
      have hrx : s.rxOp d nowMs rest op = (t, o) := by
        simpa only [step, htodo, Option.some.injEq] using hstep
      -- A receiving thread sends to its own client, behind the test of the connection.
      have hsent : c = d ∧ (s.clients c).fdOpen = true := by
        rw [show o = (s.rxOp d nowMs rest op).2 by rw [hrx]] at hx
        cases op with
        | helloAck seq ok => exact sendFrame_open hx
        | snapshot => exact sendFrame_open hx
        | heartbeat seq => exact sendFrame_open hx
        | urgent u k =>
            cases u with
            | publish => cases List.mem_singleton.mp hx
            | _ => cases hx
        | _ => cases hx
      refine ⟨hsent.2, fun d' hd => ?_⟩
      cases hd
      exact hsent.1
  | worker nowMs steady t o heffect =>
      refine ⟨?_, fun d hd => by cases hd⟩
      cases heffect with
      | publish j hpc => cases List.mem_singleton.mp hx
      | refuse j reason o hpc ho =>
          rcases ho with rfl | rfl
          · cases hx
          · cases List.mem_singleton.mp hx
      | giveUp j reason hpc => cases List.mem_singleton.mp hx
      | take j deadline p hpc hpending hdone => cases List.mem_singleton.mp hx
      | ack j text hpc => exact (sendFrame_open hx).2
      | _ => cases hx
  | ros nowMs t o _ => exact ⟨rosStep_open hstep hx, fun d hd => by cases hd⟩
  | robotCmd nowMs j topic node out htopic hnode => cases List.mem_singleton.mp hx
  | _ => cases hx

end Sys

/-- The frame that a step of `Watch` sends, and its client. -/
def WatchObs.sent? : WatchObs → Option (Nat × Frame)
  | .sys (.sent c f) => some (c, f)
  | .beat (.sent c f) => some (c, f)
  | _ => none

/-- A post is a frame that was sent, with its thread. -/
theorem WatchObs.post?_eq (t : Thread) (o : WatchObs) :
    o.post? t = o.sent?.map fun x => { thread := t, client := x.1, frame := x.2 } := by
  cases o with
  | sys o => cases o <;> rfl
  | beat o => cases o <;> rfl
  | shutdown c now => rfl

/-- A frame that waits to be written was sent in the step that made it a post. -/
theorem WatchEvent.mem_posts {e : WatchEvent} {out : List WatchObs} {p : Post}
    (hp : p ∈ e.posts out) :
    e.thread? = some p.thread ∧ ∃ o ∈ out, o.sent? = some (p.client, p.frame) := by
  unfold WatchEvent.posts at hp
  split at hp
  · rename_i t ht
    obtain ⟨o, ho, hpost⟩ := List.mem_filterMap.mp hp
    rw [WatchObs.post?_eq, Option.map_eq_some_iff] at hpost
    obtain ⟨x, hx, rfl⟩ := hpost
    exact ⟨ht, o, ho, hx⟩
  · cases hp

namespace Watch

variable {F : Type} [CDouble F] {C : Type} [CFloat C] {s t : Watch F} {x : UInt64 × WatchEvent}
  {out : List WatchObs}

/-- The watchdog sends heartbeats only, to clients whose `fd` is open. -/
theorem watchdogStep_sends {c : Nat} {f : Frame} {o : WatchObs} (ho : o ∈ (watchdogStep s).2)
    (hsent : o.sent? = some (c, f)) : (s.sys.clients c).fdOpen = true ∧ f.type = msgHeartbeat := by
  unfold watchdogStep at ho
  split at ho
  case h_4 now d rest todo hpass =>
      dsimp only at ho
      split at ho
      · obtain ⟨b, hb, rfl⟩ := List.mem_map.mp ho
        have heq := Sys.sendFrame_sent hb
        subst heq
        cases hsent
        exact ⟨(Sys.sendFrame_open hb).2, rfl⟩
      · cases ho
  case h_2 now hpass =>
      dsimp only at ho
      split at ho <;> cases ho
  case h_9 now d ref readMs greeted todo hpass =>
      dsimp only at ho
      split at ho
      · rw [List.mem_singleton.mp ho] at hsent
        cases hsent
      · cases ho
  all_goals cases ho

/-- A frame goes to a client whose `fd` is open, a receive thread sends to its own client, and the
watchdog sends heartbeats. -/
theorem step_sends (hstep : s.step C x = some (t, out)) {c : Nat} {f : Frame} {o : WatchObs}
    (ho : o ∈ out) (hsent : o.sent? = some (c, f)) :
    (s.sys.clients c).fdOpen = true ∧ (∀ d, x.2.thread? = some (.rx d) → c = d) ∧
      (x.2 = .watchdog → f.type = msgHeartbeat) := by
  simp only [step] at hstep
  split at hstep
  · split at hstep
    · rename_i he
      have hout : out = (watchdogStep { s with clock := x.1 }).2 :=
        (congrArg Prod.snd (Option.some.inj hstep)).symm
      rw [hout] at ho
      obtain ⟨hopen, htype⟩ := watchdogStep_sends ho hsent
      refine ⟨hopen, fun d hd => ?_, fun _ => htype⟩
      rw [he] at hd
      cases hd
    · rename_i e he
      split at hstep
      · cases hstep
      · rename_i sys o' hsys
        cases hstep
        obtain ⟨b, hb, rfl⟩ := List.mem_map.mp ho
        cases b with
        | sent d g =>
            cases hsent
            obtain ⟨hopen, hown⟩ := Sys.step_sends hsys hb
            rw [he]
            exact ⟨hopen, hown, fun h => (by cases h)⟩
        | _ => cases hsent
  · cases hstep

/-- A step is a step of `Sys`, or one of the watchdog, which leaves it alone. -/
theorem step_sys (hstep : s.step C x = some (t, out)) :
    x.2 = .watchdog ∧ t.sys = s.sys ∨
      ∃ e o, x.2 = .sys e ∧ s.sys.step C e = some (t.sys, o) ∧ out = o.map .sys := by
  obtain ⟨-, hcases⟩ := step_cases hstep
  cases hcases with
  | other e sys o he hsys => exact Or.inr ⟨e, o, he, hsys, rfl⟩
  | turn he hturn => exact Or.inl ⟨he, hturn.frame.1⟩

end Watch

namespace Net

variable {F : Type} [CDouble F] {C : Type} [CFloat C] {n m : Net F} {e : NetEvent}
  {o : List NetObs} {allow : Net F → NetEvent → Prop} {h : History} {c : Nat}

/-! ### One step -/

/-- What a step does. -/
inductive Step (C : Type) [CFloat C] (n : Net F) : NetEvent → Net F → List NetObs → Prop
  | accept (now : UInt64) (fd : Nat) (watch : Watch F) (out : List WatchObs)
      (hfree : n.owner fd = none)
      (hwatch : n.watch.step C (now, .sys .accept) = some (watch, out)) :
      Step C n (.accept now fd)
        { n with
          watch := watch
          number := Function.update n.number n.watch.sys.accepted fd
          owner := Function.update n.owner fd (some n.watch.sys.accepted) }
        (out.map .watch)
  | move (now : UInt64) (e : WatchEvent) (watch : Watch F) (out : List WatchObs)
      (hnot : e ≠ .sys .accept) (hfree : n.free e = true)
      (hwatch : n.watch.step C (now, e) = some (watch, out)) :
      Step C n (.move now e) { n with watch := watch, posts := n.posts ++ e.posts out }
        (out.map .watch ++ out.filterMap n.shut?)
  /-- The number belongs to no connection. -/
  | lost (i : Nat) (ok : Bool) (p : Post) (hp : n.posts[i]? = some p)
      (hconn : n.conn p.client = none) :
      Step C n (.write i ok) { n with posts := n.posts.eraseIdx i } []
  | wrote (i : Nat) (p : Post) (d : Nat) (hp : n.posts[i]? = some p)
      (hconn : n.conn p.client = some d) :
      Step C n (.write i true) { n with posts := n.posts.eraseIdx i }
        [.wrote p.client d p.frame]
  | failed (i : Nat) (p : Post) (d : Nat) (hp : n.posts[i]? = some p)
      (hconn : n.conn p.client = some d) :
      Step C n (.write i false)
        { n with posts := n.posts.eraseIdx i, broken := Function.update n.broken d true }
        [.failed p.client d]
  | release (c : Nat) (hclosed : (n.watch.sys.clients c).fdOpen = false)
      (hconn : n.conn c = some c) :
      Step C n (.release c) { n with owner := Function.update n.owner (n.number c) none } []

/-- What one step of the network can be. -/
theorem step_cases (hstep : n.step C e = some (m, o)) : Step C n e m o := by
  cases e with
  | accept now fd =>
      simp only [step, acceptStep] at hstep
      split at hstep
      · rename_i watch out hfree hwatch
        cases hstep
        exact .accept now fd watch out hfree hwatch
      · cases hstep
  | move now e =>
      simp only [step, moveStep] at hstep
      split at hstep
      · cases hstep
      · rename_i watch out hnot hfree hwatch
        cases hstep
        exact .move now _ watch out hnot hfree hwatch
      · cases hstep
  | write i ok =>
      -- The connection that gets the frame is the owner of the number by now.
      simp only [step, writeStep] at hstep
      split at hstep
      · cases hstep
      · rename_i p hp
        split at hstep
        · rename_i hconn
          cases hstep
          exact .lost i ok p hp hconn
        · rename_i d hconn
          cases ok with
          | true =>
              cases hstep
              exact .wrote i p d hp hconn
          | false =>
              cases hstep
              exact .failed i p d hp hconn
  | release c =>
      simp only [step, releaseStep] at hstep
      split at hstep
      · rename_i hclosed
        cases hstep
        exact .release c hclosed.1 hclosed.2
      · cases hstep

/-! ### The systems below -/

/-- The observations of the server among those of the network. -/
theorem filterMap_watch (out : List WatchObs) (shuts : List NetObs)
    (hshuts : ∀ x ∈ shuts, x.watch? = none) :
    (out.map NetObs.watch ++ shuts).filterMap NetObs.watch? = out := by
  have hwatch : NetObs.watch? ∘ NetObs.watch = some := rfl
  rw [List.filterMap_append, List.filterMap_map, hwatch, List.filterMap_some,
    List.filterMap_eq_nil_iff.mpr hshuts, List.append_nil]

/-- The shutdowns in a step, and the connections that they meet. -/
theorem mem_shuts {out : List WatchObs} {x : NetObs} (hx : x ∈ out.filterMap n.shut?) :
    ∃ c d now, .shutdown c now ∈ out ∧ n.conn c = some d ∧ x = .shut d now := by
  obtain ⟨o, hout, ho⟩ := List.mem_filterMap.mp hx
  cases o with
  | shutdown c now =>
      obtain ⟨d, hconn, rfl⟩ := Option.map_eq_some_iff.mp ho
      exact ⟨c, d, now, hout, hconn, rfl⟩
  | sys o => cases ho
  | beat o => cases ho

/-- A posted shutdown is no observation of the server. -/
theorem shuts_watch (n : Net F) (out : List WatchObs) :
    ∀ x ∈ out.filterMap n.shut?, x.watch? = none := by
  intro x hx
  obtain ⟨c, d, now, -, -, rfl⟩ := mem_shuts hx
  rfl

/-- A step is a step of `Watch`, or leaves it alone. -/
theorem step_watch (hstep : n.step C e = some (m, o)) :
    e.watch? = none ∧ m.watch = n.watch ∨
      ∃ x, e.watch? = some x ∧
        n.watch.step C x = some (m.watch, o.filterMap NetObs.watch?) := by
  cases step_cases hstep with
  | accept now fd watch out hfree hwatch =>
      refine Or.inr ⟨_, rfl, ?_⟩
      have hout := filterMap_watch out [] (fun _ hx => absurd hx List.not_mem_nil)
      rw [List.append_nil] at hout
      rw [hout]
      exact hwatch
  | move now e watch out hnot hfree hwatch =>
      refine Or.inr ⟨_, rfl, ?_⟩
      rw [filterMap_watch out _ (shuts_watch n out)]
      exact hwatch
  | _ => exact Or.inl ⟨rfl, rfl⟩

/-- A run is a run of `Watch`. -/
theorem Runs.watch {allow' : Watch F → UInt64 × WatchEvent → Prop} (hrun : Runs C allow h n)
    (hallow : ∀ n e, allow n e → onWatch allow' n e) :
    Watch.Runs C allow' (watchHistory h) n.watch := by
  refine Run.project (s := (init : Net F)) Net.watch _ hrun fun n e m o hguard hstep => ?_
  rcases step_watch hstep with ⟨hnone, hsame⟩ | ⟨x, hx, hwatch⟩
  · exact Or.inl ⟨by rw [hnone]; rfl, hsame⟩
  · have hx' := hallow n e hguard
    rw [onWatch, hx] at hx'
    exact Or.inr ⟨x, _, by rw [hx]; rfl, hx', hwatch⟩

/-- The same for the server without its watchdog. -/
theorem filterMap_sys (out : List Obs) (n : Net F) :
    ((out.map WatchObs.sys).map NetObs.watch ++ (out.map WatchObs.sys).filterMap n.shut?).filterMap
      NetObs.sys? = out := by
  have hsys : (NetObs.sys? ∘ NetObs.watch) ∘ WatchObs.sys = some := rfl
  have hshut : n.shut? ∘ WatchObs.sys = fun _ => none := rfl
  rw [List.filterMap_append, List.filterMap_map, List.filterMap_map, hsys, List.filterMap_some,
    List.filterMap_map, hshut, List.filterMap_none, List.filterMap_nil, List.append_nil]

/-- A step is a step of `Sys`, or leaves it alone. -/
theorem step_sys (hstep : n.step C e = some (m, o)) :
    e.sys? = none ∧ m.watch.sys = n.watch.sys ∨
      ∃ x, e.sys? = some x ∧
        n.watch.sys.step C x = some (m.watch.sys, o.filterMap NetObs.sys?) := by
  cases step_cases hstep with
  | accept now fd watch out hfree hwatch =>
      obtain ⟨he, -⟩ | ⟨x, o, he, hsys, rfl⟩ := Watch.step_sys hwatch
      · cases he
      · cases he
        have hout := filterMap_sys o n
        have hshut : n.shut? ∘ WatchObs.sys = fun _ => none := rfl
        rw [List.filterMap_map (g := n.shut?), hshut, List.filterMap_none, List.append_nil] at hout
        rw [hout]
        exact Or.inr ⟨.accept, rfl, hsys⟩
  | move now e watch out hnot hfree hwatch =>
      obtain ⟨rfl, hsame⟩ | ⟨x, o, rfl, hsys, rfl⟩ := Watch.step_sys hwatch
      · exact Or.inl ⟨rfl, hsame⟩
      · rw [filterMap_sys o n]
        exact Or.inr ⟨x, rfl, hsys⟩
  | _ => exact Or.inl ⟨rfl, rfl⟩

/-- A run is a run of `Sys`. -/
theorem Runs.sys {allow' : Sys F → Event → Prop} (hrun : Runs C allow h n)
    (hallow : ∀ n e, allow n e → onSys allow' n e) :
    Sys.Runs C allow' (sysHistory h) n.watch.sys := by
  refine Run.project (s := (init : Net F)) (fun n => n.watch.sys) _ hrun
    fun n e m o hguard hstep => ?_
  rcases step_sys hstep with ⟨hnone, hsame⟩ | ⟨x, hx, hsys⟩
  · exact Or.inl ⟨by rw [hnone]; rfl, hsame⟩
  · have hx' := hallow n e hguard
    rw [onSys, hx] at hx'
    exact Or.inr ⟨x, _, by rw [hx]; rfl, hx', hsys⟩

/-- The same without a guard. -/
theorem Runs.sys_any (hrun : Runs C allow h n) :
    Sys.Runs C anyStep (sysHistory h) n.watch.sys := by
  refine Runs.sys hrun fun n e _ => ?_
  unfold onSys
  split <;> trivial

/-! ### Who holds which number -/

/-- A number that belongs to a connection is the one that its client holds. A client whose `fd` is
open holds the number of its own connection. What waits to be written is for a client that has
come, and a receive thread writes to its own client. -/
structure Holds (n : Net F) : Prop where
  owner : ∀ x c, n.owner x = some c → n.number c = x ∧ c < n.watch.sys.accepted
  conn : ∀ c, (n.watch.sys.clients c).fdOpen = true → n.conn c = some c
  posts : ∀ p ∈ n.posts, p.client < n.watch.sys.accepted ∧ ∀ c, p.thread = .rx c → p.client = c

/-- Accepting a client counts it. -/
theorem accept_sys {now : UInt64} {watch : Watch F} {out : List WatchObs}
    (hwatch : n.watch.step C (now, .sys .accept) = some (watch, out)) :
    watch.sys.accepted = n.watch.sys.accepted + 1 ∧
      n.watch.sys.step C .accept = some (watch.sys, []) := by
  obtain ⟨he, -⟩ | ⟨x, o, he, hsys, -⟩ := Watch.step_sys hwatch
  · cases he
  · cases he
    have hsys' := hsys
    simp only [Sys.step, Option.some.injEq, Prod.mk.injEq] at hsys'
    obtain ⟨hsame, rfl⟩ := hsys'
    exact ⟨hsame ▸ rfl, hsys⟩

/-- A step other than `accept` opens no `fd`. -/
theorem move_open {now : UInt64} {x : WatchEvent} {watch : Watch F} {out : List WatchObs}
    (hnot : x ≠ .sys .accept) (hwatch : n.watch.step C (now, x) = some (watch, out)) :
    n.watch.sys.accepted ≤ watch.sys.accepted ∧
      ∀ c, (watch.sys.clients c).fdOpen = true → (n.watch.sys.clients c).fdOpen = true := by
  obtain ⟨-, hsame⟩ | ⟨e, o, rfl, hsys, -⟩ := Watch.step_sys hwatch
  · rw [hsame]
    exact ⟨Nat.le_refl _, fun c hc => hc⟩
  · obtain ⟨hle, hopen⟩ := Sys.step_open hsys
    refine ⟨hle, fun c hc => ?_⟩
    rcases hopen c hc with hold | ⟨-, -, rfl⟩
    · exact hold
    · exact absurd rfl hnot

/-- A step that makes a post: the thread moves that will write it, and the client's `fd` is open. -/
theorem move_posts {now : UInt64} {x : WatchEvent} {watch : Watch F} {out : List WatchObs}
    (hwatch : n.watch.step C (now, x) = some (watch, out)) {p : Post} (hp : p ∈ x.posts out) :
    (n.watch.sys.clients p.client).fdOpen = true ∧ ∀ c, p.thread = .rx c → p.client = c := by
  obtain ⟨hthread, o, ho, hsent⟩ := WatchEvent.mem_posts hp
  obtain ⟨hopen, hown, -⟩ := Watch.step_sends hwatch ho hsent
  exact ⟨hopen, fun c hc => hown c (hc ▸ hthread)⟩

/-- The invariant of the posts holds at the start. -/
theorem holds_init : Holds (init : Net F) :=
  ⟨fun _ _ h => (by cases h), fun _ h => (by cases h), fun _ h => (by cases h)⟩

/-- Every step keeps it. -/
theorem Holds.step (hn : Holds n) (hstep : n.step C e = some (m, o)) : Holds m := by
  have herase : ∀ i, ∀ p ∈ n.posts.eraseIdx i,
      p.client < n.watch.sys.accepted ∧ ∀ c, p.thread = .rx c → p.client = c :=
    fun i p hp => hn.posts p (List.mem_of_mem_eraseIdx hp)
  cases step_cases hstep with
  | accept now fd watch out hfree hwatch =>
      -- The new client gets a number that nobody owns.
      obtain ⟨haccepted, hsys⟩ := accept_sys hwatch
      have hle : n.watch.sys.accepted ≤ watch.sys.accepted := by omega
      have hnew : Function.update n.number n.watch.sys.accepted fd n.watch.sys.accepted = fd :=
        Function.update_self _ _ _
      have hold : ∀ c, c < n.watch.sys.accepted →
          Function.update n.number n.watch.sys.accepted fd c = n.number c :=
        fun c hc => Function.update_of_ne (Nat.ne_of_lt hc) _ _
      refine ⟨fun x c hx => ?_, fun c hc => ?_, fun p hp => ?_⟩
      · show Function.update n.number n.watch.sys.accepted fd c = x ∧ c < watch.sys.accepted
        change Function.update n.owner fd (some n.watch.sys.accepted) x = some c at hx
        by_cases hfd : x = fd
        · subst hfd
          rw [Function.update_self] at hx
          cases hx
          exact ⟨hnew, by omega⟩
        · rw [Function.update_of_ne hfd] at hx
          obtain ⟨hnumber, hlt⟩ := hn.owner x c hx
          exact ⟨(hold c hlt).trans hnumber, by omega⟩
      · show Function.update n.owner fd (some n.watch.sys.accepted)
          (Function.update n.number n.watch.sys.accepted fd c) = some c
        rcases (Sys.step_open hsys).2 c hc with hopen | ⟨rfl, -, -⟩
        · have hconn := hn.conn c hopen
          rw [hold c (hn.owner _ c hconn).2, Function.update_of_ne]
          · exact hconn
          · intro hfd
            rw [Net.conn, hfd, hfree] at hconn
            cases hconn
        · rw [hnew, Function.update_self]
      · obtain ⟨hlt, hown⟩ := hn.posts p hp
        exact ⟨Nat.lt_of_lt_of_le hlt hle, hown⟩
  | move now x watch out hnot hfree hwatch =>
      -- The numbers stay; what is posted goes to a client whose number is its own.
      obtain ⟨hle, hopen⟩ := move_open hnot hwatch
      refine ⟨fun y c hy => ?_, fun c hc => hn.conn c (hopen c hc), fun p hp => ?_⟩
      · obtain ⟨hnumber, hlt⟩ := hn.owner y c hy
        exact ⟨hnumber, Nat.lt_of_lt_of_le hlt hle⟩
      · rcases List.mem_append.mp hp with hp | hp
        · obtain ⟨hlt, hown⟩ := hn.posts p hp
          exact ⟨Nat.lt_of_lt_of_le hlt hle, hown⟩
        · obtain ⟨hpost, hown⟩ := move_posts hwatch hp
          exact ⟨Nat.lt_of_lt_of_le (hn.owner _ _ (hn.conn _ hpost)).2 hle, hown⟩
  | lost i ok p hp hconn => exact ⟨hn.owner, hn.conn, herase i⟩
  | wrote i p d hp hconn => exact ⟨hn.owner, hn.conn, herase i⟩
  | failed i p d hp hconn => exact ⟨hn.owner, hn.conn, herase i⟩
  | release c hclosed hconn =>
      -- A number is given back only when the client it belongs to has been closed.
      refine ⟨fun x d hx => ?_, fun d hd => ?_, hn.posts⟩
      · change Function.update n.owner (n.number c) none x = some d at hx
        by_cases hnumber : x = n.number c
        · rw [hnumber, Function.update_self] at hx
          cases hx
        · rw [Function.update_of_ne hnumber] at hx
          exact hn.owner x d hx
      · show Function.update n.owner (n.number c) none (n.number d) = some d
        have hd' := hn.conn d hd
        rw [Function.update_of_ne]
        · exact hd'
        · -- The number is the one of `d`, whose `fd` is open.
          intro hnumber
          rw [Net.conn, hnumber] at hd'
          obtain rfl : c = d := Option.some.inj (hconn.symm.trans hd')
          rw [hclosed] at hd
          cases hd

/-- So it holds in every run. -/
theorem Runs.holds (hrun : Runs C allow h n) : Holds n :=
  hrun.invariant holds_init fun _ _ _ _ hn _ hstep => hn.step hstep

/-! ### What is written was sent -/

/-- The frames on a connection, one event longer. -/
theorem framesOn_snoc (c : Nat) (h : History) (e : NetEvent) (o : List NetObs) :
    framesOn c (h ++ [(e, o)]) = framesOn c h ++ o.filterMap (NetObs.frameOn? c) := by
  simp [framesOn]

/-- A thread that moves puts nothing on a connection. -/
theorem filterMap_frameOn (n : Net F) (out out' : List WatchObs) (c : Nat) :
    (out.map NetObs.watch ++ out'.filterMap n.shut?).filterMap (NetObs.frameOn? c) = [] := by
  refine List.filterMap_eq_nil_iff.mpr fun x hx => ?_
  rcases List.mem_append.mp hx with hx | hx
  · obtain ⟨o, -, rfl⟩ := List.mem_map.mp hx
    rfl
  · obtain ⟨c', d, now, -, -, rfl⟩ := mem_shuts hx
    rfl

/-- What the step of `Sys` in a step shows. -/
def sysShown (e : NetEvent) (o : List NetObs) : List Obs :=
  match e.sys? with
  | some _ => o.filterMap NetObs.sys?
  | none => []

/-- A thread of `Sys` shows what it did, and nothing else. -/
theorem sysShown_move (n : Net F) (now : UInt64) (e : Event) (o : List Obs) :
    sysShown (.move now (.sys e)) ((o.map WatchObs.sys).map .watch ++
      (o.map WatchObs.sys).filterMap n.shut?) = o :=
  filterMap_sys o n

/-- What the server has shown, one event longer. -/
theorem shown_sysHistory_snoc (h : History) (e : NetEvent) (o : List NetObs) :
    shown (sysHistory (h ++ [(e, o)])) = shown (sysHistory h) ++ sysShown e o := by
  unfold sysHistory sysShown
  rw [List.filterMap_append]
  cases he : e.sys? <;> simp [shown, he]

/-- What a thread of `Sys` makes a post was sent. -/
theorem countP_posts_sys (e : Event) (o : List Obs) (c : Nat) (q : Frame → Bool) :
    ((WatchEvent.sys e).posts (o.map .sys)).countP (fun p => decide (p.client = c) && q p.frame) ≤
      (framesTo c o).countP q := by
  unfold WatchEvent.posts framesTo
  split
  · rename_i t _
    rw [List.filterMap_map, List.countP_filterMap, List.countP_filterMap]
    refine Nat.le_of_eq (List.countP_congr fun x _ => ?_)
    cases x with
    | sent d f => by_cases hd : d = c <;> simp [WatchObs.post?, hd]
    | _ => simp [WatchObs.post?]
  · exact Nat.zero_le _

/-- What the watchdog makes a post is a heartbeat. -/
theorem posts_watchdog {now : UInt64} {watch : Watch F} {out : List WatchObs}
    (hwatch : n.watch.step C (now, .watchdog) = some (watch, out)) {p : Post}
    (hp : p ∈ WatchEvent.watchdog.posts out) : p.frame.type = msgHeartbeat := by
  obtain ⟨-, o, ho, hsent⟩ := WatchEvent.mem_posts hp
  exact (Watch.step_sends hwatch ho hsent).2.2 rfl

/-- What a step makes a post, it sends, or it is a heartbeat. -/
theorem countP_posts_le {now : UInt64} {x : WatchEvent} {watch : Watch F} {out : List WatchObs}
    (hwatch : n.watch.step C (now, x) = some (watch, out)) (c : Nat) {q : Frame → Bool}
    (hq : ∀ f : Frame, f.type = msgHeartbeat → q f = false) :
    (x.posts out).countP (fun p => decide (p.client = c) && q p.frame) ≤
      (framesTo c (sysShown (.move now x) (out.map .watch ++ out.filterMap n.shut?))).countP q := by
  obtain ⟨rfl, -⟩ | ⟨e, o, rfl, -, rfl⟩ := Watch.step_sys hwatch
  · refine Nat.le_trans (Nat.le_of_eq (List.countP_eq_zero.mpr fun p hp => ?_)) (Nat.zero_le _)
    simp [hq p.frame (posts_watchdog hwatch hp)]
  · rw [sysShown_move]
    exact countP_posts_sys e o c q

/-- A frame that waits is one of the posts. -/
theorem countP_posts_erase {i : Nat} {p : Post} (hp : n.posts[i]? = some p) (r : Post → Bool) :
    n.posts.countP r = (n.posts.eraseIdx i).countP r + if r p = true then 1 else 0 := by
  obtain ⟨hi, rfl⟩ := List.getElem?_eq_some_iff.mp hp
  rw [← (List.getElem_cons_eraseIdx_perm hi).countP_eq r, List.countP_cons]

/-- The number of a client leads to its own connection, or to none. -/
theorem conn_own {c d : Nat} (hown : n.leadsAstray c = false) (hconn : n.conn c = some d) :
    d = c := by
  simpa [leadsAstray, hconn] using hown

/-- Where a post is written that does not go astray. -/
theorem wrote_own {i : Nat} {ok : Bool} {p : Post} {d : Nat}
    (hown : n.writesAstray (.write i ok) = false) (hp : n.posts[i]? = some p)
    (hconn : n.conn p.client = some d) : d = p.client := by
  refine conn_own (n := n) ?_ hconn
  simpa [writesAstray, hp] using hown

/-- **A frame is written once.** In every run in which no frame goes astray, no more frames of a
kind come on a connection than the threads have sent to its client, and the ones that still wait
count too. Only the heartbeats of the watchdog are left out. -/
theorem Runs.countP_framesOn_le (hrun : Runs C (fun n e => n.writesAstray e = false) h n) (c : Nat)
    {q : Frame → Bool} (hq : ∀ f : Frame, f.type = msgHeartbeat → q f = false) :
    (framesOn c h).countP q + n.posts.countP (fun p => decide (p.client = c) && q p.frame) ≤
      (framesTo c (shown (sysHistory h))).countP q := by
  induction hrun with
  | nil => exact Nat.le_refl 0
  | @snoc h n m e o _ hown hstep ih =>
      rw [framesOn_snoc, shown_sysHistory_snoc, framesTo_append, List.countP_append,
        List.countP_append]
      cases step_cases hstep with
      | accept now fd watch out hfree hwatch =>
          have hnone := filterMap_frameOn n out [] c
          rw [List.filterMap_nil, List.append_nil] at hnone
          rw [hnone]
          exact Nat.le_trans ih (Nat.le_add_right _ _)
      | move now x watch out hnot hfree hwatch =>
          -- What is posted is among the frames the server has shown.
          have hposts := countP_posts_le hwatch c hq
          rw [filterMap_frameOn, List.countP_append]
          show _ + 0 + (_ + _) ≤ _
          omega
      | lost i ok p hp hconn =>
          have herase := countP_posts_erase hp fun p => decide (p.client = c) && q p.frame
          show _ + 0 + (n.posts.eraseIdx i).countP _ ≤ _
          omega
      | wrote i p d hp hconn =>
          -- A write takes the post and puts its frame on the connection.
          obtain rfl := wrote_own hown hp hconn
          have herase := countP_posts_erase hp fun p => decide (p.client = c) && q p.frame
          have hframe : ([NetObs.wrote p.client p.client p.frame].filterMap
              (NetObs.frameOn? c)).countP q =
                if (decide (p.client = c) && q p.frame) = true then 1 else 0 := by
            by_cases hc : p.client = c <;> simp [NetObs.frameOn?, hc, List.countP_cons]
          rw [hframe]
          show _ + _ + (n.posts.eraseIdx i).countP _ ≤ _
          omega
      | failed i p d hp hconn =>
          have herase := countP_posts_erase hp fun p => decide (p.client = c) && q p.frame
          show _ + 0 + (n.posts.eraseIdx i).countP _ ≤ _
          omega
      | release c' hclosed hconn => exact Nat.le_trans ih (Nat.le_add_right _ _)

/-- What a step makes a post, it sends, or it is a heartbeat. -/
theorem mem_sysShown {now : UInt64} {x : WatchEvent} {watch : Watch F} {out : List WatchObs}
    (hwatch : n.watch.step C (now, x) = some (watch, out)) {p : Post} (hp : p ∈ x.posts out)
    (htype : p.frame.type ≠ msgHeartbeat) :
    .sent p.client p.frame ∈ sysShown (.move now x) (out.map .watch ++ out.filterMap n.shut?) := by
  obtain ⟨rfl, -⟩ | ⟨e, o, rfl, -, rfl⟩ := Watch.step_sys hwatch
  · exact absurd (posts_watchdog hwatch hp) htype
  · rw [sysShown_move]
    obtain ⟨-, y, hy, hsent⟩ := WatchEvent.mem_posts hp
    obtain ⟨b, hb, rfl⟩ := List.mem_map.mp hy
    cases b with
    | sent d f =>
        cases hsent
        exact hb
    | _ => cases hsent

/-- What waits to be written has waited before, or it is sent now, to a client whose `fd` is
open. -/
theorem step_waits (hstep : n.step C e = some (m, o)) {p : Post} (hp : p ∈ m.posts) :
    p ∈ n.posts ∨ (n.watch.sys.clients p.client).fdOpen = true ∧
      (p.frame.type = msgHeartbeat ∨ .sent p.client p.frame ∈ sysShown e o) := by
  cases step_cases hstep with
  | move now x watch out hnot hfree hwatch =>
      rcases List.mem_append.mp hp with hp | hp
      · exact Or.inl hp
      · refine Or.inr ⟨(move_posts hwatch hp).1, ?_⟩
        by_cases htype : p.frame.type = msgHeartbeat
        · exact Or.inl htype
        · exact Or.inr (mem_sysShown hwatch hp htype)
  | lost i ok q hq hconn => exact Or.inl (List.mem_of_mem_eraseIdx hp)
  | wrote i q d hq hconn => exact Or.inl (List.mem_of_mem_eraseIdx hp)
  | failed i q d hq hconn => exact Or.inl (List.mem_of_mem_eraseIdx hp)
  | accept now fd watch out hfree hwatch => exact Or.inl hp
  | release c hclosed hconn => exact Or.inl hp

/-- What waits to be written was sent, or it is a heartbeat. -/
theorem Runs.posts_sent (hrun : Runs C allow h n) {p : Post} (hp : p ∈ n.posts)
    (htype : p.frame.type ≠ msgHeartbeat) :
    .sent p.client p.frame ∈ shown (sysHistory h) := by
  induction hrun with
  | nil => cases hp
  | @snoc h n m e o _ _ hstep ih =>
      rw [shown_sysHistory_snoc]
      rcases step_waits hstep hp with hp | ⟨-, hbeat | hsent⟩
      · exact List.mem_append_left _ (ih hp)
      · exact absurd hbeat htype
      · exact List.mem_append_right _ hsent

/-- Steps of `Watch` with connections: every frame is written as soon as it is sent, and no number
is given out twice. -/
def promptly (C : Type) [CFloat C] (n : Net F) : List (UInt64 × WatchEvent) → List NetEvent
  | [] => []
  | (now, x) :: es =>
      let e := match x with
        | .sys .accept => NetEvent.accept now n.watch.sys.accepted
        | x => .move now x
      match n.step C e with
      | none => [e]
      | some (m, _) =>
          match m.step C (.write 0 true) with
          | none => e :: promptly C m es
          | some (k, _) => e :: .write 0 true :: promptly C k es

/-- The events of `Sys` alone. The clock of the watchdog stands still. -/
def quietly (es : List Event) : List (UInt64 × WatchEvent) := es.map fun e => (0, .sys e)

end Net

end BotCockpit.Bridge
