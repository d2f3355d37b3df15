import BotCockpit.Proofs.Bridge.Net
import BotCockpit.Proofs.Bridge.Snapshot

/-!
# `BotCockpit.Proofs.Bridge.FirstState`: the first state frame on a connection

`handle_frame` sends the HELLO_ACK, sets `hello_ok`, and sends the snapshot. The delta broadcaster
sends to every client with `hello_ok`, so it may come between the last two (`delta_first`). Where
the frames arrive in the order of sending depends on the writes as well.

`snapshot_first` is about the runs in which none of this happens. A frame that a receive thread has
sent is on the connection or waits to be written (`Sends`), and while it waits the thread does
nothing else. So what the thread has done says what has arrived (`Greeting`).
-/

set_option autoImplicit false

namespace BotCockpit.Bridge

open BotCockpit.Lib
open BotCockpit.Wire (Frame)

namespace SnapshotFirst

/-- Nothing has been sent. -/
theorem nil : SnapshotFirst [] := ⟨fun _ _ h => (by cases h), fun _ _ h => (by cases h)⟩

/-- The first frame of a kind does not change when one of this kind is there. -/
theorem head_filter {frames : List Frame} {q : Frame → Bool} {P : Frame → Prop} {f : Frame}
    (hold : ∀ g rest, frames.filter q = g :: rest → P g)
    (hnew : q f = true → P f ∨ ∃ g ∈ frames, q g = true) :
    ∀ g rest, (frames ++ [f]).filter q = g :: rest → P g := by
  intro g rest hg
  rw [List.filter_append] at hg
  cases hframes : frames.filter q with
  | cons g' rest' =>
      rw [hframes, List.cons_append] at hg
      exact (List.cons.inj hg).1 ▸ hold g' rest' hframes
  | nil =>
      rw [hframes, List.nil_append] at hg
      obtain ⟨hmem, hq⟩ := List.mem_filter.mp (hg ▸ List.mem_cons_self : g ∈ [f].filter q)
      obtain rfl := List.mem_singleton.mp hmem
      refine (hnew hq).resolve_right ?_
      rintro ⟨g', hmem', hg'⟩
      exact List.filter_eq_nil_iff.mp hframes g' hmem' hg'

/-- `f` may come after `frames`: a state frame comes after the HELLO_ACK, and a delta after a
snapshot. -/
def Follows (frames : List Frame) (f : Frame) : Prop :=
  isState f = true → (∃ g ∈ frames, isWelcome g = true) ∧
    (f.type = msgStateSnapshot ∨ ∃ g ∈ frames, g.type = msgStateSnapshot)

/-- What follows among some frames follows among more. -/
theorem Follows.mono {frames frames' : List Frame} {f : Frame} (hsub : frames ⊆ frames')
    (hf : Follows frames f) : Follows frames' f := by
  intro hstate
  obtain ⟨⟨g, hg, hwelcome⟩, hsnapshot⟩ := hf hstate
  refine ⟨⟨g, hsub hg, hwelcome⟩, hsnapshot.imp_right ?_⟩
  rintro ⟨g', hg', htype⟩
  exact ⟨g', hsub hg', htype⟩

/-- One more frame. -/
theorem snoc {frames : List Frame} {f : Frame} (hs : SnapshotFirst frames)
    (hf : Follows frames f) : SnapshotFirst (frames ++ [f]) := by
  refine ⟨head_filter hs.welcome fun hq => ?_, head_filter hs.snapshot fun hq => ?_⟩
  · cases hw : isWelcome f with
    | true => exact Or.inl rfl
    | false =>
        rw [hw, Bool.or_false] at hq
        obtain ⟨⟨g, hg, hwelcome⟩, -⟩ := hf hq
        exact Or.inr ⟨g, hg, by simp [hwelcome]⟩
  · rcases (hf hq).2 with htype | ⟨g, hg, htype⟩
    · exact Or.inl htype
    · exact Or.inr ⟨g, hg, by simp [isState, htype]⟩

end SnapshotFirst

namespace Net

variable {F : Type} [CDouble F] {C : Type} [CFloat C] {n m : Net F} {e : NetEvent}
  {o : List NetObs} {h : History} {c : Nat} {P : Frame → Prop}

/-! ### What a receive thread has sent -/

/-- The receive thread of `c` has sent such a frame: it has come, or it waits to be written. -/
def Sends (n : Net F) (c : Nat) (written : List Frame) (P : Frame → Prop) : Prop :=
  (∃ f ∈ written, P f) ∨ ∃ p ∈ n.posts, p.thread = .rx c ∧ P p.frame

/-- A post is the one that is taken out, or is left. -/
theorem mem_posts_erase {i : Nat} {p q : Post} (hq : n.posts[i]? = some q) (hp : p ∈ n.posts) :
    p = q ∨ p ∈ n.posts.eraseIdx i := by
  obtain ⟨hi, rfl⟩ := List.getElem?_eq_some_iff.mp hq
  exact List.mem_cons.mp ((List.getElem_cons_eraseIdx_perm hi).mem_iff.mpr hp)

/-- What was sent stays so, unless a write to the connection fails. -/
theorem Sends.step (hn : Holds n) (hstep : n.step C e = some (m, o))
    (hown : n.writesAstray e = false) (hopen : (n.watch.sys.clients c).fdOpen = true)
    (hbroken : m.broken c = false) (hs : Sends n c (framesOn c h) P) :
    Sends m c (framesOn c (h ++ [(e, o)])) P := by
  rw [framesOn_snoc]
  rcases hs with ⟨f, hf, hP⟩ | ⟨p, hp, hthread, hP⟩
  · exact Or.inl ⟨f, List.mem_append_left _ hf, hP⟩
  · -- The post stays, or it is the one that is written now.
    have hclient : p.client = c := (hn.posts p hp).2 c hthread
    cases step_cases hstep with
    | accept now fd watch out hfree hwatch => exact Or.inr ⟨p, hp, hthread, hP⟩
    | move now x watch out hnot hfree hwatch =>
        exact Or.inr ⟨p, List.mem_append_left _ hp, hthread, hP⟩
    | release c' hclosed hconn => exact Or.inr ⟨p, hp, hthread, hP⟩
    | lost i ok q hq hconn =>
        rcases mem_posts_erase hq hp with rfl | hp
        · -- The number of the client belongs to its connection.
          rw [hclient, hn.conn c hopen] at hconn
          cases hconn
        · exact Or.inr ⟨p, hp, hthread, hP⟩
    | wrote i q d hq hconn =>
        rcases mem_posts_erase hq hp with rfl | hp
        · obtain rfl := wrote_own hown hq hconn
          subst hclient
          exact Or.inl ⟨p.frame, by simp [NetObs.frameOn?], hP⟩
        · exact Or.inr ⟨p, hp, hthread, hP⟩
    | failed i q d hq hconn =>
        -- A failed write breaks the connection, and the connection is not broken.
        rcases mem_posts_erase hq hp with rfl | hp
        · obtain rfl := wrote_own hown hq hconn
          subst hclient
          change Function.update n.broken p.client true p.client = false at hbroken
          rw [Function.update_self] at hbroken
          cases hbroken
        · exact Or.inr ⟨p, hp, hthread, hP⟩

/-- While a frame of the thread waits, the thread does nothing else. -/
theorem Sends.arrived {nowMs : UInt64} (hstep : n.step C e = some (m, o))
    (he : e.sys? = some (.rx c nowMs)) (hs : Sends n c (framesOn c h) P) :
    ∃ f ∈ framesOn c h, P f := by
  rcases hs with hs | ⟨p, hp, hthread, -⟩
  · exact hs
  · cases step_cases hstep with
    | move now x watch out hnot hfree hwatch =>
        cases x with
        | watchdog => cases he
        | sys x =>
            cases he
            have hall := List.all_eq_true.mp hfree p hp
            rw [hthread] at hall
            simp at hall
    | _ => cases he

/-- A frame that a step of `Sys` sends is a post of the thread that has moved. -/
theorem step_posts (hstep : n.step C e = some (m, o)) {x : Event} (he : e.sys? = some x)
    {t : Thread} (ht : (WatchEvent.sys x).thread? = some t) {d : Nat} {f : Frame}
    (hf : .sent d f ∈ o.filterMap NetObs.sys?) :
    { thread := t, client := d, frame := f } ∈ m.posts := by
  cases step_cases hstep with
  | accept now fd watch out hfree hwatch =>
      cases he
      cases ht
  | move now y watch out hnot hfree hwatch =>
      cases y with
      | watchdog => cases he
      | sys y =>
          cases he
          obtain ⟨he', -⟩ | ⟨z, o', he', -, rfl⟩ := Watch.step_sys hwatch
          · cases he'
          · rw [filterMap_sys] at hf
            refine List.mem_append_right _ ?_
            unfold WatchEvent.posts
            rw [ht]
            exact List.mem_filterMap.mpr ⟨_, List.mem_map_of_mem hf, rfl⟩
  | _ => cases he

/-! ### What a client has been sent -/

/-- What has been sent to client `c`, whose connection is open and sound. The operation after the
HELLO_ACK comes when the HELLO_ACK has arrived. -/
structure Greeting (c : Nat) (written : List Frame) (n : Net F) : Prop where
  welcomed : (n.watch.sys.clients c).helloOk = true → ∃ f ∈ written, isWelcome f = true
  greeting : (n.watch.sys.clients c).greeting = true →
    Sends n c written fun f => isWelcome f = true
  due : (n.watch.sys.clients c).helloOk = true → (n.watch.sys.clients c).snapshotDue = true ∨
    Sends n c written fun f => f.type = msgStateSnapshot

/-- A notable frame of a step of `Sys` that the receive thread of `c` makes is sent. -/
theorem Sends.of_notable (hstep : n.step C e = some (m, o)) {nowMs : UInt64}
    (he : e.sys? = some (.rx c nowMs)) {written : List Frame}
    (hf : ∃ f ∈ notable c (o.filterMap NetObs.sys?), P f) : Sends m c written P := by
  obtain ⟨f, hf, hP⟩ := hf
  obtain ⟨x, hx, hframe⟩ := List.mem_filterMap.mp (List.mem_of_mem_filter hf)
  split at hframe
  · rename_i d g
    split at hframe
    · rename_i hd
      cases hframe
      subst hd
      exact Or.inr ⟨_, step_posts hstep he rfl hx, rfl, hP⟩
    · cases hframe
  · cases hframe

/-- One step keeps what the greeting promises to a client. -/
theorem Greeting.step (hn : Holds n) {g : List (Event × List Obs)}
    (hrun : Sys.Runs C anyStep g n.watch.sys) (hs : Greeting c (framesOn c h) n)
    (hstep : n.step C e = some (m, o)) (hown : n.writesAstray e = false)
    (hopen : (n.watch.sys.clients c).fdOpen = true) (hbroken : m.broken c = false) :
    Greeting c (framesOn c (h ++ [(e, o)])) m := by
  have hsends : ∀ {P : Frame → Prop}, Sends n c (framesOn c h) P →
      Sends m c (framesOn c (h ++ [(e, o)])) P :=
    fun hs => hs.step hn hstep hown hopen hbroken
  have hold : ∀ {P : Frame → Prop}, (∃ f ∈ framesOn c h, P f) →
      ∃ f ∈ framesOn c (h ++ [(e, o)]), P f := by
    rintro P ⟨f, hf, hP⟩
    rw [framesOn_snoc]
    exact ⟨f, List.mem_append_left _ hf, hP⟩
  rcases step_sys hstep with ⟨-, hsame⟩ | ⟨x, hx, hsys⟩
  · -- The threads of `Sys` do nothing.
    refine ⟨fun hhello => ?_, fun hgreeting => ?_, fun hhello => ?_⟩
    · exact hold (hs.welcomed (hsame ▸ hhello))
    · exact hsends (hs.greeting (hsame ▸ hgreeting))
    · rw [hsame] at hhello ⊢
      exact (hs.due hhello).imp_right hsends
  · refine ⟨fun hhello => ?_, fun hgreeting => ?_, fun hhello => ?_⟩
    · rcases Sys.step_greets hsys hhello with hyes | ⟨nowMs, rest, rfl, htodo⟩
      · exact hold (hs.welcomed hyes)
      · exact hold ((hs.greeting (by simp [Client.greeting, htodo])).arrived hstep hx)
    · cases Sys.step_todo hsys c with
      | same h =>
          rw [Client.greeting, h] at hgreeting
          exact hsends (hs.greeting hgreeting)
      | next nowMs op rest hevent htodo hnext =>
          subst hevent
          have hchain := Sys.Runs.greets_next hrun htodo
          rcases hnext with hnext | ⟨hnext, -, -⟩
          · rw [Client.greeting, hnext] at hgreeting
            cases rest with
            | nil => cases hgreeting
            | cons b rest =>
                rw [List.cons_append, List.isChain_cons_cons] at hchain
                cases b with
                | setHelloOk =>
                    -- The HELLO_ACK is sent now.
                    obtain ⟨seq, rfl⟩ := hchain.1.2 rfl
                    exact Sends.of_notable hstep hx (Sys.notable_helloAck hsys htodo hopen)
                | snapshot =>
                    obtain rfl := hchain.1.1.mpr rfl
                    exact hsends (hs.greeting (by simp [Client.greeting, htodo]))
                | _ => cases hgreeting
          · rw [Client.greeting, hnext] at hgreeting
            cases hgreeting
      | batch frames _ _ _ hnext =>
          rw [Sys.greeting_batch hnext] at hgreeting
          cases hgreeting
    · rcases Sys.step_greets hsys hhello with hyes | ⟨nowMs, rest, rfl, htodo⟩
      · rcases hs.due hyes with hdue | hsent
        · obtain ⟨rest, htodo⟩ := Client.snapshotDue_todo hdue
          cases Sys.step_todo hsys c with
          | same h => exact Or.inl (by rwa [Client.snapshotDue, h])
          | next nowMs op rest' hevent htodo' hnext =>
              -- The snapshot is sent now.
              subst hevent
              obtain ⟨rfl, rfl⟩ := List.cons.inj (htodo.symm.trans htodo')
              exact Or.inr (Sends.of_notable hstep hx (Sys.notable_snapshot hsys htodo hopen))
          | batch frames _ hnil _ _ =>
              rw [htodo] at hnil
              cases hnil
        · exact Or.inr (hsends hsent)
      · exact Or.inl (Sys.snapshotDue_of_accepts hrun hsys htodo)

/-! ### The run -/

/-- A connection that is sound now was sound before. -/
theorem step_broken (hstep : n.step C e = some (m, o)) (hbroken : m.broken c = false) :
    n.broken c = false := by
  cases step_cases hstep with
  | failed i p d hp hconn =>
      by_cases hc : c = d
      · change Function.update n.broken d true c = false at hbroken
        rw [hc, Function.update_self] at hbroken
        cases hbroken
      · exact (Function.update_of_ne hc _ _).symm.trans hbroken
  | _ => exact hbroken

/-- A client that was there before, and whose number leads to its connection, held it before. -/
theorem step_conn (hstep : n.step C e = some (m, o)) (hc : c < n.watch.sys.accepted)
    (hconn : m.conn c = some c) : n.conn c = some c := by
  cases step_cases hstep with
  | accept now fd watch out hfree hwatch =>
      change Function.update n.owner fd (some n.watch.sys.accepted)
        (Function.update n.number n.watch.sys.accepted fd c) = some c at hconn
      rw [Function.update_of_ne (Nat.ne_of_lt hc)] at hconn
      by_cases hfd : n.number c = fd
      · rw [hfd, Function.update_self] at hconn
        exact absurd (Option.some.inj hconn) (Nat.ne_of_gt hc)
      · rwa [Function.update_of_ne hfd] at hconn
  | release d hclosed hheld =>
      change Function.update n.owner (n.number d) none (n.number c) = some c at hconn
      by_cases hnumber : n.number c = n.number d
      · rw [hnumber, Function.update_self] at hconn
        cases hconn
      · rwa [Function.update_of_ne hnumber] at hconn
  | _ => exact hconn

/-- A connection that is open was open before, or it has just come. -/
theorem step_fdOpen (hstep : n.step C e = some (m, o))
    (hopen : (m.watch.sys.clients c).fdOpen = true) :
    (n.watch.sys.clients c).fdOpen = true ∨ c = n.watch.sys.accepted ∧ e.sys? = some .accept := by
  rcases step_sys hstep with ⟨-, hsame⟩ | ⟨x, hx, hsys⟩
  · exact Or.inl (hsame ▸ hopen)
  · rcases (Sys.step_open hsys).2 c hopen with hold | ⟨hc, -, rfl⟩
    · exact Or.inl hold
    · exact Or.inr ⟨hc, hx⟩

/-- A step puts nothing on connection `c`, or one frame that has waited. -/
theorem framesOn_step (hstep : n.step C e = some (m, o)) (h : History) (c : Nat) :
    framesOn c (h ++ [(e, o)]) = framesOn c h ∨
      ∃ i p, e = .write i true ∧ n.posts[i]? = some p ∧ n.conn p.client = some c ∧
        framesOn c (h ++ [(e, o)]) = framesOn c h ++ [p.frame] := by
  rw [framesOn_snoc]
  cases step_cases hstep with
  | accept now fd watch out hfree hwatch =>
      have hnone := filterMap_frameOn n out [] c
      rw [List.filterMap_nil, List.append_nil] at hnone
      exact Or.inl (by rw [hnone, List.append_nil])
  | move now x watch out hnot hfree hwatch =>
      exact Or.inl (by rw [filterMap_frameOn, List.append_nil])
  | wrote i p d hp hconn =>
      by_cases hd : d = c
      · subst hd
        exact Or.inr ⟨i, p, rfl, hp, hconn, by simp [NetObs.frameOn?]⟩
      · exact Or.inl (by simp [NetObs.frameOn?, hd])
  | failed i p d hp hconn => exact Or.inl (List.append_nil _)
  | _ => exact Or.inl (List.append_nil _)

/-- What every connection has got, and what waits to be written, while the threads keep the order of
the state frames. -/
structure InOrder (h : History) (n : Net F) : Prop where
  clients : ∀ c, (n.watch.sys.clients c).fdOpen = true → n.broken c = false →
    Greeting c (framesOn c h) n
  posts : ∀ p ∈ n.posts, n.conn p.client = some p.client → n.broken p.client = false →
    SnapshotFirst.Follows (framesOn p.client h) p.frame
  frames : ∀ c, SnapshotFirst (framesOn c h)

/-- At the start nothing is out of order. -/
theorem inOrder_init : InOrder [] (init : Net F) :=
  ⟨fun _ h _ => (by cases h), fun _ h => (by cases h), fun _ => SnapshotFirst.nil⟩

/-- A state frame that is sent now follows what has arrived, since the delta broadcaster waits. -/
theorem InOrder.sent (hs : InOrder h n) (hstep : n.step C e = some (m, o))
    (hwait : n.DeltaWaits h e) {x : Event} (hx : e.sys? = some x)
    (hsys : n.watch.sys.step C x = some (m.watch.sys, o.filterMap NetObs.sys?))
    (hopen : (n.watch.sys.clients c).fdOpen = true) (hbroken : n.broken c = false) {f : Frame}
    (hf : .sent c f ∈ o.filterMap NetObs.sys?) : SnapshotFirst.Follows (framesOn c h) f := by
  intro hstate
  have hgreeting := hs.clients c hopen hbroken
  have hmem : f ∈ notable c (o.filterMap NetObs.sys?) :=
    List.mem_filter.mpr ⟨List.mem_filterMap.mpr ⟨_, hf, by simp⟩, by simp [hstate]⟩
  have hnotable := Sys.step_notable hsys c
  generalize notable c (o.filterMap NetObs.sys?) = sent at hmem hnotable
  cases hnotable with
  | none => cases hmem
  | welcome g nowMs seq rest he htodo hw hnot =>
      obtain rfl := List.mem_singleton.mp hmem
      rw [hnot] at hstate
      cases hstate
  | snapshot g nowMs rest he htodo _ htype =>
      -- The snapshot comes behind the welcome in the work of the thread.
      obtain rfl := List.mem_singleton.mp hmem
      subst he
      exact ⟨(hgreeting.greeting (by simp [Client.greeting, htodo])).arrived hstep hx,
        Or.inl htype⟩
  | delta g nowMs body clients he hros hgreeted htype =>
      -- The delta goes to a client that was greeted, so its snapshot is due, on its way, or there.
      have hhello : (n.watch.sys.clients c).helloOk = true := by
        rw [Sys.greeted, Bool.and_eq_true] at hgreeted
        exact hgreeted.1
      refine ⟨hgreeting.welcomed hhello, Or.inr ?_⟩
      subst he
      have hdelta : n.snapshotDue c → ∃ f ∈ framesOn c h, f.type = msgStateSnapshot := by
        cases e with
        | move now y =>
            cases y with
            | watchdog => cases hx
            | sys y =>
                cases hx
                simp only [DeltaWaits, hros] at hwait
                exact hwait hgreeted
        | _ => cases hx
      rcases hgreeting.due hhello with hdue | harrived | hpends
      · exact hdelta (Or.inl hdue)
      · exact harrived
      · exact hdelta (Or.inr hpends)

/-- A step keeps the order, under the three conditions on it. -/
theorem InOrder.step (hs : InOrder h n) (hn : Holds n) {g : List (Event × List Obs)}
    (hrun : Sys.Runs C anyStep g n.watch.sys) (hstep : n.step C e = some (m, o))
    (hwait : n.DeltaWaits h e) (hown : n.writesAstray e = false) (hsound : n.writesOn e = false) :
    InOrder (h ++ [(e, o)]) m := by
  refine ⟨fun c hopen hbroken => ?_, fun p hp hconn hbroken => ?_, fun c => ?_⟩
  · rcases step_fdOpen hstep hopen with hold | ⟨rfl, hx⟩
    · exact (hs.clients c hold (step_broken hstep hbroken)).step hn hrun hstep hown hold hbroken
    · -- The client has just come.
      rcases step_sys hstep with ⟨hnone, -⟩ | ⟨x, hx', hsys⟩
      · rw [hnone] at hx
        cases hx
      · cases hx.symm.trans hx'
        have hclient : m.watch.sys.clients n.watch.sys.accepted =
            { n.watch.sys.clients n.watch.sys.accepted with fdOpen := true } := by
          simp only [Sys.step, Option.some.injEq, Prod.mk.injEq] at hsys
          rw [← hsys.1]
          exact Sys.setClient_self _ _ _
        have hhello := Sys.Runs.unborn_hello hrun (Nat.le_refl n.watch.sys.accepted)
        have htodo := (Sys.Runs.unborn hrun (Nat.le_refl n.watch.sys.accepted)).2
        refine ⟨fun hyes => ?_, fun hgreeting => ?_, fun hyes => ?_⟩
        · rw [hclient, hhello] at hyes
          cases hyes
        · rw [hclient, Client.greeting, htodo] at hgreeting
          cases hgreeting
        · rw [hclient, hhello] at hyes
          cases hyes
  · -- The posts: those that waited before, and the one of this step.
    have hgrows : framesOn p.client h ⊆ framesOn p.client (h ++ [(e, o)]) := by
      rw [framesOn_snoc]
      exact List.subset_append_left _ _
    have hbefore := step_broken hstep hbroken
    refine SnapshotFirst.Follows.mono hgrows ?_
    rcases step_waits hstep hp with hp | ⟨hopen, hbeat | hsent⟩
    · exact hs.posts p hp (step_conn hstep (hn.posts p hp).1 hconn) hbefore
    · intro hstate
      simp [isState, hbeat, msgHeartbeat, msgStateSnapshot, msgStateDelta] at hstate
    · rcases step_sys hstep with ⟨hnone, -⟩ | ⟨x, hx, hsys⟩
      · rw [sysShown, hnone] at hsent
        cases hsent
      · rw [sysShown, hx] at hsent
        exact hs.sent hstep hwait hx hsys hopen hbefore hsent
  · -- The frames: a write adds the frame of its post, to the client of the post.
    rcases framesOn_step hstep h c with hsame | ⟨i, p, rfl, hp, hconn, hframe⟩
    · rw [hsame]
      exact hs.frames c
    · rw [hframe]
      obtain rfl := wrote_own hown hp hconn
      have hbroken : n.broken p.client = false := by simpa [writesOn, hp, hconn] using hsound
      exact (hs.frames _).snoc (hs.posts p (List.mem_of_getElem? hp) hconn hbroken)

/-- **Snapshot first.** On every connection no state frame comes before the HELLO_ACK with
`ok:true`, and the first one is the snapshot, in every run in which the delta broadcaster waits for
the first snapshot of a client, no frame goes astray, and nothing is written to a connection on
which a frame was lost. -/
theorem snapshot_first (hrun : Runs C anyStep h n) (horderly : Orderly C F h) :
    ∀ c, SnapshotFirst (framesOn c h) := by
  suffices hs : InOrder h n from hs.frames
  induction hrun with
  | nil => exact inOrder_init
  | @snoc h n m e o hrun _ hstep ih =>
      have hbefore : Orderly C F h :=
        fun pre x u hpre => horderly pre x u (hpre.trans (List.prefix_append _ _))
      obtain ⟨hwait, hown, hsound⟩ := horderly h (e, o) n (List.prefix_refl _) hrun
      exact (ih hbefore).step (Runs.holds hrun) (Runs.sys_any hrun) hstep hwait hown hsound

/-- The broadcaster comes after the HELLO was accepted and before the snapshot. -/
def overtakenEvents : List NetEvent :=
  promptly Exact.Cost (init : Net ℚ) <| quietly
    [.accept, .recv 0 (Sys.clientFrame msgHello 1 ""), .rx 0 1, .rx 0 1, .deltaTimer 2, .ros 2,
      .ros 2]

/-- The run of these events. -/
def overtakenRun : History × Net ℚ :=
  (exec (step Exact.Cost) anyStep init overtakenEvents).get (by decide +kernel)

/-- The first state frame is a delta. -/
theorem delta_first :
    ∃ (h : History) (n : Net ℚ), Runs Exact.Cost anyStep h n ∧
      (framesOn 0 h).map Frame.type = [msgHelloAck, msgStateDelta] ∧
        ¬∀ c, SnapshotFirst (framesOn c h) := by
  have htypes : (framesOn 0 overtakenRun.1).map Frame.type = [msgHelloAck, msgStateDelta] := by
    decide +kernel
  have hfirst : ((framesOn 0 overtakenRun.1).filter isState).map Frame.type = [msgStateDelta] := by
    decide +kernel
  refine ⟨overtakenRun.1, overtakenRun.2, Run.of_exec (Option.some_get _).symm, htypes,
    fun hall => ?_⟩
  obtain ⟨f, rest, hframes, htype, -⟩ := List.map_eq_cons_iff.mp hfirst
  rw [(hall 0).snapshot f rest hframes] at htype
  exact absurd htype (by decide)

/-- The write of the HELLO_ACK fails, and the next one succeeds. -/
def lostEvents : List NetEvent :=
  [.accept 0 5, .move 0 (.sys (.recv 0 (Sys.clientFrame msgHello 1 ""))),
    .move 0 (.sys (.rx 0 1)), .write 0 false, .move 0 (.sys (.rx 0 1)), .move 0 (.sys (.rx 0 1)),
    .write 0 true]

/-- The first frame is the snapshot. -/
example : (exec (step (F := ℚ) Exact.Cost) anyStep init lostEvents).map
    (fun r => (framesOn 0 r.1).map Frame.type) = some [msgStateSnapshot] := by
  decide +kernel

/-- The broadcaster comes after the snapshot. -/
def welcomedEvents : List NetEvent :=
  promptly Exact.Cost (init : Net ℚ) <| quietly <|
    [Event.accept, .recv 0 (Sys.clientFrame msgHello 1 "")] ++ List.replicate 4 (Event.rx 0 1) ++
      [Event.deltaTimer 2, .ros 2, .ros 2]

/-- The run of these events. -/
def welcomedRun : History × Net ℚ :=
  (exec (step Exact.Cost) anyStep init welcomedEvents).get (by decide +kernel)

/-- A client that is welcomed, gets its snapshot and then a delta. -/
theorem snapshot_first_welcomed :
    SnapshotFirst (framesOn 0 welcomedRun.1) ∧
      (framesOn 0 welcomedRun.1).map Frame.type =
        [msgHelloAck, msgStateSnapshot, msgStateDelta] := by
  have horderly : Orderly Exact.Cost ℚ welcomedRun.1 := by
    intro pre x n hpre hrun
    refine Run.of_checkAll (P := fun h n e =>
      n.DeltaWaits h e ∧ n.writesAstray e = false ∧ n.writesOn e = false) ?_ hpre hrun
    decide +kernel
  exact ⟨snapshot_first (Run.of_exec (Option.some_get _).symm) horderly 0, by decide +kernel⟩

end Net

end BotCockpit.Bridge
