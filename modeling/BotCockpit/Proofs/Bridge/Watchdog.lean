import BotCockpit.Proofs.Bridge.Batch
import BotCockpit.Proofs.Bridge.Confirmation
import BotCockpit.Proofs.Bridge.Handshake
import BotCockpit.Spec.Watchdog

/-!
# `BotCockpit.Proofs.Bridge.Watchdog`: when the watchdog shuts a client down

Between its accesses everything else moves, so what a pass has read is related to the state by an
invariant, `Keeps` for the first promise and `Promises` for the second.
-/

set_option autoImplicit false

namespace BotCockpit.Bridge

open BotCockpit.Lib

/-- The clock of a pass. -/
def Pass.now? : Pass → Option UInt64
  | .asleep => none
  | .awake now | .beating now _ _ | .next now _ | .opened now _ _ | .asked now _ _ _ => some now
  | .timed now _ _ _ _ _ => some now

/-- The clients that a pass still looks at. -/
def Pass.clients : Pass → List Nat
  | .asleep | .awake _ => []
  | .beating _ _ todo | .next _ todo => todo
  | .opened _ c todo | .asked _ c _ todo | .timed _ c _ _ _ todo => c :: todo

namespace Watch

variable {F : Type} [CDouble F] {C : Type} [CFloat C] {s t : Watch F} {x : UInt64 × WatchEvent}
  {out : List WatchObs}

/-! ### One step -/

/-- What an access of the watchdog does. It writes no time of a client. -/
inductive Turn (s : Watch F) : Watch F → List WatchObs → Prop
  | sleeps (hpass : s.pass.clients = []) : Turn s { s with pass := .asleep } []
  | wakes (hpass : s.pass = .asleep) : Turn s { s with pass := .awake s.clock } []
  /-- The list of clients is copied, and perhaps the heartbeats are due. -/
  | begins (now : UInt64) (lastTx : UInt64) (pass : Pass) (hpass : s.pass = .awake now)
      (hnext : pass = .beating now (List.range s.sys.accepted) (List.range s.sys.accepted) ∨
        pass = .next now (List.range s.sys.accepted)) :
      Turn s { s with lastTx := lastTx, pass := pass } []
  /-- The heartbeats go out. -/
  | beats (now : UInt64) (rest todo : List Nat) (o : List Obs) (pass : Pass)
      (hpass : s.pass = .beating now rest todo)
      (hnext : (∃ rest', pass = .beating now rest' todo) ∨ pass = .next now todo) :
      Turn s { s with pass := pass } (o.map WatchObs.beat)
  | skips (now : UInt64) (c : Nat) (todo : List Nat) (hpass : s.pass = .next now (c :: todo)) :
      Turn s { s with pass := .next now todo } []
  | opens (now : UInt64) (c : Nat) (todo : List Nat) (hpass : s.pass = .next now (c :: todo)) :
      Turn s { s with pass := .opened now c todo } []
  | asks (now : UInt64) (c : Nat) (todo : List Nat) (hpass : s.pass = .opened now c todo) :
      Turn s { s with pass := .asked now c (s.sys.clients c).helloOk todo } []
  | times (now : UInt64) (c : Nat) (hello : Bool) (todo : List Nat)
      (hpass : s.pass = .asked now c hello todo) :
      Turn s
        { s with
          pass := .timed now c (s.refMs c hello) s.clock (s.sys.clients c).helloOk todo } []
  | spares (now : UInt64) (c : Nat) (ref readMs : UInt64) (greeted : Bool) (todo : List Nat)
      (hpass : s.pass = .timed now c ref readMs greeted todo) :
      Turn s { s with pass := .next now todo } []
  | shuts (now : UInt64) (c : Nat) (ref readMs : UInt64) (greeted : Bool) (todo : List Nat)
      (hpass : s.pass = .timed now c ref readMs greeted todo) (hpos : 0 < ref)
      (hlimit : limitMs (s.sys.clients c).helloOk < now - ref) :
      Turn s { s with pass := .next now todo } [.shutdown c now]

/-- The watchdog's step is one of its turns. -/
theorem watchdogStep_turn (s : Watch F) : Turn s (watchdogStep s).1 (watchdogStep s).2 := by
  -- The places of a pass, in their order.
  unfold watchdogStep
  split
  · rename_i hpass
    exact .wakes hpass
  · rename_i now hpass
    dsimp only
    split
    · exact .begins now _ _ hpass (Or.inl rfl)
    · exact .begins now s.lastTx _ hpass (Or.inr rfl)
  · rename_i now todo hpass
    exact .beats now [] todo [] _ hpass (Or.inr rfl)
  · rename_i now c rest todo hpass
    split
    · exact .beats now _ todo _ _ hpass (Or.inl ⟨rest, rfl⟩)
    · exact .beats now _ todo [] _ hpass (Or.inl ⟨rest, rfl⟩)
  · rename_i now hpass
    exact .sleeps (by rw [hpass]; rfl)
  · rename_i now c todo hpass
    dsimp only
    split
    · exact .opens now c todo hpass
    · exact .skips now c todo hpass
  · rename_i now c todo hpass
    exact .asks now c todo hpass
  · rename_i now c hello todo hpass
    exact .times now c hello todo hpass
  · rename_i now c ref readMs greeted todo hpass
    dsimp only
    split
    · rename_i htest
      exact .shuts now c ref readMs greeted todo hpass htest.1 htest.2
    · exact .spares now c ref readMs greeted todo hpass

/-- A step of another thread leaves the pass where it is. One of the watchdog is a `Turn`. -/
inductive Step (C : Type) [CFloat C] (s : Watch F) (x : UInt64 × WatchEvent) :
    Watch F → List WatchObs → Prop
  | other (e : Event) (sys : Sys F) (o : List Obs) (he : x.2 = .sys e)
      (hsys : s.sys.step C e = some (sys, o)) :
      Step C s x { s.stamp x.1 e with clock := x.1, sys := sys } (o.map WatchObs.sys)
  | turn {t : Watch F} {out : List WatchObs} (he : x.2 = .watchdog)
      (hturn : Turn { s with clock := x.1 } t out) : Step C s x t out

/-- A step is one of the server's or a turn of the watchdog. -/
theorem step_cases (h : s.step C x = some (t, out)) : s.clock ≤ x.1 ∧ Step C s x t out := by
  simp only [step] at h
  split at h
  · rename_i hclock
    refine ⟨hclock, ?_⟩
    split at h
    · rename_i he
      have hturn := watchdogStep_turn { s with clock := x.1 }
      rw [Option.some.inj h] at hturn
      exact .turn he hturn
    · rename_i e he
      split at h
      · cases h
      · rename_i sys o hsys
        cases h
        exact .other e sys o he hsys
  · cases h

/-- What a stamp writes is not the pass. -/
theorem stamp_pass (now : UInt64) (s : Watch F) (e : Event) : (s.stamp now e).pass = s.pass := by
  unfold stamp
  repeat' split
  all_goals rfl

/-- The clock of a pass is not later than the clock. -/
def Behind (s : Watch F) : Prop := ∀ now, s.pass.now? = some now → now ≤ s.clock

/-- A turn reads no time that lies ahead. -/
theorem Turn.behind (h : Turn s t out) (hs : Behind s) : Behind t := by
  intro now hnow
  cases h with
  | sleeps hpass => cases hnow
  | wakes hpass =>
      cases hnow
      exact UInt64.le_refl _
  | begins now' lastTx pass hpass hnext =>
      have hnow' : pass.now? = some now' := by rcases hnext with rfl | rfl <;> rfl
      exact hs now (by rw [hpass]; exact hnow'.symm.trans hnow)
  | beats now' rest todo o pass hpass hnext =>
      have hnow' : pass.now? = some now' := by rcases hnext with ⟨rest', rfl⟩ | rfl <;> rfl
      exact hs now (by rw [hpass]; exact hnow'.symm.trans hnow)
  | shuts now' c ref readMs greeted todo hpass => exact hs now (by rw [hpass]; exact hnow)
  | _ =>
      rename_i hpass
      exact hs now (by rw [hpass]; exact hnow)

/-- A pass looks at clients that were accepted when it began. -/
theorem Turn.clients (h : Turn s t out) {c : Nat} (hc : c ∈ t.pass.clients) :
    c ∈ s.pass.clients ∨ c < s.sys.accepted := by
  cases h with
  | sleeps hpass => cases hc
  | wakes hpass => cases hc
  | begins now lastTx pass hpass hnext =>
      have hclients : pass.clients = List.range s.sys.accepted := by
        rcases hnext with rfl | rfl <;> rfl
      exact Or.inr (List.mem_range.mp (hclients ▸ hc))
  | beats now rest todo o pass hpass hnext =>
      have hclients : pass.clients = todo := by rcases hnext with ⟨rest', rfl⟩ | rfl <;> rfl
      refine Or.inl ?_
      rw [hpass]
      exact hclients ▸ hc
  | skips now d todo hpass | spares now d ref readMs greeted todo hpass
  | shuts now d ref readMs greeted todo hpass =>
      refine Or.inl ?_
      rw [hpass]
      exact List.mem_cons_of_mem _ hc
  | opens now d todo hpass | asks now d todo hpass | times now d hello todo hpass =>
      refine Or.inl ?_
      rw [hpass]
      exact hc

/-- A time is read by the access that follows the first look at `hello_ok`. -/
theorem Turn.reads (h : Turn s t out) {now : UInt64} {c : Nat} {ref readMs : UInt64}
    {greeted : Bool} {todo : List Nat} (ht : t.pass = .timed now c ref readMs greeted todo) :
    ∃ hello, s.pass = .asked now c hello todo ∧ ref = s.refMs c hello ∧ readMs = s.clock ∧
      greeted = (s.sys.clients c).helloOk := by
  cases h with
  | times now' d hello todo' hpass =>
      cases ht
      exact ⟨hello, hpass, rfl, rfl, rfl⟩
  | begins now' lastTx pass hpass hnext => rcases hnext with rfl | rfl <;> cases ht
  | beats now' rest todo' o pass hpass hnext => rcases hnext with ⟨rest', rfl⟩ | rfl <;> cases ht
  | _ => cases ht

/-- A turn leaves the server and the times alone. -/
theorem Turn.frame (h : Turn s t out) :
    t.sys = s.sys ∧ t.clock = s.clock ∧ t.lastRxMs = s.lastRxMs ∧
      t.lastHbRxMs = s.lastHbRxMs ∧ t.acceptMs = s.acceptMs ∧ t.helloMs = s.helloMs := by
  cases h <;> exact ⟨rfl, rfl, rfl, rfl, rfl, rfl⟩

/-- A shutdown is decided by the times that were read. -/
theorem Turn.shutdown (h : Turn s t out) {now : UInt64} {c : Nat}
    (hshut : .shutdown c now ∈ out) :
    ∃ ref readMs greeted todo, s.pass = .timed now c ref readMs greeted todo ∧ 0 < ref ∧
      limitMs (s.sys.clients c).helloOk < now - ref := by
  cases h with
  | shuts now' d ref readMs greeted todo hpass hpos hlimit =>
      cases List.mem_singleton.mp hshut
      exact ⟨ref, readMs, greeted, todo, hpass, hpos, hlimit⟩
  | beats now' rest todo o pass hpass hnext => simp at hshut
  | _ => cases hshut

/-- Only a step of a receive thread accepts a HELLO, and what was accepted stays so. -/
theorem helloOk_step {e : Event} {sys : Sys F} {o : List Obs} (h : s.sys.step C e = some (sys, o))
    {c : Nat} (hhello : (sys.clients c).helloOk = true) :
    (s.sys.clients c).helloOk = true ∨ s.accepts c (.sys e) = true := by
  cases hold : (s.sys.clients c).helloOk with
  | true => exact Or.inl rfl
  | false =>
      rcases Sys.step_greets h hhello with hyes | ⟨nowMs, rest, rfl, htodo⟩
      · exact absurd (hold.symm.trans hyes) Bool.false_ne_true
      · exact Or.inr (by simp [accepts, hold, htodo])

/-! ### The limit has elapsed -/

/-- What a pass has read is not later than its clock, and the HELLO did not come in between when
the shorter limit was over and the longer one was not. -/
structure Keeps (s : Watch F) : Prop where
  behind : Behind s
  timed : ∀ now c ref readMs greeted todo, s.pass = .timed now c ref readMs greeted todo →
    ref ≤ now ∧ now ≤ readMs ∧ (greeted = true → (s.sys.clients c).helloOk = true) ∧
      (greeted = false → (s.sys.clients c).helloOk = true →
        now.toNat ≤ ref.toNat + 3000 ∨ ref.toNat + 6000 < readMs.toNat)

/-- The invariant of the times holds at the start. -/
theorem keeps_init : Keeps (init : Watch F) :=
  ⟨fun _ hnow => (by cases hnow), fun _ _ _ _ _ _ hpass => (by cases hpass)⟩

/-- A step keeps it under the two conditions. -/
theorem Keeps.step (hs : Keeps s) (hlater : readsLater s x = false)
    (hswitch : switchesLimit s x = false) (h : s.step C x = some (t, out)) : Keeps t := by
  obtain ⟨hclock, hstep⟩ := step_cases h
  have hbehind : Behind { s with clock := x.1 } :=
    fun now hnow => UInt64.le_trans (hs.behind now hnow) hclock
  cases hstep with
  | other e sys o he hsys =>
      -- A step of the server: what was read stays read, and the flag is raised only where the guard
      -- lets it.
      refine ⟨fun now hnow => hbehind now (stamp_pass x.1 s e ▸ hnow), ?_⟩
      intro now c ref readMs greeted todo hpass
      have hpass' : s.pass = .timed now c ref readMs greeted todo :=
        (stamp_pass x.1 s e).symm.trans hpass
      obtain ⟨hle, hread, hyes, hno⟩ := hs.timed now c ref readMs greeted todo hpass'
      refine ⟨hle, hread, fun hg => Sys.step_helloOk hsys (hyes hg), fun hg hhello => ?_⟩
      rcases helloOk_step hsys hhello with hold | haccepts
      · exact hno hg hold
      · simp only [switchesLimit, hpass', he, haccepts, Bool.true_and, Bool.and_eq_false_iff,
          decide_eq_false_iff_not] at hswitch
        omega
  | turn he hturn =>
      -- A turn of the pass reads the times now, and the guard says they do not lie ahead.
      refine ⟨hturn.behind hbehind, fun now c ref readMs greeted todo hpass => ?_⟩
      obtain ⟨hello, hasked, rfl, rfl, rfl⟩ := hturn.reads hpass
      have hsys := hturn.frame.1
      have hasked' : s.pass = .asked now c hello todo := hasked
      simp only [readsLater, he, hasked', decide_eq_false_iff_not] at hlater
      refine ⟨UInt64.not_lt.mp hlater, hbehind now (by rw [hasked]; rfl), fun hg => ?_,
        fun hg hh => ?_⟩
      · rwa [hsys]
      · rw [hsys] at hh
        exact absurd (hg.symm.trans hh) Bool.false_ne_true

/-- The test at the end of a look, without the wrap-around. -/
theorem limit_lt {hello : Bool} {now ref : UInt64} (hle : ref ≤ now)
    (h : limitMs hello < now - ref) :
    ref.toNat + (if hello = true then 3000 else 6000) < now.toNat := by
  have hlimit : (limitMs hello).toNat = if hello = true then 3000 else 6000 := by
    cases hello <;> rfl
  have hlt := UInt64.lt_iff_toNat_lt.mp h
  rw [hlimit, UInt64.toNat_sub_of_le _ _ hle] at hlt
  omega

/-- In every run in which the watchdog reads no time later than the clock of its pass, and no first
HELLO comes between its two readings at the wrong moment, it shuts a client down only after the
limit has elapsed. -/
theorem Runs.elapsed {h : History} {s : Watch F}
    (hrun : Runs C (fun s x => readsLater s x = false ∧ switchesLimit s x = false) h s) :
    ∀ x, Elapsed C s x := by
  have hkeeps : Keeps s := hrun.invariant keeps_init
    fun s x t o hs hallow hstep => hs.step hallow.1 hallow.2 hstep
  intro x t out c now hstep hshut
  obtain ⟨hclock, hcases⟩ := step_cases hstep
  cases hcases with
  | other e sys o he hsys => simp at hshut
  | turn he hturn =>
      obtain ⟨ref, readMs, greeted, todo, hpass, hpos, hlimit⟩ := hturn.shutdown hshut
      obtain ⟨hle, hread, hyes, hno⟩ := hkeeps.timed now c ref readMs greeted todo hpass
      refine ⟨ref, readMs, greeted, todo, hpass, hle, ?_⟩
      have hlt := limit_lt hle hlimit
      have hnat : now.toNat ≤ readMs.toNat := UInt64.le_iff_toNat_le.mp hread
      cases greeted with
      | true =>
          rw [if_pos (hyes rfl)] at hlt
          show ref.toNat + 3000 < readMs.toNat
          omega
      | false =>
          show ref.toNat + 6000 < readMs.toNat
          split at hlt
          · rename_i hhello
            rcases hno rfl hhello with h | h <;> omega
          · omega

/-- A time that is later than the clock of the pass is the end of the client: the difference wraps
around, and the test takes it for an age. -/
theorem later_shuts {now : UInt64} {c : Nat} {ref readMs : UInt64} {greeted : Bool}
    {todo : List Nat}
    (hpass : s.pass = .timed now c ref readMs greeted todo) (hlater : now < ref)
    (hnear : ref.toNat < now.toNat + 2 ^ 63) : .shutdown c now ∈ (watchdogStep s).2 := by
  have hlt : now.toNat < ref.toNat := UInt64.lt_iff_toNat_lt.mp hlater
  have hlimit : (limitMs (s.sys.clients c).helloOk).toNat ≤ 6000 := by
    cases (s.sys.clients c).helloOk <;> decide
  have hwrap : (now - ref).toNat = 2 ^ 64 + now.toNat - ref.toNat := by
    have hnow := now.toNat_lt
    have href := ref.toNat_lt
    rw [UInt64.toNat_sub]
    omega
  have htest : 0 < ref ∧ limitMs (s.sys.clients c).helloOk < now - ref := by
    refine ⟨UInt64.lt_iff_toNat_lt.mpr (Nat.lt_of_le_of_lt (Nat.zero_le _) hlt), ?_⟩
    rw [UInt64.lt_iff_toNat_lt, hwrap]
    omega
  simp only [watchdogStep, hpass, if_pos htest, List.mem_singleton]

/-! ### A full period -/

section

variable {h : History}

/-- The shutdowns of a run, one event longer. -/
theorem shutdowns_snoc (h : History) (x : UInt64 × WatchEvent) (out : List WatchObs) :
    shutdowns (h ++ [(x, out)]) = shutdowns h ++ shutdowns [(x, out)] := by
  simp [shutdowns]

/-- The shutdowns of one event. -/
theorem mem_shutdowns {x : UInt64 × WatchEvent} {c : Nat} {now : UInt64} :
    (c, now) ∈ shutdowns [(x, out)] ↔ .shutdown c now ∈ out := by
  simp only [shutdowns, List.flatMap_cons, List.flatMap_nil, List.append_nil, List.mem_filterMap]
  constructor
  · rintro ⟨o, ho, heq⟩
    cases o with
    | shutdown d now' =>
        cases heq
        exact ho
    | _ => cases heq
  · exact fun ho => ⟨_, ho, rfl⟩

/-- What the step of another thread makes of the times of a client that was accepted before. -/
theorem stamp_old {e : Event} {c : Nat} (hc : c < s.sys.accepted) (now : UInt64) :
    (s.stamp now e).acceptMs c = s.acceptMs c ∧
      ((s.sys.clients c).helloOk = true → (s.stamp now e).helloMs c = s.helloMs c) := by
  cases e with
  | accept => exact ⟨Function.update_of_ne (Nat.ne_of_lt hc) _ _, fun _ => rfl⟩
  | rx d nowMs =>
      unfold stamp
      dsimp only
      split
      · exact ⟨rfl, fun _ => rfl⟩
      · split
        · exact ⟨rfl, fun _ => rfl⟩
        · rename_i hno
          refine ⟨rfl, fun hhello => Function.update_of_ne ?_ _ _⟩
          rintro rfl
          exact hno hhello
      · exact ⟨rfl, fun _ => rfl⟩
  | _ => exact ⟨rfl, fun _ => rfl⟩

/-- The time of the HELLO is that of the step that accepts it. -/
theorem stamp_accepts {e : Event} {c : Nat} (h : s.accepts c (.sys e) = true) (now : UInt64) :
    (s.stamp now e).helloMs c = now := by
  cases e with
  | rx d nowMs =>
      simp only [accepts, Bool.and_eq_true, decide_eq_true_eq, Bool.not_eq_true'] at h
      obtain ⟨⟨rfl, hno⟩, hhead⟩ := h
      split at hhead
      · rename_i rest htodo
        simp only [stamp, htodo, hno, Bool.false_eq_true, if_false]
        exact Function.update_self _ _ _
      · cases hhead
  | _ => cases h

/-- A client was accepted before anything came from it, and not later than now. -/
def Ordered (s : Watch F) : Prop :=
  ∀ c, s.acceptMs c ≤ s.lastRxMs c ∧ s.acceptMs c ≤ s.lastHbRxMs c ∧ s.acceptMs c ≤ s.clock

/-- A time that is set to now. -/
theorem le_update {f : Nat → UInt64} {c d : Nat} {a now : UInt64} (hnow : a ≤ now) (h : a ≤ f c) :
    a ≤ Function.update f d now c := by
  by_cases hc : c = d
  · rw [hc, Function.update_self]
    exact hnow
  · rwa [Function.update_of_ne hc]

/-- A stamp keeps the times in order. -/
theorem Ordered.stamp (hs : Ordered s) {now : UInt64} (hclock : s.clock ≤ now) (e : Event)
    (sys : Sys F) : Ordered { s.stamp now e with clock := now, sys := sys } := by
  intro c
  obtain ⟨hrx, hhb, hle⟩ := hs c
  have hnow : s.acceptMs c ≤ now := UInt64.le_trans hle hclock
  show (s.stamp now e).acceptMs c ≤ (s.stamp now e).lastRxMs c ∧
    (s.stamp now e).acceptMs c ≤ (s.stamp now e).lastHbRxMs c ∧ (s.stamp now e).acceptMs c ≤ now
  cases e with
  | accept =>
      show Function.update s.acceptMs s.sys.accepted now c ≤
          Function.update s.lastRxMs s.sys.accepted now c ∧
        Function.update s.acceptMs s.sys.accepted now c ≤
          Function.update s.lastHbRxMs s.sys.accepted now c ∧
        Function.update s.acceptMs s.sys.accepted now c ≤ now
      by_cases hc : c = s.sys.accepted
      · rw [hc, Function.update_self, Function.update_self, Function.update_self]
        exact ⟨UInt64.le_refl _, UInt64.le_refl _, UInt64.le_refl _⟩
      · rw [Function.update_of_ne hc, Function.update_of_ne hc, Function.update_of_ne hc]
        exact ⟨hrx, hhb, hnow⟩
  | recv d chunk => exact ⟨le_update hnow hrx, hhb, hnow⟩
  | rx d nowMs =>
      unfold Watch.stamp
      dsimp only
      repeat' split
      all_goals first
        | exact ⟨hrx, hhb, hnow⟩
        | exact ⟨hrx, le_update hnow hhb, hnow⟩
  | _ => exact ⟨hrx, hhb, hnow⟩

/-- What a pass has read of a client, and the shutdowns so far. Before the HELLO the time that was
read is one since the client was accepted, and the shutdowns are those after 6000 ms. After a HELLO
in time, both are as `FullPeriod` says. -/
structure Promises (h : History) (s : Watch F) : Prop where
  behind : Behind s
  ordered : Ordered s
  born : ∀ c ∈ s.pass.clients, c < s.sys.accepted
  timed : ∀ now c ref readMs greeted todo, s.pass = .timed now c ref readMs greeted todo →
    (greeted = true → (s.sys.clients c).helloOk = true) ∧
      if (s.sys.clients c).helloOk = true then
        s.inTime c → (s.helloMs c).toNat + 3000 < now.toNat ∨ recent now ref = true
      else ref ≤ now ∧ s.acceptMs c ≤ ref
  shut : ∀ c now, (c, now) ∈ shutdowns h → c < s.sys.accepted ∧ now ≤ s.clock ∧
    if (s.sys.clients c).helloOk = true then
      s.inTime c → (s.helloMs c).toNat + 3000 < now.toNat
    else (s.acceptMs c).toNat + 6000 < now.toNat

/-- At the start there is nothing to keep. -/
theorem promises_init : Promises [] (init : Watch F) where
  behind := fun _ hnow => by cases hnow
  ordered := fun _ => ⟨UInt64.le_refl _, UInt64.le_refl _, UInt64.le_refl _⟩
  born := fun _ hc => by cases hc
  timed := fun _ _ _ _ _ _ hpass => by cases hpass
  shut := fun _ _ hmem => by cases hmem

/-- What is promised to a client that was accepted before, after a step of another thread: the step
changes nothing for the client, or it accepts its HELLO now. -/
theorem promise_other {e : Event} {sys : Sys F} {o : List Obs} {c : Nat} {now : UInt64}
    {P : UInt64 → Prop} {Q : Prop} (hsys : s.sys.step C e = some (sys, o))
    (hc : c < s.sys.accepted)
    (h : if (s.sys.clients c).helloOk = true then s.inTime c → P (s.helloMs c) else Q)
    (haccepts : s.accepts c (.sys e) = true → now.toNat ≤ (s.acceptMs c).toNat + 6000 → Q → P now) :
    if (sys.clients c).helloOk = true then
      ((s.stamp now e).helloMs c).toNat ≤ (s.acceptMs c).toNat + 6000 →
        P ((s.stamp now e).helloMs c)
    else Q := by
  cases hold : (s.sys.clients c).helloOk with
  | true =>
      rw [if_pos hold] at h
      rw [if_pos (Sys.step_helloOk hsys hold), (stamp_old hc now).2 hold]
      exact h
  | false =>
      rw [if_neg (by simp [hold])] at h
      split
      · rename_i hnew
        have hyes := (helloOk_step hsys hnew).resolve_left (by simp [hold])
        rw [stamp_accepts hyes now]
        exact fun hin => haccepts hyes hin h
      · exact h

/-- A step of the server keeps what is promised to the clients. -/
theorem Promises.other {e : Event} {sys : Sys F} {o : List Obs} (hs : Promises h s)
    (hfresh : acceptsStale s x = false) (he : x.2 = .sys e) (hclock : s.clock ≤ x.1)
    (hsys : s.sys.step C e = some (sys, o)) :
    Promises (h ++ [(x, o.map WatchObs.sys)])
      { s.stamp x.1 e with clock := x.1, sys := sys } := by
  have hpass : (s.stamp x.1 e).pass = s.pass := stamp_pass x.1 s e
  have hborn : s.sys.accepted ≤ sys.accepted := (Sys.step_open hsys).1
  have hshown : shutdowns [(x, o.map WatchObs.sys)] = [] := by
    refine List.eq_nil_iff_forall_not_mem.mpr fun ⟨c, now⟩ hmem => ?_
    simpa using mem_shutdowns.mp hmem
  refine ⟨fun now hnow => ?_, hs.ordered.stamp hclock e sys, fun c hc => ?_, ?_, ?_⟩
  · exact UInt64.le_trans (hs.behind now (hpass ▸ hnow)) hclock
  · exact Nat.lt_of_lt_of_le (hs.born c (hpass ▸ hc)) hborn
  · intro now c ref readMs greeted todo ht
    have ht' : s.pass = .timed now c ref readMs greeted todo := hpass.symm.trans ht
    have hc : c < s.sys.accepted := hs.born c (by rw [ht']; exact List.mem_cons_self)
    obtain ⟨hyes, hread⟩ := hs.timed now c ref readMs greeted todo ht'
    refine ⟨fun hg => Sys.step_helloOk hsys (hyes hg), ?_⟩
    simp only [inTime, (stamp_old (e := e) hc x.1).1]
    refine promise_other (P := fun ms => ms.toNat + 3000 < now.toNat ∨ recent now ref = true)
      hsys hc hread fun haccepts hin _ => Or.inr ?_
    simpa [acceptsStale, ht', he, haccepts, hin] using hfresh
  · intro c now hmem
    rw [shutdowns_snoc, hshown, List.append_nil] at hmem
    obtain ⟨hc, hle, hpromise⟩ := hs.shut c now hmem
    refine ⟨Nat.lt_of_lt_of_le hc hborn, UInt64.le_trans hle hclock, ?_⟩
    simp only [inTime, (stamp_old (e := e) hc x.1).1]
    refine promise_other (P := fun ms => ms.toNat + 3000 < now.toNat) hsys hc hpromise
      fun _ hin hlate => ?_
    -- The shutdown was after 6000 ms, and the HELLO comes before that.
    have hnow : now.toNat ≤ x.1.toNat := UInt64.le_iff_toNat_le.mp (UInt64.le_trans hle hclock)
    omega

/-- So does a turn of the watchdog whose reading is not stale. -/
theorem Promises.turn (hs : Promises h s) (hfresh : readsStale s x = false)
    (he : x.2 = .watchdog) (hclock : s.clock ≤ x.1) (hturn : Turn { s with clock := x.1 } t out) :
    Promises (h ++ [(x, out)]) t := by
  obtain ⟨hsys, hnow, hrx, hhb, haccept, hhello⟩ := hturn.frame
  have hbehind : Behind { s with clock := x.1 } :=
    fun now hnow => UInt64.le_trans (hs.behind now hnow) hclock
  have hin : ∀ c, t.inTime c ↔ s.inTime c := by
    intro c
    rw [inTime, inTime, hhello, haccept]
  refine ⟨hturn.behind hbehind, fun c => ?_, fun c hc => ?_, ?_, ?_⟩
  · obtain ⟨hold, hold', hle⟩ := hs.ordered c
    rw [haccept, hrx, hhb, hnow]
    exact ⟨hold, hold', UInt64.le_trans hle hclock⟩
  · rw [hsys]
    exact (hturn.clients hc).elim (hs.born c) id
  · intro now c ref readMs greeted todo ht
    -- The pass has read the times of `c` just now; the guard says that they are not stale.
    obtain ⟨hello, hasked, rfl, rfl, rfl⟩ := hturn.reads ht
    have hasked' : s.pass = .asked now c hello todo := hasked
    simp only [readsStale, he, hasked'] at hfresh
    simp only [hsys, hin, hhello, haccept]
    refine ⟨id, ?_⟩
    split
    · rename_i hyes
      rw [if_pos hyes] at hfresh
      intro hin
      simp only [hin, decide_true, Bool.true_and, Bool.and_eq_false_iff, decide_eq_false_iff_not,
        Bool.not_eq_false'] at hfresh
      exact hfresh.imp_left Nat.lt_of_not_le
    · rename_i hno
      rw [if_neg hno, decide_eq_false_iff_not] at hfresh
      refine ⟨UInt64.not_lt.mp hfresh, ?_⟩
      obtain ⟨hold, hold', -⟩ := hs.ordered c
      cases hello with
      | true => exact hold'
      | false => exact hold
  · intro c now hmem
    rw [shutdowns_snoc, List.mem_append] at hmem
    rw [hsys, hin, hhello, haccept, hnow]
    rcases hmem with hmem | hmem
    · obtain ⟨hc, hle, hpromise⟩ := hs.shut c now hmem
      exact ⟨hc, UInt64.le_trans hle hclock, hpromise⟩
    · -- A shutdown of this turn rests on the times that were read, and they are over the limit.
      obtain ⟨ref, readMs, greeted, todo, hpass, hpos, hlimit⟩ :=
        hturn.shutdown (mem_shutdowns.mp hmem)
      have hpass' : s.pass = .timed now c ref readMs greeted todo := hpass
      obtain ⟨-, hread⟩ := hs.timed now c ref readMs greeted todo hpass'
      refine ⟨hs.born c (by rw [hpass']; exact List.mem_cons_self),
        hbehind now (by rw [hpass]; rfl), ?_⟩
      split
      · rename_i hyes
        rw [if_pos hyes] at hread
        refine fun hin => (hread hin).resolve_right fun hrecent => ?_
        obtain ⟨hle, hnear⟩ : ref ≤ now ∧ now.toNat ≤ ref.toNat + 3000 := by
          simpa [recent] using hrecent
        have hlt := limit_lt hle hlimit
        rw [if_pos hyes] at hlt
        omega
      · rename_i hno
        rw [if_neg hno] at hread
        have hlt := limit_lt hread.1 hlimit
        rw [if_neg hno] at hlt
        have hle := UInt64.le_iff_toNat_le.mp hread.2
        show (s.acceptMs c).toNat + 6000 < now.toNat
        omega

/-- A new session gets a full period, in every run in which the watchdog reads no stale time for it,
and accepts no HELLO over a stale one. -/
theorem Runs.fullPeriod {h : History} {s : Watch F}
    (hrun : Runs C (fun s x => readsStale s x = false ∧ acceptsStale s x = false) h s) :
    FullPeriod h s := by
  have hpromises : Promises h s := by
    refine hrun.invariant_history promises_init fun h s x t o hs hallow hstep => ?_
    obtain ⟨hclock, hcases⟩ := step_cases hstep
    cases hcases with
    | other e sys o he hsys => exact hs.other hallow.2 he hclock hsys
    | turn he hturn => exact hs.turn hallow.1 he hclock hturn
  intro c now hmem hhello hin
  obtain ⟨-, -, hpromise⟩ := hpromises.shut c now hmem
  rw [if_pos hhello] at hpromise
  exact hpromise hin

end

end Watch

end BotCockpit.Bridge
