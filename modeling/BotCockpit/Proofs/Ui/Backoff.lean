import BotCockpit.Spec.Controller
import BotCockpit.Spec.Console

/-!
# `BotCockpit.Proofs.Ui.Backoff`: the pace of the reconnects

A slot leaves the timer alone, stops it, or starts it with the current backoff (`Paces`). It starts
the timer only when `reconnect_pending_` is not set or the timer is off, and whenever the timer
runs the flag is set (`Paced`). So a timer that runs is never started again.
-/

set_option autoImplicit false

namespace BotCockpit.Ui.Controller

open BotCockpit.Lib

variable {F : Type} [CDouble F] {c c' : Controller F} {out : List (UiOutput F)}

/-- The intervals of the timers that are started. -/
abbrev started (out : List (UiOutput F)) : List Nat := out.filterMap UiOutput.started?

/-- What a slot does to the timer and to the backoff, other than resetting it. -/
inductive Paces (c c' : Controller F) (out : List (UiOutput F)) : Prop
  | keeps (hout : started out = []) (hbackoff : c'.backoffS = c.backoffS)
      (htimer : c'.reconnectTimer = c.reconnectTimer)
      (hpending : c'.reconnectPending = c.reconnectPending)
  | stops (hout : started out = []) (hbackoff : c'.backoffS = c.backoffS)
      (htimer : c'.reconnectTimer = none)
  | starts (hidle : ¬(c.reconnectPending = true ∧ c.reconnectTimer.isSome = true))
      (hout : started out = [c.backoffS * 1000]) (hbackoff : c'.backoffS = min (c.backoffS * 2) 10)
      (hpending : c'.reconnectPending = true)

/-- `scheduleReconnect` starts the timer with the next delay, or not at all. -/
theorem scheduleReconnect_paces (c : Controller F) :
    Paces c c.scheduleReconnect.1 c.scheduleReconnect.2 := by
  unfold scheduleReconnect
  split
  · exact .keeps rfl rfl rfl rfl
  split
  · exact .keeps rfl rfl rfl rfl
  split
  · exact .keeps rfl rfl rfl rfl
  · rename_i hidle
    exact .starts hidle rfl rfl rfl

/-- A failure while the timer runs changes neither the timer nor the backoff. -/
theorem scheduleReconnect_waiting (hpending : c.reconnectPending = true)
    (htimer : c.reconnectTimer.isSome = true) : c.scheduleReconnect = (c, []) := by
  unfold scheduleReconnect
  split
  · rfl
  split
  · rfl
  · rw [if_pos ⟨hpending, htimer⟩]

/-- The timer's slot keeps the pace. -/
theorem onReconnectTimer_paces (c : Controller F) :
    Paces c c.onReconnectTimer.1 c.onReconnectTimer.2 := by
  unfold onReconnectTimer
  dsimp only
  split <;> exact .stops rfl rfl rfl

/-- A command changes nothing here. -/
theorem cmd_paces (call : WorkerCall F) (c : Controller F) :
    Paces c (c.cmd call).1 (c.cmd call).2 := by
  unfold cmd
  split <;> exact .keeps rfl rfl rfl rfl

/-- A rejected HELLO stops the worker, and schedules a reconnect. -/
theorem onHelloAck_rejected_eq {info : HelloInfo} (hrejected : info.ok = false) (c : Controller F) :
    ∃ d : Controller F, d.backoffS = c.backoffS ∧ d.reconnectTimer = c.reconnectTimer ∧
      d.reconnectPending = c.reconnectPending ∧
      c.onHelloAck info = (d.scheduleReconnect.1, .emit .stopWorker :: d.scheduleReconnect.2) := by
  unfold onHelloAck
  rw [if_pos (by simp [hrejected])]
  exact ⟨{ ((({ c.setErrorString info.reason with helloOkSession := false }).setConnected
    false).setConnecting false) with manualDisconnect := false }, rfl, rfl, rfl, rfl⟩

/-- The same when the controller differs elsewhere, and calls of the worker come first. -/
theorem Paces.congr {d d' : Controller F} {out' : List (UiOutput F)} (h : Paces d d' out)
    (hbackoff : d.backoffS = c.backoffS) (htimer : d.reconnectTimer = c.reconnectTimer)
    (hpending : d.reconnectPending = c.reconnectPending) (hout : started out' = started out) :
    Paces c d' out' := by
  cases h with
  | keeps ho hb ht hp =>
      exact .keeps (hout.trans ho) (hb.trans hbackoff) (ht.trans htimer) (hp.trans hpending)
  | stops ho hb ht => exact .stops (hout.trans ho) (hb.trans hbackoff) ht
  | starts hidle ho hb hp =>
      rw [hpending, htimer] at hidle
      rw [hbackoff] at ho hb
      exact .starts hidle (hout.trans ho) hb hp

section

variable [Qt F]

/-- A slot that does not reset the backoff. -/
theorem step_paces {e : ControllerEvent F} (h : c.step e = some (c', out))
    (he : e.resetsBackoff = false) : Paces c c' out := by
  cases e with
  | user call =>
      simp only [step, Option.some.injEq] at h
      -- A command of the user does not touch the timer.
      have hcmd : ∀ call' : WorkerCall F, c.cmd call' = (c', out) → Paces c c' out := by
        intro call' hcall
        have hpaces := cmd_paces call' c
        rwa [hcall] at hpaces
      cases call with
      | connectToServer host port => cases he
      | disconnectFromServer =>
          cases h
          exact .stops rfl rfl rfl
      | setAutoReconnect v =>
          cases h
          exact .keeps rfl rfl rfl rfl
      | cmdMode mode => exact hcmd _ h
      | cmdTaskGoto taskId x y => exact hcmd _ h
      | cmdTaskSimple type => exact hcmd _ h
      | cmdEstop reason => exact hcmd _ h
      | cmdReset => exact hcmd _ h
  | signal s =>
      simp only [step, Option.some.injEq] at h
      cases s with
      | connected =>
          cases h
          exact .stops rfl rfl rfl
      | disconnected =>
          -- The record is reset first, and then the timer is scheduled.
          have hpaces := scheduleReconnect_paces
            { ((({ c with helloOkSession := false }).setConnecting
            false).setConnected false).resetRemote with nodes := [] }
          obtain ⟨rfl, rfl⟩ := Prod.mk.inj h
          exact hpaces.congr rfl rfl rfl rfl
      | helloAck info =>
          obtain ⟨d, hbackoff, htimer, hpending, heq⟩ := onHelloAck_rejected_eq he c
          obtain ⟨rfl, rfl⟩ := Prod.mk.inj (heq.symm.trans h)
          exact (scheduleReconnect_paces d).congr hbackoff htimer hpending rfl
      | _ =>
          cases h
          exact .keeps rfl rfl rfl rfl
  | timer =>
      simp only [step] at h
      split at h
      · have hpaces := onReconnectTimer_paces c
        rwa [Option.some.inj h] at hpaces
      · cases h

/-- A slot that resets the backoff stops the timer, and starts none. -/
theorem step_resets {e : ControllerEvent F} (h : c.step e = some (c', out))
    (he : e.resetsBackoff = true) :
    c'.backoffS = 1 ∧ c'.reconnectTimer = none ∧ started out = [] := by
  cases e with
  | user call =>
      cases call with
      | connectToServer host port =>
          simp only [step, onCall, connectToServer, Option.some.injEq] at h
          split at h <;> (cases h; exact ⟨rfl, rfl, rfl⟩)
      | _ => cases he
  | signal s =>
      cases s with
      | helloAck info =>
          have hok : info.ok = true := he
          simp only [step, onSignal, onHelloAck, Option.some.injEq] at h
          rw [if_neg (by simp [hok])] at h
          cases h
          exact ⟨rfl, rfl, rfl⟩
      | _ => cases he
  | timer => cases he

/-- A failure while the timer runs changes neither the timer nor the backoff, and starts none. -/
theorem step_waiting {e : ControllerEvent F} (h : c.step e = some (c', out))
    (he : e.isFailure = true) (hpending : c.reconnectPending = true)
    (htimer : c.reconnectTimer.isSome = true) :
    c'.reconnectTimer = c.reconnectTimer ∧ c'.backoffS = c.backoffS := by
  cases e with
  | signal s =>
      simp only [step, Option.some.injEq] at h
      cases s with
      | disconnected =>
          have hsame := scheduleReconnect_waiting (c := { ((({ c with
            helloOkSession := false }).setConnecting false).setConnected false).resetRemote with
              nodes := [] }) hpending htimer
          obtain ⟨rfl, -⟩ := Prod.mk.inj (hsame.symm.trans h)
          exact ⟨rfl, rfl⟩
      | errorOccurred message =>
          cases h
          exact ⟨rfl, rfl⟩
      | helloAck info =>
          have hno : info.ok = false := by simpa [ControllerEvent.isFailure] using he
          obtain ⟨d, hbackoff, ht, hp, heq⟩ := onHelloAck_rejected_eq hno c
          rw [scheduleReconnect_waiting (hp.trans hpending) (by rw [ht]; exact htimer)] at heq
          obtain ⟨rfl, -⟩ := Prod.mk.inj (heq.symm.trans h)
          exact ⟨ht, hbackoff⟩
      | _ => cases he
  | _ => cases he

/-! ### A run -/

/-- The starts since the last reset double up to the limit, the backoff is the next one, and a timer
that runs is pending. -/
structure Paced (h : History F) (c : Controller F) : Prop where
  doubled : starts h = (List.range (starts h).length).map fun i => min (2 ^ i) 10 * 1000
  next : c.backoffS = min (2 ^ (starts h).length) 10
  pending : c.reconnectTimer.isSome = true → c.reconnectPending = true

omit [CDouble F] [Qt F] in
/-- The delays of a run, one event longer. -/
theorem starts_snoc (h : History F) (x : ControllerEvent F × List (UiOutput F)) :
    starts (h ++ [x]) = startsAfter (starts h) x := by
  rw [starts, List.foldl_append]
  rfl

/-- A step keeps the pace: the attempts count the delays since the last success. -/
theorem Paced.step {h : History F} {e : ControllerEvent F} (hc : Paced h c)
    (hstep : c.step e = some (c', out)) : Paced (h ++ [(e, out)]) c' := by
  cases he : e.resetsBackoff with
  | true =>
      -- A success sets the delay back and stops the timer.
      obtain ⟨hbackoff, htimer, hout⟩ := step_resets hstep he
      have hstarts : starts (h ++ [(e, out)]) = [] := by
        rw [starts_snoc, startsAfter, if_pos he]
      refine ⟨by rw [hstarts]; rfl, by rw [hstarts]; exact hbackoff, fun ht => ?_⟩
      rw [htimer] at ht
      cases ht
  | false =>
      have hstarts : starts (h ++ [(e, out)]) = starts h ++ started out := by
        rw [starts_snoc, startsAfter, if_neg (by simp [he])]
      cases step_paces hstep he with
      | keeps hout hbackoff htimer hpending =>
          rw [hout, List.append_nil] at hstarts
          refine ⟨by rw [hstarts]; exact hc.doubled, by rw [hstarts, hbackoff, hc.next], ?_⟩
          rw [htimer, hpending]
          exact hc.pending
      | stops hout hbackoff htimer =>
          rw [hout, List.append_nil] at hstarts
          refine ⟨by rw [hstarts]; exact hc.doubled, by rw [hstarts, hbackoff, hc.next],
            fun ht => ?_⟩
          rw [htimer] at ht
          cases ht
      | starts hidle hout hbackoff hpending =>
          -- One more delay: the double of the last, up to ten seconds.
          have hlength : (starts (h ++ [(e, out)])).length = (starts h).length + 1 := by
            rw [hstarts, hout, List.length_append]
            rfl
          refine ⟨?_, ?_, fun _ => hpending⟩
          · rw [hlength, List.range_succ, List.map_append, ← hc.doubled, hstarts, hout, hc.next]
            rfl
          · rw [hlength, hbackoff, hc.next, Nat.pow_succ]
            omega

/-- So every run keeps it. -/
theorem Runs.paced {h : History F} (hrun : Runs h c) : Paced h c := by
  refine hrun.invariant_history ⟨rfl, rfl, fun ht => ?_⟩ fun h c e c' out hc _ hstep =>
    hc.step hstep
  cases ht

/-- **The pace of the reconnects.** The `i`-th start of the timer since the last reset waits
`min (2 ^ i) 10` seconds, counted from 0. While the timer runs nothing starts it, and a failure
changes neither its deadline nor the backoff. -/
theorem reconnect_backoff {h : History F} (hrun : Runs h c) :
    (∀ i (hi : i < (starts h).length), (starts h)[i] = min (2 ^ i) 10 * 1000) ∧
      (c.reconnectTimer.isSome = true → ∀ e c' out, c.step e = some (c', out) →
        (∀ ms, .startTimer ms ∉ out) ∧
          (e.isFailure = true →
            c'.reconnectTimer = c.reconnectTimer ∧ c'.backoffS = c.backoffS)) := by
  have hpaced := Runs.paced hrun
  refine ⟨fun i hi => ?_, fun htimer e c' out hstep => ⟨fun ms hms => ?_, fun he => ?_⟩⟩
  · have hget := congrArg (fun l => l[i]?) hpaced.doubled
    simp only [List.getElem?_map, List.getElem?_range hi, Option.map_some,
      List.getElem?_eq_getElem hi, Option.some.injEq] at hget
    exact hget
  · have hmem : ms ∈ started out := List.mem_filterMap.mpr ⟨_, hms, rfl⟩
    cases he : e.resetsBackoff with
    | true =>
        rw [(step_resets hstep he).2.2] at hmem
        cases hmem
    | false =>
        cases step_paces hstep he with
        | keeps hout _ _ _ | stops hout _ _ =>
            rw [hout] at hmem
            cases hmem
        | starts hidle _ _ _ => exact hidle ⟨hpaced.pending htimer, htimer⟩
  · exact step_waiting hstep he (hpaced.pending htimer) htimer

end

/-- The connection is lost again and again. Every attempt ends in an error and in a rejected HELLO,
which both come before the timer runs out. -/
def flappingRun : History ℚ × Controller ℚ :=
  (exec step anyStep {} (.user (.connectToServer (ascii "h") 1) ::
    (List.replicate 6 ([.signal .connected, .signal .disconnected,
      .signal (.helloAck ⟨false, [], [], ascii "busy"⟩), .timer])).flatten ++
      [.signal .disconnected])).get (by decide +kernel)

/-- A console that fails seven times in a row. -/
theorem reconnect_backoff_flapping :
    (∀ i (hi : i < (starts flappingRun.1).length),
        (starts flappingRun.1)[i] = min (2 ^ i) 10 * 1000) ∧
      starts flappingRun.1 = [1000, 2000, 4000, 8000, 10000, 10000, 10000] :=
  ⟨(reconnect_backoff (Run.of_exec (Option.some_get _).symm)).1, by decide +kernel⟩

end BotCockpit.Ui.Controller
