import BotCockpit.Proofs.Ui.Reconnect

/-!
# `BotCockpit.Proofs.Ui.Endpoint`: where the console connects to

The controller remembers an endpoint for the reconnect timer. `remembers_of_runs` says that it is
the one last asked for, as long as no `connectToServer` returns early with another endpoint: such a
call leaves the old one, and the reconnect that follows goes there (`reconnects_to_old`).
-/

set_option autoImplicit false

namespace BotCockpit.Ui.Console

open BotCockpit.Lib
open BotCockpit.Ui.Controller

section Steps

variable {F : Type} [CDouble F]

/-- The endpoint last asked for, one event longer. -/
theorem asked_snoc (h : History F) (x : Event F × List (Obs F)) :
    asked (h ++ [x]) = askedAfter (asked h) x.1 := by
  simp [asked, List.foldl_append]

variable [Qt F] {s t : Console F} {e : Event F} {o : List (Obs F)}

/-- A slot starts the worker at the endpoint that is remembered after it. -/
theorem starts_remembered (h : s.step e = some (t, o)) {host : Bytes} {port : Int}
    (hstart : .emitted (.startWorker host port) ∈ o) :
    (t.ui.flags.host, t.ui.flags.port) = (host, port) := by
  -- What a slot of the user thread emits is one of its outputs.
  have hemits : ∀ (c : Console F) (r : Controller F × List (UiOutput F)),
      .emitted (.startWorker host port) ∈ (c.afterUi r).2 →
        .emit (.startWorker host port) ∈ r.2 := by
    intro c r hmem
    obtain ⟨out, hout, hobs⟩ := List.mem_map.mp hmem
    cases out with
    | emit call =>
        simp only [UiOutput.obs, Obs.emitted.injEq] at hobs
        rwa [hobs] at hout
    | startTimer ms => cases hobs
  have hcalls : ∀ out : List (UiOutput F), .emit (.startWorker host port) ∈ out →
      .startWorker host port ∈ calls out := fun out hmem =>
    List.mem_filterMap.mpr ⟨_, hmem, rfl⟩
  cases slot_of_step h with
  | user call =>
      have hmem := hemits _ _ hstart
      cases hlink : (Event.user call).isLinkCall with
      | false =>
          rcases (s.ui.onCall_command hlink).2 with hout | ⟨-, cmd, hcmd, hout⟩
          · simp [hout] at hmem
          · simp only [hout, List.mem_singleton, UiOutput.emit.injEq] at hmem
            rw [← hmem] at hcmd
            cases hcmd
      | true =>
          cases call with
          | connectToServer host' port' =>
              obtain ⟨hflags, hout⟩ := connectToServer_eq s.ui host' port'
              rw [Controller.onCall, hout] at hmem
              cases hshows : s.ui.flags.shows with
              | true => simp [hshows] at hmem
              | false =>
                  simp only [hshows, Bool.false_eq_true, if_false, List.mem_singleton,
                    UiOutput.emit.injEq, WorkerCall.startWorker.injEq] at hmem
                  simp only [afterUi_ui, Controller.onCall, hflags, hshows, Bool.false_eq_true,
                    if_false, hmem]
          | disconnectFromServer => simp [Controller.onCall, disconnectFromServer] at hmem
          | setAutoReconnect v => simp [Controller.onCall] at hmem
          | _ => cases hlink
  | timer _ =>
      have hmem := hemits _ _ hstart
      obtain ⟨hflags, hout⟩ := onReconnectTimer_eq s.ui
      rw [hout] at hmem
      rw [afterUi_ui, hflags]
      by_cases hstays : s.ui.flags.manual = true ∨ s.ui.flags.connected = true
      · simp [hstays] at hmem
      · simp only [if_neg hstays, List.mem_singleton, UiOutput.emit.injEq,
          WorkerCall.startWorker.injEq] at hmem ⊢
        rw [hmem.1, hmem.2]
  | @deliver signal rest _ =>
      have hmem := hemits _ _ hstart
      by_cases hplain : signal.isPlain = true
      · simp [(s.ui.onSignal_plain hplain).2] at hmem
      cases signal with
      | connected => simp [Controller.onSignal] at hmem
      | disconnected => simpa [Controller.onSignal] using hcalls _ hmem
      | errorOccurred message => simp [Controller.onSignal] at hmem
      | helloAck info =>
          cases hok : info.ok with
          | true => simp [Controller.onSignal, (onHelloAck_welcome hok s.ui).2] at hmem
          | false =>
              simpa [Controller.onSignal, (onHelloAck_rejected hok s.ui).2] using hcalls _ hmem
      | _ => exact absurd rfl hplain
  | take _ =>
      obtain ⟨out, -, hobs⟩ := List.mem_map.mp hstart
      cases out <;> cases hobs
  | socket _ =>
      obtain ⟨out, -, hobs⟩ := List.mem_map.mp hstart
      cases out <;> cases hobs

/-- **One step keeps the endpoint last asked for**, when no call returns early with another one. -/
theorem remembers_step {endpoint : Option (Bytes × Int)}
    (hremembers : ∀ x, endpoint = some x → (s.ui.flags.host, s.ui.flags.port) = x)
    (hguard : keepsOldEndpoint s e = false) (h : s.step e = some (t, o)) :
    ∀ x, askedAfter endpoint e = some x → (t.ui.flags.host, t.ui.flags.port) = x := by
  intro x hasked
  cases hlink : e.isLinkCall with
  | false =>
      obtain ⟨-, hhost, hport, -⟩ := link_frame hlink h
      rw [hhost, hport]
      refine hremembers x ?_
      rw [← hasked]
      cases e with
      | user call => cases call <;> first | rfl | cases hlink
      | _ => rfl
  | true =>
      cases slot_of_step h with
      | user call =>
          cases call with
          | connectToServer host port =>
              obtain ⟨hflags, -⟩ := connectToServer_eq s.ui host port
              rw [afterUi_ui, Controller.onCall, hflags]
              have hnew : (host, port) = x := by simpa [askedAfter] using hasked
              cases hshows : s.ui.flags.shows with
              | false => exact hnew
              | true =>
                  -- The call returns early, and the guard says that the endpoint is the old one.
                  have hshows' : s.showsLink = true := hshows
                  simp only [keepsOldEndpoint, hshows', Bool.true_and, decide_eq_false_iff_not,
                    not_not] at hguard
                  exact hguard.symm.trans hnew
          | disconnectFromServer => cases hasked
          | setAutoReconnect v => exact hremembers x hasked
          | _ => cases hlink
      | _ => cases hlink

/-- In every run under the condition the controller holds the endpoint last asked for. -/
theorem remembers_of_runs {h : History F}
    (hrun : Runs (fun s e => keepsOldEndpoint s e = false) h s) :
    ∀ x, asked h = some x → (s.ui.flags.host, s.ui.flags.port) = x := by
  refine hrun.invariant_history (P := fun h (s : Console F) =>
    ∀ x, asked h = some x → (s.ui.flags.host, s.ui.flags.port) = x) ?_ ?_
  · intro x hasked
    cases hasked
  · intro h s e t o hremembers hguard hstep x hasked
    rw [asked_snoc] at hasked
    exact remembers_step hremembers hguard hstep x hasked

/-- **The console reconnects to the endpoint last asked for**, in every run in which
`connectToServer` is not called with another endpoint in a state in which it returns early. -/
theorem starts_asked {h : History F}
    (hrun : Runs (fun s e => keepsOldEndpoint s e = false) h s) : StartsAsked h := by
  intro pre x post hsplit host port hstart endpoint hasked
  have hprefix : pre ++ [x] <+: h := ⟨post, by rw [hsplit]; simp⟩
  obtain ⟨t, hpre⟩ := hrun.of_prefix hprefix
  obtain ⟨u, -, -, hstep⟩ := hpre.snoc_inv
  exact (starts_remembered hstep hstart).symm.trans (remembers_of_runs hpre endpoint hasked)

end Steps

/-- A session that the peer ends: the timer starts the worker again. -/
def restartedRun : History ℚ × Console ℚ :=
  (exec step (fun s e => keepsOldEndpoint s e = false) init
    [Event.user (.connectToServer (ascii "h") 1), .take 5, .socket 6 .connected,
      .socket 7 .closed, .deliver, .deliver, .reconnectTimer]).get (by decide +kernel)

/-- A connection that is lost is started again to the same endpoint. -/
theorem starts_asked_restarted :
    StartsAsked restartedRun.1 ∧ asked restartedRun.1 = some (ascii "h", 1) :=
  ⟨starts_asked (Run.of_exec (Option.some_get _).symm), by decide +kernel⟩

/-- The user disconnects and connects to another endpoint while the `disconnected` of the first
session is queued. -/
def movedRun : History ℚ × Console ℚ :=
  (exec step anyStep init
    [Event.user (.connectToServer (ascii "h") 1), .take 5, .socket 6 .connected, .deliver,
      .user .disconnectFromServer, .user (.connectToServer (ascii "g") 2), .take 7, .deliver,
      .reconnectTimer]).get (by decide +kernel)

/-- The run in which the user moves on is not empty. -/
theorem movedRun_ne_nil : movedRun.1 ≠ [] := by
  intro hnil
  have hlength : movedRun.1.length = 9 := by decide +kernel
  simp [hnil] at hlength

/-- Where the slot starts the worker. -/
def startsAt? {F : Type} : Obs F → Option (Bytes × Int)
  | .emitted (.startWorker host port) => some (host, port)
  | _ => none

/-- Without the condition the console reconnects to the old endpoint. -/
theorem reconnects_to_old :
    ¬∀ (h : History ℚ) (s : Console ℚ), Runs anyStep h s → StartsAsked h := by
  intro hall
  have hrun : Runs anyStep movedRun.1 movedRun.2 := Run.of_exec (Option.some_get _).symm
  -- The last entry is the timer, and its `startWorker` goes to the first endpoint.
  have hasked := hall _ _ hrun _ _ [] (List.dropLast_append_getLast movedRun_ne_nil).symm
    (ascii "h") 1 ?_ (ascii "g", 2) ?_
  · exact absurd hasked (by decide +kernel)
  · have hstarts : (movedRun.1.getLast movedRun_ne_nil).2.map startsAt? =
        [some (ascii "h", 1)] := by decide +kernel
    obtain ⟨x, hx, hat⟩ : ∃ x ∈ (movedRun.1.getLast movedRun_ne_nil).2,
        startsAt? x = some (ascii "h", 1) := by
      rw [← List.mem_map, hstarts]
      exact List.mem_singleton.mpr rfl
    cases x with
    | emitted call =>
        cases call with
        | startWorker host port =>
            simp only [startsAt?, Option.some.injEq, Prod.mk.injEq] at hat
            rwa [hat.1, hat.2] at hx
        | _ => cases hat
    | _ => cases hat
  · decide +kernel

end BotCockpit.Ui.Console
