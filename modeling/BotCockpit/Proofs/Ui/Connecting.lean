import BotCockpit.Proofs.Ui.Slots

/-!
# `BotCockpit.Proofs.Ui.Connecting`: the flags do not outlive the connection

`connecting` and `connected` are raised by the controller and lowered by its reactions to the
worker. `Accounted` is the invariant: a flag that is set is accounted for by the socket, by a
`startWorker` that is queued, or by a signal in the queue that will lower it. `Debts` supplies the
case in which the flag is raised late, by a signal of a connection that is gone.

One way of ending an attempt produces no signal: `stopWorker` aborts a connecting socket. After
`disconnectFromServer` during an attempt, `connecting` stays set, and from then on every
`connectToServer` returns early (`stuck_connecting`).
-/

set_option autoImplicit false

namespace BotCockpit.Ui.Console

open BotCockpit.Lib
open BotCockpit.Ui.Controller

variable {F : Type} [CDouble F]

/-- What lowers the flags is queued, or what starts the worker is. -/
def clearsQueued (s : Console F) : Bool :=
  startQueued s.toWorker || disconnectedQueued s.toUi || errorQueued s.toUi

/-- A flag that is set is accounted for. -/
def Accounted (s : Console F) : Prop :=
  s.ui.flags.shows = true → s.worker.socket ≠ .unconnected ∨ s.clearsQueued = true

/-- A slot of the worker that leaves no flag behind keeps the flags accounted for. -/
theorem accounted_moves {s : Console F} {w : SocketWorker} {out : List WorkerSignal}
    {toWorker : List (WorkerCall F)} (hmoves : SocketWorker.Moves s.worker w out)
    (haccounted : Accounted s)
    (hcalls : startQueued s.toWorker = true → startQueued toWorker = true ∨ w.socket ≠ .unconnected)
    (haborts : s.worker.socket = .connecting → w.socket = .unconnected → s.ui.flags.shows = true →
      startQueued toWorker = true ∨ disconnectedQueued (s.toUi ++ out) = true ∨
        errorQueued (s.toUi ++ out) = true) :
    Accounted { s with worker := w, toWorker := toWorker, toUi := s.toUi ++ out } := by
  intro hshows
  by_cases hlive : w.socket = .unconnected
  · refine Or.inr ?_
    simp only [clearsQueued, Bool.or_eq_true, or_assoc]
    have hkept : s.clearsQueued = true → startQueued toWorker = true ∨
        disconnectedQueued (s.toUi ++ out) = true ∨ errorQueued (s.toUi ++ out) = true := by
      intro hclears
      simp only [clearsQueued, Bool.or_eq_true, or_assoc] at hclears
      simp only [disconnectedQueued_append, errorQueued_append, Bool.or_eq_true]
      rcases hclears with hstart | hdisconnected | herror
      · exact Or.inl ((hcalls hstart).resolve_right (not_not.mpr hlive))
      · exact Or.inr (Or.inl (Or.inl hdisconnected))
      · exact Or.inr (Or.inr (Or.inl herror))
    rcases haccounted hshows with hsocket | hclears
    · cases hw : s.worker.socket with
      | unconnected => exact absurd hw hsocket
      | connecting => exact haborts hw hlive hshows
      | connected =>
          have hout := disconnectedQueued_moves hmoves hw hlive
          exact Or.inr (Or.inl (by simp [hout]))
    · exact hkept hclears
  · exact Or.inl hlive

section Steps

variable [Qt F] {s t : Console F} {e : Event F} {o : List (Obs F)}

/-- A console that is connecting stays accounted for over a step. -/
theorem accounted_step (hdebts : Debts s) (haccounted : Accounted s)
    (hguard : strands s e = false) (h : s.step e = some (t, o)) : Accounted t := by
  -- What is queued for the worker stays queued when the user thread runs.
  have hmore : ∀ r : Controller F × List (UiOutput F),
      (r.1.flags.shows = true → s.ui.flags.shows = true) → Accounted (s.afterUi r).1 := by
    intro r hflags hshows
    refine (haccounted (hflags hshows)).imp id fun hclears => ?_
    simp only [clearsQueued, afterUi_toWorker, afterUi_toUi, startQueued_append,
      Bool.or_eq_true] at hclears ⊢
    exact hclears.imp (Or.imp Or.inl id) id
  cases slot_of_step h with
  | user call =>
      cases hlink : (Event.user call).isLinkCall with
      | false => exact hmore _ fun hshows => by rwa [(s.ui.onCall_command hlink).1] at hshows
      | true =>
          cases call with
          | connectToServer host port =>
              obtain ⟨hflags, hout⟩ := connectToServer_eq s.ui host port
              cases hshows : s.ui.flags.shows with
              | true => exact hmore _ fun _ => hshows
              | false =>
                  exact fun _ => Or.inr (by simp [clearsQueued, Controller.onCall, hout, hshows,
                    UiOutput.call?, startQueued])
          | disconnectFromServer => exact hmore _ id
          | setAutoReconnect v => exact hmore _ id
          | _ => cases hlink
  | timer _ =>
      -- The timer's slot either does nothing or starts the worker.
      obtain ⟨hflags, hout⟩ := onReconnectTimer_eq s.ui
      by_cases hstays : s.ui.flags.manual = true ∨ s.ui.flags.connected = true
      · refine hmore _ fun hshows => ?_
        rw [hflags, if_pos hstays] at hshows
        exact hshows
      · exact fun _ => Or.inr (by simp [clearsQueued, hout, hstays, UiOutput.call?, startQueued])
  | @deliver signal rest hqueue =>
      -- A signal that raises a flag finds its socket still there, or the loss of it queued.
      have hraised : signal.raises → Accounted (afterUi { s with toUi := rest }
          (s.ui.onSignal signal)).1 := by
        intro hraises _
        rcases hdebts.of_raises hqueue hraises with hsocket | hqueued
        · exact Or.inl (by simp [hsocket])
        · exact Or.inr (by simp [clearsQueued, hqueued])
      by_cases hplain : signal.isPlain = true
      · intro hshows
        rw [afterUi_ui, (s.ui.onSignal_plain hplain).1] at hshows
        refine (haccounted hshows).imp id fun hclears => ?_
        simp only [clearsQueued, hqueue, queued_plain hplain] at hclears
        simpa [clearsQueued, (s.ui.onSignal_plain hplain).2, startQueued] using hclears
      cases signal with
      | connected => exact hraised trivial
      | disconnected => exact fun hshows => by simp [Controller.onSignal, Flags.shows] at hshows
      | errorOccurred message => exact fun hshows => by cases hshows
      | helloAck info => exact hraised trivial
      | _ => exact absurd rfl hplain
  | @take now call rest hqueue =>
      -- A stop taken while connecting: the guard asks that something behind it clears the flag.
      refine accounted_moves (s := s) (SocketWorker.onCall_moves now s.worker call) haccounted
        (fun hstart => ?_) fun hconnecting hclosed hshows => ?_
      · rw [hqueue] at hstart
        exact startQueued_take hstart
      · obtain rfl := stopWorker_of_aborts hconnecting hclosed
        have hshows' : s.showsLink = true := hshows
        simp only [strands, hqueue, hconnecting, hshows', decide_true, Bool.and_self,
          Bool.true_and, Bool.and_eq_false_iff, Bool.not_eq_false'] at hguard
        simp only [disconnectedQueued_append, errorQueued_append, Bool.or_eq_true]
        rcases hguard with (hstart | hdisconnected) | herror
        · exact Or.inl hstart
        · exact Or.inr (Or.inl (Or.inl hdisconnected))
        · exact Or.inr (Or.inr (Or.inl herror))
  | @socket now event r hevent =>
      refine accounted_moves (s := s) (SocketWorker.onEvent_moves hevent) haccounted Or.inl ?_
      intro hconnecting hclosed _
      -- An attempt that fails says so.
      obtain ⟨message, rfl⟩ := SocketWorker.onEvent_failed hevent hconnecting hclosed
      simp only [SocketWorker.onEvent, if_pos hconnecting, Option.some.injEq] at hevent
      have hout : errorQueued (signals r.2) = true := by
        rw [← hevent, (SocketWorker.failAndClose_eq message _).2]
        rfl
      exact Or.inr (Or.inr (by simp [hout]))

/-- **The console never gets stuck in connecting**, in every run in which `stopWorker` aborts no
attempt that the flags still show with nothing queued that lowers them. -/
theorem not_stuck {h : History F} (hrun : Runs (fun s e => strands s e = false) h s) :
    NotStuck s := by
  have hinv : Debts s ∧ Accounted s := by
    refine hrun.invariant (P := fun s => Debts s ∧ Accounted s) ?_ ?_
    · exact ⟨debts_init, fun hshows => by cases hshows⟩
    · intro s e t o hinv hguard hstep
      exact ⟨debts_step hinv.1 hstep, accounted_step hinv.1 hinv.2 hguard hstep⟩
  rintro ⟨htoWorker, htoUi, hsocket⟩
  have hshows : s.ui.flags.shows = false := by
    rw [Bool.eq_false_iff]
    intro hshows
    rcases hinv.2 hshows with hlive | hclears
    · exact hlive hsocket
    · simp [clearsQueued, htoWorker, htoUi, startQueued, disconnectedQueued, errorQueued] at hclears
  have hflags := hshows
  simp only [Flags.shows, Bool.or_eq_false_iff] at hflags
  refine ⟨hflags.1, hflags.2, fun host port => ?_⟩
  rw [(connectToServer_eq s.ui host port).2, hshows, if_neg (by simp)]

end Steps

/-- An attempt that is refused. -/
def refusedAttemptRun : History ℚ × Console ℚ :=
  (exec step (fun s e => strands s e = false) init
    [Event.user (.connectToServer (ascii "h") 1), .take 5, .socket 6 (.failed (ascii "refused")),
      .deliver]).get (by decide +kernel)

/-- An attempt that is refused ends. -/
theorem not_stuck_refused :
    NotStuck refusedAttemptRun.2 ∧ refusedAttemptRun.2.toUi.length = 0 ∧
      refusedAttemptRun.2.worker.socket = .unconnected :=
  ⟨not_stuck (Run.of_exec (Option.some_get _).symm), by decide +kernel, by decide +kernel⟩

/-- The user disconnects while the socket is connecting. -/
def abortedRun : History ℚ × Console ℚ :=
  (exec step anyStep init
    [Event.user (.connectToServer (ascii "h") 1), .take 5, .user .disconnectFromServer,
      .take 6]).get (by decide +kernel)

/-- Without the condition a console can go on connecting for ever. -/
theorem stuck_connecting :
    ¬∀ (h : History ℚ) (s : Console ℚ), Runs anyStep h s → NotStuck s := by
  intro hall
  have hrun : Runs anyStep abortedRun.1 abortedRun.2 := Run.of_exec (Option.some_get _).symm
  have htoWorker : abortedRun.2.toWorker.length = 0 := by decide +kernel
  have htoUi : abortedRun.2.toUi.length = 0 := by decide +kernel
  have hsettled : Settled abortedRun.2 :=
    ⟨List.length_eq_zero_iff.mp htoWorker, List.length_eq_zero_iff.mp htoUi, by decide +kernel⟩
  have hconnecting := (hall _ _ hrun hsettled).1
  exact absurd hconnecting (by decide +kernel)

end BotCockpit.Ui.Console
