import BotCockpit.Proofs.Ui.Slots

/-!
# `BotCockpit.Proofs.Ui.Reconnect`: when the console reconnects by itself

Two promises pull in opposite directions. A manual disconnect holds until the user connects again
(`StaysDisconnected`), and without one the console never gives up (`KeepsTrying`).

`manual_disconnect_` keeps the first promise, since both ways to reconnect test it. It is lost when
the rejection of a HELLO is handled after the call: `onHelloAck` clears it, also for a rejection
that was queued before the user disconnected (`reconnects_after_disconnect`).

The second promise rests on a signal that schedules: `disconnected`, or a rejection. A connection
attempt that fails has neither. `onError` leaves the timer to a `disconnected` that does not come,
so one refused connection ends the reconnecting (`gives_up`). `keeps_trying` says that nothing else
does: with every attempt that ends there must be something under way, and a `connectToServer` must
not rely on flags that nothing stands behind.
-/

set_option autoImplicit false

namespace BotCockpit.Ui.Console

open BotCockpit.Lib
open BotCockpit.Ui.Controller

variable {F : Type}

/-! ### Reconnects -/

/-- What the worker does is not a reconnect. -/
theorem isReconnect_obs (x : Output) : (Output.obs F x).isReconnect = false := by
  cases x <;> rfl

/-- A command is no reconnect. -/
theorem isReconnect_command {call : WorkerCall F} (h : call.isCommand = true) :
    (Obs.emitted call).isReconnect = false := by
  cases call <;> first | rfl | cases h

variable [CDouble F] {s t : Console F} {e : Event F} {o : List (Obs F)}

/-! ### What is under way -/

/-- Something is under way that ends in a connection or in the reconnect timer. -/
def UnderWay (s : Console F) : Prop :=
  s.ui.flags.timer = true ∨ s.worker.socket ≠ .unconnected ∨ s.retryQueued = true

/-- A slot of the worker that does not end an attempt keeps things under way. -/
theorem underWay_moves {w : SocketWorker} {out : List WorkerSignal} {toWorker : List (WorkerCall F)}
    (hmoves : SocketWorker.Moves s.worker w out) (hunder : UnderWay s)
    (hcalls : startQueued s.toWorker = true → startQueued toWorker = true ∨ w.socket ≠ .unconnected)
    (hends : s.worker.socket = .connecting → w.socket = .unconnected →
      s.ui.flags.timer = true ∨ s.retryQueued = true) :
    UnderWay { s with worker := w, toWorker := toWorker, toUi := s.toUi ++ out } := by
  by_cases hlive : w.socket = .unconnected
  · -- What is queued stays queued, and a connection that closes is queued now.
    have hkept : s.ui.flags.timer = true ∨ s.retryQueued = true ∨ s.worker.socket = .connected := by
      rcases hunder with htimer | hsocket | hretry
      · exact Or.inl htimer
      · cases hw : s.worker.socket with
        | unconnected => exact absurd hw hsocket
        | connecting => exact (hends hw hlive).imp id Or.inl
        | connected => exact Or.inr (Or.inr rfl)
      · exact Or.inr (Or.inl hretry)
    rcases hkept with htimer | hretry | hconnected
    · exact Or.inl htimer
    · refine Or.inr (Or.inr ?_)
      simp only [retryQueued, disconnectedQueued_append, Bool.or_eq_true] at hretry ⊢
      rcases hretry with hstart | hdisconnected
      · exact Or.inl ((hcalls hstart).resolve_right (not_not.mpr hlive))
      · exact Or.inr (Or.inl hdisconnected)
    · refine Or.inr (Or.inr ?_)
      have hout := disconnectedQueued_moves hmoves hconnected hlive
      simp only [retryQueued, disconnectedQueued_append, hout, Bool.or_true]
  · exact Or.inr (Or.inl hlive)

/-! ### A manual disconnect -/

variable [Qt F]

/-- The controller is off: the flag is set, and the timer does not run. -/
def Off (s : Console F) : Prop := s.ui.flags.manual = true ∧ s.ui.flags.timer = false

/-- **One step after a manual disconnect.** The controller stays off and reconnects nothing, unless
the user connects or the controller takes a stale rejection. -/
theorem off_step (hoff : Off s) (hconnect : e.isConnect = false)
    (hstale : staleRejection s e = false)
    (h : s.step e = some (t, o)) : Off t ∧ ∀ x ∈ o, x.isReconnect = false := by
  obtain ⟨hmanual, htimer⟩ := hoff
  cases slot_of_step h with
  | user call =>
      cases hlink : (Event.user call).isLinkCall with
      | false =>
          obtain ⟨hsame, hout⟩ := s.ui.onCall_command hlink
          refine ⟨⟨?_, ?_⟩, ?_⟩
          · rw [afterUi_ui, hsame, hmanual]
          · rw [afterUi_ui, hsame, htimer]
          · rcases hout with hout | ⟨-, cmd, hcmd, hout⟩
            · simp [hout]
            · simp [hout, UiOutput.obs, isReconnect_command hcmd]
      | true =>
          cases call with
          | connectToServer host port => cases hconnect
          | disconnectFromServer =>
              exact ⟨⟨rfl, rfl⟩, by simp [Controller.onCall, disconnectFromServer, UiOutput.obs,
                Obs.isReconnect]⟩
          | setAutoReconnect v => exact ⟨⟨hmanual, htimer⟩, by simp [Controller.onCall]⟩
          | _ => cases hlink
  -- The timer is not running.
  | timer hrunning => exact absurd hrunning (by simp [htimer])
  | @deliver signal rest hqueue =>
      by_cases hplain : signal.isPlain = true
      · obtain ⟨hflags, hout⟩ := s.ui.onSignal_plain hplain
        refine ⟨⟨?_, ?_⟩, ?_⟩
        · rw [afterUi_ui, hflags, hmanual]
        · rw [afterUi_ui, hflags, htimer]
        · simp [hout]
      cases signal with
      | connected => exact ⟨⟨hmanual, rfl⟩, by simp [Controller.onSignal]⟩
      | disconnected =>
          -- The user has ended the connection, so its loss schedules nothing.
          have hwants : s.ui.flags.wants = false := by simp [Flags.wants, hmanual]
          have hout : s.ui.onDisconnected.2 = [] := by
            rw [onDisconnected, scheduleReconnect_manual (by exact hmanual)]
          refine ⟨⟨?_, ?_⟩, ?_⟩
          · simp only [afterUi_ui, Controller.onSignal, flags_onDisconnected, hmanual]
          · simp only [afterUi_ui, Controller.onSignal, flags_onDisconnected, htimer, hwants,
              Bool.or_false]
          · simp [Controller.onSignal, hout]
      | helloAck info =>
          cases hok : info.ok with
          | false =>
              -- The rejection of an older connection is what the guard excludes.
              have hmanual' : s.ui.manualDisconnect = true := hmanual
              simp [staleRejection, hqueue, hok, hmanual'] at hstale
          | true =>
              obtain ⟨hflags, hout⟩ := onHelloAck_welcome hok s.ui
              refine ⟨⟨?_, ?_⟩, ?_⟩
              · simp only [afterUi_ui, Controller.onSignal, hflags, hmanual]
              · simp only [afterUi_ui, Controller.onSignal, hflags]
              · simp [Controller.onSignal, hout]
      | errorOccurred message => exact ⟨⟨hmanual, htimer⟩, by simp [Controller.onSignal]⟩
      | _ => exact absurd rfl hplain
  | take _ =>
      refine ⟨⟨hmanual, htimer⟩, ?_⟩
      simp [isReconnect_obs]
  | socket _ =>
      refine ⟨⟨hmanual, htimer⟩, ?_⟩
      simp [isReconnect_obs]

/-- After a manual disconnect, and until the user connects, the controller is off. -/
theorem off_of_runs {h : History F} (hrun : Runs (fun s e => staleRejection s e = false) h s)
    (hsince : Since (fun y => y.1.isDisconnect = true) (fun y => y.1.isConnect = false) h) :
    Off s := by
  revert hsince
  refine hrun.invariant_history (P := fun h s =>
    Since (fun y => y.1.isDisconnect = true) (fun y => y.1.isConnect = false) h → Off s) ?_ ?_
  · intro hsince
    obtain ⟨x, hx, -⟩ := hsince.exists_mem
    exact absurd hx List.not_mem_nil
  · intro h s e t o hoff hallow hstep hsince
    rcases since_snoc.mp hsince with hdisconnect | ⟨hsince, hconnect⟩
    · cases slot_of_step hstep with
      | user call =>
          cases call with
          | disconnectFromServer => exact ⟨rfl, rfl⟩
          | _ => cases hdisconnect
      | _ => cases hdisconnect
    · exact (off_step (hoff hsince) hconnect hallow hstep).1

/-- **A manual disconnect stays disconnected**, in every run in which the controller takes no
rejection of HELLO after it. -/
theorem stays_disconnected {h : History F}
    (hrun : Runs (fun s e => staleRejection s e = false) h s) : StaysDisconnected h := by
  intro pre x post hsplit hsince hconnect
  have hprefix : pre ++ [x] <+: h := ⟨post, by rw [hsplit]; simp⟩
  obtain ⟨t, hpre⟩ := hrun.of_prefix hprefix
  obtain ⟨u, hu, hallow, hstep⟩ := hpre.snoc_inv
  exact (off_step (off_of_runs hu hsince) hconnect hallow hstep).2

/-- A session that the user ends. -/
def endedRun : History ℚ × Console ℚ :=
  (exec step (fun s e => staleRejection s e = false) init
    [Event.user (.connectToServer (ascii "h") 1), .take 5, .socket 6 .connected, .deliver,
      .user .disconnectFromServer, .take 7, .deliver]).get (by decide +kernel)

/-- A connection that the user ends. -/
theorem stays_disconnected_ended :
    endedRun.2.ui.reconnectTimer = none ∧ StaysDisconnected endedRun.1 :=
  ⟨by decide +kernel, stays_disconnected (Run.of_exec (Option.some_get _).symm)⟩

/-- The frame of a HELLO_ACK. -/
def helloAckFrame (ok : String) : Bytes :=
  encodeFrame msgHelloAck 0 1 (ascii ("\x7b\"ok\":" ++ ok ++ "\x7d"))

/-- The rejection of a HELLO is queued when the user disconnects. It schedules a reconnect, and the
timer starts the worker. -/
def rejectedRun : History ℚ × Console ℚ :=
  (exec step anyStep init
    [Event.user (.connectToServer (ascii "h") 1), .take 5, .socket 6 .connected,
      .socket 7 (.readyRead (helloAckFrame "false")), .deliver, .user .disconnectFromServer,
        .deliver,
      .reconnectTimer]).get (by decide +kernel)

/-- The run with the late rejection is not empty. -/
theorem rejectedRun_ne_nil : rejectedRun.1 ≠ [] := by
  intro hnil
  have hlength : rejectedRun.1.length = 8 := by decide +kernel
  simp [hnil] at hlength

/-- Without the condition the console reconnects after the user ended it. -/
theorem reconnects_after_disconnect :
    ¬∀ (h : History ℚ) (s : Console ℚ), Runs anyStep h s → StaysDisconnected h := by
  intro hall
  have hrun : Runs anyStep rejectedRun.1 rejectedRun.2 := Run.of_exec (Option.some_get _).symm
  -- The last entry is the timer, and its `startWorker` comes after the manual disconnect.
  have hquiet := hall _ _ hrun _ _ [] (List.dropLast_append_getLast rejectedRun_ne_nil).symm
    (by decide +kernel) (by decide +kernel)
  have hstarts : (rejectedRun.1.getLast rejectedRun_ne_nil).2.any Obs.isReconnect = true := by
    decide +kernel
  obtain ⟨o, ho, hreconnect⟩ := List.any_eq_true.mp hstarts
  rw [hquiet o ho] at hreconnect
  cases hreconnect

/-! ### Reconnecting by itself -/

/-- While the timer runs, neither flag is set. -/
def TimerClear (s : Console F) : Prop := s.ui.flags.timer = true → s.ui.flags.shows = false

/-- The timer stays off where nothing starts it. -/
theorem timerClear_step (hclear : TimerClear s) (h : s.step e = some (t, o)) : TimerClear t := by
  cases slot_of_step h with
  | user call =>
      cases hlink : (Event.user call).isLinkCall with
      | false =>
          -- A rejection may schedule the timer, and it clears the flags before.
          rw [TimerClear, afterUi_ui, (s.ui.onCall_command hlink).1]
          exact hclear
      | true =>
          cases call with
          | connectToServer host port =>
              obtain ⟨hflags, -⟩ := connectToServer_eq s.ui host port
              rw [TimerClear, afterUi_ui, Controller.onCall, hflags]
              split <;> exact fun htimer => absurd htimer (by simp)
          | disconnectFromServer => exact fun htimer => absurd htimer (by simp [Controller.onCall])
          | setAutoReconnect v => exact hclear
          | _ => cases hlink
  | timer _ =>
      -- The timer has fired and is not running any more.
      rw [TimerClear, afterUi_ui, (onReconnectTimer_eq s.ui).1]
      split <;> exact fun htimer => absurd htimer (by simp)
  | @deliver signal rest _ =>
      by_cases hplain : signal.isPlain = true
      · rw [TimerClear, afterUi_ui, (s.ui.onSignal_plain hplain).1]
        exact hclear
      cases signal with
      | connected => exact fun htimer => absurd htimer (by simp [Controller.onSignal])
      | disconnected => exact fun _ => by simp [Controller.onSignal, Flags.shows]
      | errorOccurred message => exact fun _ => by simp [Controller.onSignal, Flags.shows]
      | helloAck info =>
          cases hok : info.ok with
          | true =>
              rw [TimerClear, afterUi_ui, Controller.onSignal, (onHelloAck_welcome hok s.ui).1]
              exact fun htimer => absurd htimer (by simp)
          | false =>
              rw [TimerClear, afterUi_ui, Controller.onSignal, (onHelloAck_rejected hok s.ui).1]
              exact fun _ => rfl
      | _ => exact absurd rfl hplain
  | take _ => exact hclear
  | socket _ => exact hclear

/-- A step other than a call about the connection leaves the option and the host alone, and does
not set the manual flag. -/
theorem link_frame (hlink : e.isLinkCall = false) (h : s.step e = some (t, o)) :
    t.ui.flags.auto = s.ui.flags.auto ∧ t.ui.flags.host = s.ui.flags.host ∧
      t.ui.flags.port = s.ui.flags.port ∧
      (s.ui.flags.manual = false → t.ui.flags.manual = false) := by
  cases slot_of_step h with
  | user call =>
      rw [afterUi_ui, (s.ui.onCall_command hlink).1]
      exact ⟨rfl, rfl, rfl, id⟩
  | timer _ =>
      rw [afterUi_ui, (onReconnectTimer_eq s.ui).1]
      split <;> exact ⟨rfl, rfl, rfl, id⟩
  | @deliver signal rest _ =>
      by_cases hplain : signal.isPlain = true
      · rw [afterUi_ui, (s.ui.onSignal_plain hplain).1]
        exact ⟨rfl, rfl, rfl, id⟩
      cases signal with
      | connected => exact ⟨rfl, rfl, rfl, id⟩
      | disconnected =>
          rw [afterUi_ui, Controller.onSignal, flags_onDisconnected]
          exact ⟨rfl, rfl, rfl, id⟩
      | errorOccurred message => exact ⟨rfl, rfl, rfl, id⟩
      | helloAck info =>
          cases hok : info.ok with
          | true =>
              rw [afterUi_ui, Controller.onSignal, (onHelloAck_welcome hok s.ui).1]
              exact ⟨rfl, rfl, rfl, id⟩
          | false =>
              rw [afterUi_ui, Controller.onSignal, (onHelloAck_rejected hok s.ui).1]
              exact ⟨rfl, rfl, rfl, fun _ => rfl⟩
      | _ => exact absurd rfl hplain
  | take _ => exact ⟨rfl, rfl, rfl, id⟩
  | socket _ => exact ⟨rfl, rfl, rfl, id⟩

/-- **One step while a connection is wanted.** Something stays under way, unless the step ends the
last attempt. -/
theorem underWay_step (hdebts : Debts s) (hclear : TimerClear s) (hwants : s.wantsReconnect = true)
    (hunder : UnderWay s) (hlink : e.isLinkCall = false) (hguard : givesUp s e = false)
    (h : s.step e = some (t, o)) : UnderWay t := by
  have hmanual : s.ui.flags.manual = false := by
    simp only [wantsReconnect, Bool.and_eq_true, Bool.not_eq_true'] at hwants
    exact hwants.1.1
  cases slot_of_step h with
  | user call =>
      obtain ⟨hsame, -⟩ := s.ui.onCall_command hlink
      rcases hunder with htimer | hsocket | hretry
      · exact Or.inl (by rw [afterUi_ui, hsame, htimer])
      · exact Or.inr (Or.inl hsocket)
      · refine Or.inr (Or.inr ?_)
        simp only [retryQueued, afterUi_toWorker, afterUi_toUi, startQueued_append,
          Bool.or_eq_true] at hretry ⊢
        exact hretry.imp Or.inl id
  | timer htimer =>
      -- The timer starts the worker.
      have hshows := hclear htimer
      have hconnected : s.ui.flags.connected = false := by
        simp only [Flags.shows, Bool.or_eq_false_iff] at hshows
        exact hshows.2
      refine Or.inr (Or.inr ?_)
      simp [retryQueued, (onReconnectTimer_eq s.ui).2, hmanual, hconnected, UiOutput.call?,
        startQueued]
  | @deliver signal rest hqueue =>
      -- A signal that raises a flag finds its socket still there, or the loss of it queued.
      have hraised : signal.raises → UnderWay (afterUi { s with toUi := rest }
          (s.ui.onSignal signal)).1 := by
        intro hraises
        rcases hdebts.of_raises hqueue hraises with hsocket | hqueued
        · exact Or.inr (Or.inl (by simp [hsocket]))
        · exact Or.inr (Or.inr (by simp [retryQueued, hqueued]))
      have hscheduled : s.ui.flags.wants = true := hwants
      -- A signal that is no `disconnected` is taken from the queue without loss.
      have hkept : signal ≠ .disconnected → (s.ui.onSignal signal).1.flags.timer =
          s.ui.flags.timer →
            UnderWay (afterUi { s with toUi := rest } (s.ui.onSignal signal)).1 := by
        intro hne htimer
        rcases hunder with hrunning | hsocket | hretry
        · exact Or.inl (by rw [afterUi_ui, htimer, hrunning])
        · exact Or.inr (Or.inl hsocket)
        · refine Or.inr (Or.inr ?_)
          simp only [retryQueued, hqueue, Bool.or_eq_true] at hretry
          simp only [retryQueued, afterUi_toWorker, afterUi_toUi, startQueued_append,
            Bool.or_eq_true]
          refine hretry.imp Or.inl fun hdisconnected => ?_
          cases signal <;> first | exact hdisconnected | exact absurd rfl hne
      by_cases hplain : signal.isPlain = true
      · refine hkept ?_ (by rw [(s.ui.onSignal_plain hplain).1])
        rintro rfl
        cases hplain
      cases signal with
      | connected => exact hraised trivial
      | disconnected => exact Or.inl (by simp [Controller.onSignal, hscheduled])
      | errorOccurred message => exact hkept (by simp) rfl
      | helloAck info => exact hraised trivial
      | _ => exact absurd rfl hplain
  | @take now call rest hqueue =>
      -- Only a stop of the worker closes a socket that is connecting, and the guard speaks of it.
      have hmoves := SocketWorker.onCall_moves now s.worker call
      refine underWay_moves (s := s) hmoves hunder (fun hstart => ?_) fun hconnecting hclosed => ?_
      · rw [hqueue] at hstart
        exact startQueued_take hstart
      · obtain rfl := stopWorker_of_aborts hconnecting hclosed
        have hends : endsAttempt s (.take now) = true := by
          simp [endsAttempt, hqueue, hconnecting]
        simp only [givesUp, hends, hwants, Bool.and_self, Bool.true_and, Bool.and_eq_false_iff,
          Bool.not_eq_false'] at hguard
        exact hguard
  | @socket now event r hevent =>
      -- Only a failed attempt does so among the events of the socket.
      refine underWay_moves (s := s) (SocketWorker.onEvent_moves hevent) hunder Or.inl ?_
      intro hconnecting hclosed
      obtain ⟨message, rfl⟩ := SocketWorker.onEvent_failed hevent hconnecting hclosed
      have hends : endsAttempt s (.socket now (.failed message)) = true := by
        simp [endsAttempt, hconnecting]
      simp only [givesUp, hends, hwants, Bool.and_self, Bool.true_and, Bool.and_eq_false_iff,
        Bool.not_eq_false'] at hguard
      exact hguard

/-- The steps under which the console keeps trying: no attempt ends with nothing under way, and no
`connectToServer` is ignored with nothing under way. -/
def Sustained (s : Console F) (e : Event F) : Prop := givesUp s e = false ∧ ignoresCall s e = false

instance (s : Console F) (e : Event F) : Decidable (Sustained s e) := instDecidableAnd

/-- While the user wants a connection, something is under way. The invariant of `keeps_trying`. -/
structure Trying (h : History F) (s : Console F) : Prop where
  debts : Debts s
  clear : TimerClear s
  automatic : AskedToConnect h → s.ui.flags.manual = false
  underWay : AskedToConnect h → s.wantsReconnect = true → UnderWay s

/-- A step keeps the console trying under the condition. -/
theorem trying_step {h : History F} (htry : Trying h s) (hguard : Sustained s e)
    (hstep : s.step e = some (t, o)) : Trying (h ++ [(e, o)]) t := by
  have hasked : AskedToConnect (h ++ [(e, o)]) ↔
      e.isConnect = true ∨ AskedToConnect h ∧ e.isLinkCall = false := since_snoc
  refine ⟨debts_step htry.debts hstep, timerClear_step htry.clear hstep, fun hnew => ?_,
    fun hnew hwants => ?_⟩
  · rcases hasked.mp hnew with hconnect | ⟨hold, hlink⟩
    · cases slot_of_step hstep with
      | user call =>
          cases call with
          | connectToServer host port =>
              rw [afterUi_ui, Controller.onCall, (connectToServer_eq s.ui host port).1]
              split <;> rfl
          | _ => cases hconnect
      | _ => cases hconnect
    · exact (link_frame hlink hstep).2.2.2 (htry.automatic hold)
  · rcases hasked.mp hnew with hconnect | ⟨hold, hlink⟩
    · cases slot_of_step hstep with
      | user call =>
          cases call with
          | connectToServer host port =>
              obtain ⟨hflags, hout⟩ := connectToServer_eq s.ui host port
              cases hshows : s.ui.flags.shows with
              | false =>
                  refine Or.inr (Or.inr ?_)
                  simp [retryQueued, Controller.onCall, hout, hshows, UiOutput.call?, startQueued]
              | true =>
                  -- The call returns early, so the guard says what is under way.
                  have hignored := hguard.2
                  have hkept : s.ui.flags.auto = true ∧ s.ui.flags.host ≠ [] := by
                    have hw : (s.ui.connectToServer host port).1.flags.wants = true := hwants
                    rw [hflags, if_pos hshows] at hw
                    simpa [Flags.wants] using hw
                  have hshows' : s.showsLink = true := hshows
                  have hauto : s.ui.link.autoReconnect = true := hkept.1
                  have hhost : s.ui.lastHost ≠ [] := hkept.2
                  simp only [ignoresCall, Event.isConnect, hshows', hauto, hhost, Bool.true_and,
                    ne_eq, not_false_eq_true, decide_true, Bool.and_eq_false_iff,
                    decide_eq_false_iff_not, Bool.not_eq_false'] at hignored
                  rcases hignored with hsocket | hretry
                  · exact Or.inr (Or.inl hsocket)
                  · refine Or.inr (Or.inr ?_)
                    simp only [retryQueued, afterUi_toWorker, afterUi_toUi, startQueued_append,
                      Bool.or_eq_true] at hretry ⊢
                    exact hretry.imp Or.inl id
          | _ => cases hconnect
      | _ => cases hconnect
    · -- The option and the host are as before, so a connection was wanted before.
      obtain ⟨hauto, hhost, -, -⟩ := link_frame hlink hstep
      have hbefore : s.wantsReconnect = true := by
        have hw : t.ui.flags.wants = true := hwants
        have hmanual := htry.automatic hold
        show s.ui.flags.wants = true
        simp only [Flags.wants, hauto, hhost, hmanual, Bool.not_false, Bool.true_and,
          Bool.and_eq_true] at hw ⊢
        exact hw.imp And.right id
      exact underWay_step htry.debts htry.clear hbefore (htry.underWay hold hbefore) hlink hguard.1
        hstep

/-- **Auto-reconnect never gives up**, in every run in which no attempt ends with nothing under
way, and no `connectToServer` is ignored with nothing under way. -/
theorem keeps_trying {h : History F} (hrun : Runs Sustained h s) : KeepsTrying h s := by
  have htry : Trying h s := by
    refine hrun.invariant_history (P := Trying) ?_ fun h s e t o htry hguard hstep =>
      trying_step htry hguard hstep
    refine ⟨debts_init, fun htimer => absurd htimer (by simp [init, flags]), fun hasked => ?_,
      fun hasked => ?_⟩ <;>
    · obtain ⟨x, hx, -⟩ := hasked.exists_mem
      exact absurd hx List.not_mem_nil
  rintro ⟨htoWorker, htoUi, hsocket⟩ hasked hauto hhost
  have hmanual : s.ui.manualDisconnect = false := htry.automatic hasked
  have hwants : s.wantsReconnect = true := by simp [wantsReconnect, hmanual, hauto, hhost]
  rcases htry.underWay hasked hwants with htimer | hlive | hretry
  · exact htimer
  · exact absurd hsocket hlive
  · simp [retryQueued, htoWorker, htoUi, startQueued, disconnectedQueued] at hretry

/-- A session that the peer ends: the timer runs when all is settled. -/
def lostRun : History ℚ × Console ℚ :=
  (exec step Sustained init
    [Event.user (.connectToServer (ascii "h") 1), .take 5, .socket 6 .connected,
      .socket 7 (.error (ascii "closed")), .deliver, .deliver, .deliver]).get (by decide +kernel)

/-- A connection that is lost: the timer runs. -/
theorem keeps_trying_lost :
    KeepsTrying lostRun.1 lostRun.2 ∧ lostRun.2.toUi.length = 0 ∧
      lostRun.2.ui.reconnectTimer = some 1000 :=
  ⟨keeps_trying (Run.of_exec (Option.some_get _).symm), by decide +kernel, by decide +kernel⟩

/-- The first attempt is refused. -/
def refusedRun : History ℚ × Console ℚ :=
  (exec step anyStep init
    [Event.user (.connectToServer (ascii "h") 1), .take 5, .socket 6 (.failed (ascii "refused")),
      .deliver]).get (by decide +kernel)

/-- Without the condition the console gives up. -/
theorem gives_up : ¬∀ (h : History ℚ) (s : Console ℚ), Runs anyStep h s → KeepsTrying h s := by
  intro hall
  have hrun : Runs anyStep refusedRun.1 refusedRun.2 := Run.of_exec (Option.some_get _).symm
  have htoWorker : refusedRun.2.toWorker.length = 0 := by decide +kernel
  have htoUi : refusedRun.2.toUi.length = 0 := by decide +kernel
  have hsettled : Settled refusedRun.2 :=
    ⟨List.length_eq_zero_iff.mp htoWorker, List.length_eq_zero_iff.mp htoUi, by decide +kernel⟩
  have htimer := hall _ _ hrun hsettled (by unfold AskedToConnect; decide +kernel)
    (by decide +kernel) (by decide +kernel)
  exact absurd htimer (by decide +kernel)

end BotCockpit.Ui.Console
