import BotCockpit.Proofs.Ui.Reconnect

/-!
# `BotCockpit.Proofs.Ui.FailClosed`: commands are written on welcomed connections only

The controller lets a command through when its flag `connected` is set, and the worker writes it
when its socket is connected. Between the two lies the queue. `Closed` is the invariant that bridges
it: while the flag is set, or a command is queued, the socket is not about to become another
connection, and the connection there is has been welcomed.

The invariant breaks where the flag is raised by an old HELLO_ACK: the reconnect timer may have
asked for another connection in the meantime, and the command then goes out on it
(`command_before_welcome`).
-/

set_option autoImplicit false

namespace BotCockpit.Ui.Console

open BotCockpit.Lib
open BotCockpit.Wire (Frame)
open BotCockpit.Ui.Controller
open BotCockpit.Ui.SocketWorker (Moves onCall_moves onEvent_moves onEvent_connecting onEvent_writes)

section Calls

variable {F : Type}

def isStart : WorkerCall F → Bool
  | .startWorker _ _ => true
  | _ => false

/-- A start is queued when one of the calls is a start. -/
theorem startQueued_eq_any (l : List (WorkerCall F)) : startQueued l = l.any isStart := by
  induction l with
  | nil => rfl
  | cons call l ih => cases call <;> simp [startQueued, isStart, ih]

/-- No command waits behind a `startWorker`. -/
def CommandsFirst (l : List (WorkerCall F)) : Prop :=
  l.Pairwise fun a b => b.isCommand = true → isStart a = false

/-- In an empty queue the commands stand first. -/
@[simp] theorem commandsFirst_nil : CommandsFirst ([] : List (WorkerCall F)) := List.Pairwise.nil

/-- So they do in a queue of one. -/
@[simp] theorem commandsFirst_singleton (call : WorkerCall F) : CommandsFirst [call] :=
  List.pairwise_singleton _ call

end Calls

section Safe

variable {F : Type} [Qt F] {w w' : SocketWorker} {out : List WorkerSignal}

/-- The socket does not become another connection, and the one there is has been welcomed. -/
def Safe (F : Type) [Qt F] (w : SocketWorker) : Prop :=
  w.socket ≠ .connecting ∧ (w.socket = .connected → welcomed F w = true)

/-- A worker without a socket is safe. -/
theorem Safe.of_unconnected (h : w.socket = .unconnected) : Safe F w := by
  constructor <;> simp [h]

/-- A worker that does not reconnect stays safe. -/
theorem Safe.moves (hsafe : Safe F w) (hmoves : Moves w w' out)
    (hconnecting : w'.socket = .connecting → w.socket = .connecting) : Safe F w' := by
  cases hmoves with
  | stays hsocket hhandled _ _ =>
      obtain ⟨fs, hfs⟩ := hhandled
      refine ⟨fun h => hsafe.1 (hconnecting h), fun h => ?_⟩
      -- The connection is the same, and what it was welcomed with is still there.
      have hwelcomed := hsafe.2 (hsocket.symm.trans h)
      simp only [welcomed, hfs, List.any_append, Bool.or_eq_true] at hwelcomed ⊢
      exact Or.inl hwelcomed
  | opens hwas _ => exact absurd hwas hsafe.1
  | fails hwas _ => exact absurd hwas hsafe.1
  | closes _ _ hsocket _ => exact Safe.of_unconnected hsocket
  | starts hsocket => exact absurd (hconnecting hsocket) hsafe.1
  | stops hsocket => exact Safe.of_unconnected hsocket

/-- A call other than `startWorker` keeps the socket safe. -/
theorem Safe.onCall (hsafe : Safe F w) (now : Int64) {call : WorkerCall F}
    (hcall : isStart call = false) : Safe F (w.onCall now call).1 := by
  refine hsafe.moves (onCall_moves now w call) fun hconnecting => ?_
  cases hcommand : call.isCommand with
  | true => rwa [(SocketWorker.onCall_command now w hcommand).1] at hconnecting
  | false =>
      cases call with
      | startWorker host port => cases hcall
      | stopWorker =>
          have hclosed := (SocketWorker.disconnectFromHost_eq w).1
          exact absurd (hclosed.symm.trans hconnecting) (by simp)
      | _ => cases hcommand

/-- So does one that hears an event of its socket. -/
theorem Safe.onEvent (hsafe : Safe F w) {now : Int64} {e : SocketWorker.SocketEvent}
    {r : SocketWorker × List Output} (h : w.onEvent F now e = some r) : Safe F r.1 :=
  hsafe.moves (onEvent_moves h) (onEvent_connecting h)

end Safe

section Steps

variable {F : Type} [CDouble F] [Qt F] {s t : Console F} {e : Event F} {o : List (Obs F)}

/-- What lies between the flag of the controller and the socket of the worker. -/
structure Closed (s : Console F) : Prop where
  ordered : CommandsFirst s.toWorker
  commands : ∀ c ∈ s.toWorker, c.isCommand = true → Safe F s.worker
  session : s.ui.flags.connected = true → startQueued s.toWorker = false ∧ Safe F s.worker

/-- A slot of the user thread keeps the invariant, when it emits commands during a session only,
starts the worker outside of one only, and raises the flag on a safe socket only. -/
theorem Closed.afterUi (hclosed : Closed s) (r : Controller F × List (UiOutput F))
    (hordered : CommandsFirst (calls r.2))
    (hcommand : ∀ c ∈ calls r.2, c.isCommand = true → s.ui.flags.connected = true)
    (hstart : r.1.flags.connected = true → startQueued (calls r.2) = false)
    (hsession : r.1.flags.connected = true →
      s.ui.flags.connected = true ∨ startQueued s.toWorker = false ∧ Safe F s.worker) :
    Closed (s.afterUi r).1 := by
  constructor
  · refine List.pairwise_append.mpr ⟨hclosed.ordered, hordered, fun a ha c hc hcmd => ?_⟩
    have hnone := (hclosed.session (hcommand c hc hcmd)).1
    rw [startQueued_eq_any, List.any_eq_false] at hnone
    exact Bool.eq_false_iff.mpr (hnone a ha)
  · intro c hc hcmd
    rcases List.mem_append.mp hc with hc | hc
    · exact hclosed.commands c hc hcmd
    · exact (hclosed.session (hcommand c hc hcmd)).2
  · intro hconnected
    have hbefore : startQueued s.toWorker = false ∧ Safe F s.worker :=
      (hsession hconnected).elim hclosed.session id
    refine ⟨?_, hbefore.2⟩
    rw [afterUi_toWorker, startQueued_append, hbefore.1, hstart hconnected]
    rfl

/-- A step keeps the console closed unless it delivers a stale welcome. -/
theorem closed_step (hclosed : Closed s) (hguard : staleWelcome s e = false)
    (h : s.step e = some (t, o)) : Closed t := by
  cases slot_of_step h with
  | user call =>
      cases hlink : (Event.user call).isLinkCall with
      | false =>
          obtain ⟨hsame, hout⟩ := s.ui.onCall_command hlink
          -- A slot for a command emits nothing, or one command behind the test of the flag.
          rcases hout with hout | ⟨hconnected, cmd, hcmd, hout⟩
          · exact hclosed.afterUi _ (by simp [hout]) (by simp [hout]) (by simp [hout, startQueued])
              fun h => Or.inl (hsame ▸ h)
          · have hcalls : calls (s.ui.onCall call).2 = [cmd] := by rw [hout]; rfl
            refine hclosed.afterUi _ (by simp [hcalls]) (fun _ _ _ => hconnected) (fun _ => ?_)
              fun h => Or.inl (hsame ▸ h)
            rw [hcalls, startQueued_command hcmd]
            rfl
      | true =>
          cases call with
          | connectToServer host port =>
              obtain ⟨hflags, hout⟩ := connectToServer_eq s.ui host port
              -- `connectToServer` returns early while the console shows a connection.
              cases hshows : s.ui.flags.shows with
              | true =>
                  refine hclosed.afterUi _ ?_ ?_ ?_ ?_ <;>
                    simp [Controller.onCall, hflags, hout, hshows, startQueued]
                  exact Or.inl
              | false =>
                  have hconnected : s.ui.flags.connected = false := by
                    simp only [Flags.shows, Bool.or_eq_false_iff] at hshows
                    exact hshows.2
                  refine hclosed.afterUi _ ?_ ?_ ?_ ?_ <;>
                    simp [Controller.onCall, hflags, hout, hshows, hconnected, UiOutput.call?,
                      WorkerCall.isCommand]
          | disconnectFromServer =>
              refine hclosed.afterUi _ ?_ ?_ ?_ ?_ <;>
                simp [Controller.onCall, disconnectFromServer, UiOutput.call?,
                  WorkerCall.isCommand, startQueued, flags]
              exact Or.inl
          | setAutoReconnect v =>
              exact hclosed.afterUi _ (by simp [Controller.onCall]) (by simp [Controller.onCall])
                (by simp [Controller.onCall, startQueued]) Or.inl
          | _ => cases hlink
  | timer _ =>
      -- The timer's slot starts the worker unless the user ended it or it is connected.
      obtain ⟨hflags, hout⟩ := onReconnectTimer_eq s.ui
      by_cases hstays : s.ui.flags.manual = true ∨ s.ui.flags.connected = true
      · refine hclosed.afterUi _ ?_ ?_ ?_ ?_ <;>
          simp [hflags, hout, hstays, startQueued]
        exact Or.inl
      · refine hclosed.afterUi _ ?_ ?_ ?_ ?_ <;>
          simp_all [UiOutput.call?, WorkerCall.isCommand]
  | @deliver signal rest hqueue =>
      have hrest : Closed { s with toUi := rest } :=
        ⟨hclosed.ordered, hclosed.commands, hclosed.session⟩
      by_cases hplain : signal.isPlain = true
      · obtain ⟨hflags, hout⟩ := s.ui.onSignal_plain hplain
        exact hrest.afterUi _ (by simp [hout]) (by simp [hout]) (by simp [hout, startQueued])
          fun h => Or.inl (hflags ▸ h)
      cases signal with
      | connected =>
          refine hrest.afterUi _ ?_ ?_ ?_ ?_ <;> simp [Controller.onSignal]
      | disconnected =>
          refine hrest.afterUi _ ?_ ?_ ?_ ?_ <;> simp [Controller.onSignal]
      | errorOccurred message =>
          refine hrest.afterUi _ ?_ ?_ ?_ ?_ <;> simp [Controller.onSignal]
      | helloAck info =>
          cases hok : info.ok with
          | false =>
              obtain ⟨hflags, hout⟩ := onHelloAck_rejected hok s.ui
              refine hrest.afterUi _ ?_ ?_ ?_ ?_ <;>
                simp [Controller.onSignal, hflags, hout, WorkerCall.isCommand]
          | true =>
              -- The flag is raised, and the guard says what the worker has come to.
              obtain ⟨hflags, hout⟩ := onHelloAck_welcome hok s.ui
              refine hrest.afterUi _ ?_ ?_ ?_ fun _ => Or.inr ?_
              · simp [Controller.onSignal, hout]
              · simp [Controller.onSignal, hout]
              · simp [Controller.onSignal, hout, startQueued]
              · simpa [staleWelcome, hqueue, hok, Safe, and_assoc] using hguard
      | _ => exact absurd rfl hplain
  | @take now call rest hqueue =>
      -- The worker takes the first call; what is behind it in the queue keeps its order.
      have hordered := hclosed.ordered
      rw [hqueue] at hordered
      obtain ⟨hfirst, hrest⟩ := List.pairwise_cons.mp hordered
      refine ⟨hrest, fun c hc hcmd => ?_, fun hconnected => ?_⟩
      · have hsafe := hclosed.commands c (by rw [hqueue]; exact List.mem_cons_of_mem _ hc) hcmd
        exact hsafe.onCall now (hfirst c hc hcmd)
      · obtain ⟨hnone, hsafe⟩ := hclosed.session hconnected
        simp only [hqueue, startQueued_eq_any, List.any_cons, Bool.or_eq_false_iff] at hnone
        refine ⟨?_, hsafe.onCall now hnone.1⟩
        rw [afterWorker_toWorker, startQueued_eq_any]
        exact hnone.2
  | socket hevent =>
      exact ⟨hclosed.ordered, fun c hc hcmd => (hclosed.commands c hc hcmd).onEvent hevent,
        fun hconnected => (hclosed.session hconnected).imp id fun hsafe => hsafe.onEvent hevent⟩

/-- So every run without one does. -/
theorem closed_of_runs {h : History F} (hrun : Runs (fun s e => staleWelcome s e = false) h s) :
    Closed s := by
  refine hrun.invariant (P := Closed) ?_ fun s e t o hclosed hguard hstep =>
    closed_step hclosed hguard hstep
  exact ⟨List.Pairwise.nil, fun c hc => absurd hc List.not_mem_nil,
    fun hconnected => by cases hconnected⟩

/-- **Fail-closed until HELLO_ACK**, in every run in which the controller takes no HELLO_ACK of an
earlier connection: a command is written on a welcomed connection only. -/
theorem fails_closed {h : History F} (hrun : Runs (fun s e => staleWelcome s e = false) h s)
    (e : Event F) : FailsClosed s e := by
  have hclosed := closed_of_runs hrun
  intro t o hstep f hwrote hcommand
  -- The user thread writes nothing.
  have huser : ∀ out : List (UiOutput F), .wrote f ∉ out.map UiOutput.obs := by
    intro out hmem
    obtain ⟨x, -, hobs⟩ := List.mem_map.mp hmem
    cases x <;> cases hobs
  have hworker : ∀ out : List Output, .wrote f ∈ out.map (Output.obs F) → .write f ∈ out := by
    intro out hmem
    obtain ⟨x, hx, hobs⟩ := List.mem_map.mp hmem
    cases x with
    | signal signal => cases hobs
    | write g =>
        cases hobs
        exact hx
  cases slot_of_step hstep with
  | user call => exact absurd hwrote (huser _)
  | timer _ => exact absurd hwrote (huser _)
  | deliver _ => exact absurd hwrote (huser _)
  | @take now call rest hqueue =>
      have hwrite := hworker _ hwrote
      cases hcmd : call.isCommand with
      | true =>
          obtain ⟨-, -, -, hconnected⟩ := SocketWorker.onCall_command now s.worker hcmd
          have hsafe := hclosed.commands call (by rw [hqueue]; exact List.mem_cons_self) hcmd
          exact ⟨hconnected f hwrite, hsafe.2 (hconnected f hwrite)⟩
      | false =>
          cases call with
          | startWorker host port =>
              rw [SocketWorker.onCall, (SocketWorker.connectToHost_eq now s.worker).2] at hwrite
              split at hwrite <;> simp at hwrite
          | stopWorker =>
              rw [SocketWorker.onCall, (SocketWorker.disconnectFromHost_eq s.worker).2] at hwrite
              split at hwrite <;> simp at hwrite
          | _ => cases hcmd
  | socket hevent =>
      rcases onEvent_writes hevent (hworker _ hwrote) with htype | htype <;>
        · rw [isCommand, htype] at hcommand
          exact absurd hcommand (by decide)

end Steps

/-- A session with a command in the queue. -/
def commandedRun : History ℚ × Console ℚ :=
  (exec step (fun s e => staleWelcome s e = false) init
    [Event.user (.connectToServer (ascii "h") 1), .take 5, .socket 6 .connected,
      .socket 7 (.readyRead (helloAckFrame "true")), .deliver, .deliver,
      .user (.cmdMode (ascii "auto"))]).get (by decide +kernel)

/-- A run with a command in the queue. -/
theorem fails_closed_commanded :
    FailsClosed commandedRun.2 (.take 8) ∧
    commandedRun.2.toWorker.any WorkerCall.isCommand = true :=
  ⟨fails_closed (Run.of_exec (Option.some_get _).symm) _, by decide +kernel⟩

/-- A connection ends with an error, and before its `disconnected` is handled the user connects
again. That `disconnected` starts the timer, the timer asks for a third connection, and then the
HELLO_ACK of the second lets a command through. -/
def overtakenRun : History ℚ × Console ℚ :=
  (exec step anyStep init
    [Event.user (.connectToServer (ascii "h") 1), .take 5, .socket 6 .connected,
      .socket 7 (.error (ascii "closed")), .deliver, .deliver,
      .user (.connectToServer (ascii "h") 1), .take 8, .socket 9 .connected,
      .socket 10 (.readyRead (helloAckFrame "true")), .deliver, .reconnectTimer, .deliver, .deliver,
      .user (.cmdMode (ascii "auto")), .take 2000, .socket 2001 .connected]).get (by decide +kernel)

/-- The types of the frames that a slot writes. -/
def writtenTypes {F : Type} (o : List (Obs F)) : List UInt8 :=
  o.filterMap fun
    | .wrote f => some f.type
    | _ => none

/-- The worker takes the command. -/
def overtakenStep : Console ℚ × List (Obs ℚ) :=
  (step overtakenRun.2 (.take 2002)).get (by decide +kernel)

/-- Without the condition a command goes out before the welcome. -/
theorem command_before_welcome :
    ¬∀ (h : History ℚ) (s : Console ℚ) (e : Event ℚ), Runs anyStep h s → FailsClosed s e := by
  intro hall
  have hrun : Runs anyStep overtakenRun.1 overtakenRun.2 := Run.of_exec (Option.some_get _).symm
  have hstep : step overtakenRun.2 (.take 2002) = some (overtakenStep.1, overtakenStep.2) := by
    rw [Prod.mk.eta]
    exact (Option.some_get _).symm
  have htypes : msgCmdMode ∈ writtenTypes overtakenStep.2 := by decide +kernel
  obtain ⟨x, hx, htype⟩ := List.mem_filterMap.mp htypes
  cases x with
  | wrote f =>
      simp only [Option.some.injEq] at htype
      have hwelcomed := (hall _ _ _ hrun _ _ hstep f hx (by rw [isCommand, htype]; decide)).2
      exact absurd hwelcomed (by decide +kernel)
  | _ => cases htype

end BotCockpit.Ui.Console
