import BotCockpit.Spec.Console

/-!
# `BotCockpit.Proofs.Ui.SocketWorker`: what one slot of the worker can do

`Moves` lists how a slot changes the socket, and which signals it emits with the change. A slot
that leaves the socket alone emits reports only (`WorkerSignal.isReport`): it never says that a
connection came up or went. `onEvent_moves` and `onCall_moves` say that there is nothing else.

The frames that the command slots write have the type of the command, and they are written on a
connected socket (`onCall_command`).
-/

set_option autoImplicit false

namespace BotCockpit.Ui

open BotCockpit.Lib
open BotCockpit.Wire (Frame)

/-- A signal that reports what a frame said. -/
def WorkerSignal.isReport : WorkerSignal → Bool
  | .connected => false
  | .disconnected => false
  | .errorOccurred _ => false
  | _ => true

/-- A call that sends a command. -/
def WorkerCall.isCommand {F : Type} : WorkerCall F → Bool
  | .startWorker _ _ => false
  | .stopWorker => false
  | _ => true

/-- The signals among the outputs, in order. -/
abbrev signals (out : List Output) : List WorkerSignal := out.filterMap Output.signal?

namespace SocketWorker

/-- What a slot makes of the socket, with the signals it emits. -/
inductive Moves (w : SocketWorker) : SocketWorker → List WorkerSignal → Prop
  | stays {w' : SocketWorker} {s : List WorkerSignal} (hsocket : w'.socket = w.socket)
      (hhandled : ∃ fs, w'.handled = w.handled ++ fs)
      (hreports : ∀ x ∈ s, x.isReport = true) (hsilent : w.socket = .connected ∨ s = []) :
      Moves w w' s
  | opens {w' : SocketWorker} (h : w.socket = .connecting) (hsocket : w'.socket = .connected) :
      Moves w w' [.connected]
  | fails {w' : SocketWorker} {message : Bytes} (h : w.socket = .connecting)
      (hsocket : w'.socket = .unconnected) : Moves w w' [.errorOccurred message]
  | closes {w' : SocketWorker} (errors : List WorkerSignal) (h : w.socket = .connected)
      (hsocket : w'.socket = .unconnected)
      (herrors : ∀ x ∈ errors, ∃ message, x = .errorOccurred message) :
      Moves w w' (errors ++ [.disconnected])
  /-- The two calls that act on the socket. -/
  | starts {w' : SocketWorker} (hsocket : w'.socket = .connecting) :
      Moves w w' (if w.socket = .connected then [.disconnected] else [])
  | stops {w' : SocketWorker} (hsocket : w'.socket = .unconnected) :
      Moves w w' (if w.socket = .connected then [.disconnected] else [])

/-! ### Sending -/

section Sending

variable {w : SocketWorker}

/-- Writing a frame leaves the socket and what was handled alone. -/
theorem sendFrame_socket (type flags : UInt8) (payload : Bytes) :
    (w.sendFrame type flags payload).2.1.socket = w.socket ∧
      (w.sendFrame type flags payload).2.1.handled = w.handled := by
  unfold sendFrame
  split <;> exact ⟨rfl, rfl⟩

/-- It gives no signal. -/
theorem sendFrame_signals (type flags : UInt8) (payload : Bytes) :
    signals (w.sendFrame type flags payload).2.2 = [] := by
  unfold sendFrame
  split <;> rfl

/-- A frame is written on a connected socket, and has the type it was sent with. -/
theorem sendFrame_writes {type flags : UInt8} {payload : Bytes} {f : Frame}
    (h : .write f ∈ (w.sendFrame type flags payload).2.2) :
    w.socket = .connected ∧ f.type = type := by
  unfold sendFrame at h
  split at h
  · simp at h
  · rename_i hsocket
    simp only [List.mem_singleton, Output.write.injEq] at h
    exact ⟨not_not.mp hsocket, by rw [h]⟩

/-- So does a command. -/
theorem sendCmd_socket (type flags : UInt8) (name : String) (payload : Bytes) :
    (w.sendCmd type flags name payload).1.socket = w.socket ∧
      (w.sendCmd type flags name payload).1.handled = w.handled := by
  obtain ⟨hsocket, hhandled⟩ := sendFrame_socket (w := w) type flags payload
  unfold sendCmd
  dsimp only
  split <;> exact ⟨hsocket, hhandled⟩

/-- What goes out for a command is its frame. -/
theorem sendCmd_out (type flags : UInt8) (name : String) (payload : Bytes) :
    (w.sendCmd type flags name payload).2 = (w.sendFrame type flags payload).2.2 := by
  unfold sendCmd
  dsimp only
  split <;> rfl

end Sending

section Calls

variable {F : Type} [Qt F]

/-- A command call leaves the socket alone, emits nothing, and writes on a connected socket. -/
theorem onCall_command (now : Int64) (w : SocketWorker) {call : WorkerCall F}
    (hcall : call.isCommand = true) :
    (w.onCall now call).1.socket = w.socket ∧ (w.onCall now call).1.handled = w.handled ∧
      signals (w.onCall now call).2 = [] ∧
      ∀ f, .write f ∈ (w.onCall now call).2 → w.socket = .connected := by
  have hsend : ∀ type flags name payload,
      (w.sendCmd type flags name payload).1.socket = w.socket ∧
        (w.sendCmd type flags name payload).1.handled = w.handled ∧
        signals (w.sendCmd type flags name payload).2 = [] ∧
        ∀ f, .write f ∈ (w.sendCmd type flags name payload).2 → w.socket = .connected := by
    intro type flags name payload
    obtain ⟨hsocket, hhandled⟩ := sendCmd_socket (w := w) type flags name payload
    refine ⟨hsocket, hhandled, ?_, fun f hf => ?_⟩
    · rw [sendCmd_out]
      exact sendFrame_signals type flags payload
    · rw [sendCmd_out] at hf
      exact (sendFrame_writes hf).1
  cases call with
  | startWorker host port => cases hcall
  | stopWorker => cases hcall
  | cmdMode mode => exact hsend _ _ _ _
  | cmdTask taskId type x y timeoutS => exact hsend _ _ _ _
  | cmdEstop reason => exact hsend _ _ _ _
  | cmdReset => exact hsend _ _ _ _

end Calls

/-! ### The socket -/

/-- What `abort` does: a connected socket says so. -/
theorem abort_eq (w : SocketWorker) :
    w.abort.1.socket = .unconnected ∧
      w.abort.2 = if w.socket = .connected then [.signal .disconnected] else [] := by
  unfold abort
  cases h : w.socket <;> simp [onSocketDisconnected]

/-- The socket connects; one that was connected is disconnected first. -/
theorem connectToHost_eq (now : Int64) (w : SocketWorker) :
    (w.connectToHost now).1.socket = .connecting ∧
      (w.connectToHost now).2 = if w.socket = .connected then [.signal .disconnected] else [] :=
  ⟨rfl, (abort_eq w).2⟩

/-- The socket is closed, with the signal of one that was connected. -/
theorem disconnectFromHost_eq (w : SocketWorker) :
    w.disconnectFromHost.1.socket = .unconnected ∧
      w.disconnectFromHost.2 = if w.socket = .connected then [.signal .disconnected] else [] :=
  abort_eq _

/-- The socket is closed, with an error. -/
theorem failAndClose_eq (message : Bytes) (w : SocketWorker) :
    (w.failAndClose message).1.socket = .unconnected ∧
      signals (w.failAndClose message).2 =
        .errorOccurred message :: if w.socket = .connected then [.disconnected] else [] := by
  obtain ⟨hsocket, hout⟩ := disconnectFromHost_eq w
  refine ⟨hsocket, ?_⟩
  simp only [failAndClose, hout]
  split <;> rfl

/-- A call moves the socket, or sends a command. -/
theorem onCall_moves {F : Type} [Qt F] (now : Int64) (w : SocketWorker) (call : WorkerCall F) :
    Moves w (w.onCall now call).1 (signals (w.onCall now call).2) := by
  have hsignals : signals (if w.socket = .connected then [.signal .disconnected] else []) =
      if w.socket = .connected then [.disconnected] else [] := by
    split <;> rfl
  cases hcall : call.isCommand with
  | true =>
      obtain ⟨hsocket, hhandled, hsilent, -⟩ := onCall_command now w hcall
      rw [hsilent]
      exact Moves.stays hsocket ⟨[], by simp [hhandled]⟩ (by simp) (Or.inr rfl)
  | false =>
      cases call with
      | startWorker host port =>
          obtain ⟨hsocket, hout⟩ := connectToHost_eq now w
          simp only [onCall, hout, hsignals]
          exact Moves.starts hsocket
      | stopWorker =>
          obtain ⟨hsocket, hout⟩ := disconnectFromHost_eq w
          simp only [onCall, hout, hsignals]
          exact Moves.stops hsocket
      | _ => cases hcall

/-! ### Receiving -/

section Events

variable {F : Type} [Qt F]

/-- A frame leaves the socket alone and emits reports. -/
theorem handleFrame_moves (now : Int64) (frame : Frame) (w : SocketWorker) :
    (w.handleFrame F now frame).1.socket = w.socket ∧
      (w.handleFrame F now frame).1.handled = w.handled ++ [frame] ∧
      ∀ x ∈ signals (w.handleFrame F now frame).2, x.isReport = true := by
  unfold handleFrame
  dsimp only
  split
  · refine ⟨rfl, rfl, ?_⟩
    simp [signals, Output.signal?, WorkerSignal.isReport]
  split
  · split
    · refine ⟨rfl, rfl, ?_⟩
      split <;> simp [signals, Output.signal?, WorkerSignal.isReport]
    · exact ⟨rfl, rfl, by simp [signals]⟩
  split
  · refine ⟨rfl, rfl, ?_⟩
    split <;> simp [signals, Output.signal?, WorkerSignal.isReport]
  split
  · refine ⟨rfl, rfl, ?_⟩
    simp [signals, Output.signal?, WorkerSignal.isReport]
  · exact ⟨rfl, rfl, by simp [signals]⟩

/-- Frames that come in are handled in their order and reported. -/
theorem handleFrames_moves (now : Int64) (frames : List Frame) (w : SocketWorker) :
    (w.handleFrames F now frames).1.socket = w.socket ∧
      (w.handleFrames F now frames).1.handled = w.handled ++ frames ∧
      ∀ x ∈ signals (w.handleFrames F now frames).2, x.isReport = true := by
  induction frames generalizing w with
  | nil => exact ⟨rfl, (List.append_nil _).symm, by simp [handleFrames, signals]⟩
  | cons frame frames ih =>
      obtain ⟨hsocket, hhandled, hreports⟩ := handleFrame_moves (F := F) now frame w
      obtain ⟨hsocket', hhandled', hreports'⟩ := ih (w.handleFrame F now frame).1
      simp only [handleFrames]
      refine ⟨hsocket'.trans hsocket, by rw [hhandled', hhandled, List.append_assoc]; rfl, ?_⟩
      intro x hx
      rw [signals, List.filterMap_append, List.mem_append] at hx
      rcases hx with hx | hx
      · exact hreports x hx
      · exact hreports' x hx

/-- `onSocketConnected` sends HELLO and leaves the socket alone. -/
theorem onSocketConnected_eq (now : Int64) (w : SocketWorker) :
    (w.onSocketConnected F now).1.socket = w.socket ∧
      signals (w.onSocketConnected F now).2 = [.connected] := by
  refine ⟨(sendFrame_socket (w := { w with lastRxMs := now }) _ _ _).1, ?_⟩
  exact congrArg (WorkerSignal.connected :: ·)
    (sendFrame_signals (w := { w with lastRxMs := now }) _ _ _)

/-- Every event of the socket and of the timers is one of the moves. -/
theorem onEvent_moves {now : Int64} {w : SocketWorker} {e : SocketEvent}
    {r : SocketWorker × List Output} (h : w.onEvent F now e = some r) :
    Moves w r.1 (signals r.2) := by
  cases e with
  | connected =>
      simp only [onEvent] at h
      split at h
      · rename_i hsocket
        cases h
        obtain ⟨hopen, hout⟩ :=
          onSocketConnected_eq (F := F) now { w with socket := .connected, handled := [] }
        rw [hout]
        exact Moves.opens hsocket hopen
      · cases h
  | failed message =>
      -- A connection that could not be opened is closed by the slot for errors.
      simp only [onEvent] at h
      split at h
      · rename_i hsocket
        cases h
        obtain ⟨hclosed, hout⟩ := failAndClose_eq message { w with socket := .unconnected }
        rw [hout]
        exact Moves.fails hsocket hclosed
      · cases h
  | error message =>
      simp only [onEvent] at h
      split at h
      · rename_i hsocket
        cases h
        obtain ⟨hclosed, hout⟩ := failAndClose_eq message w
        rw [hout, if_pos hsocket]
        exact Moves.closes [.errorOccurred message] hsocket hclosed (by simp)
      · cases h
  | closed =>
      simp only [onEvent] at h
      split at h
      · rename_i hsocket
        cases h
        exact Moves.closes [] hsocket rfl (by simp)
      · cases h
  | readyRead data =>
      -- The decoder cuts the frames, and each of them is handled.
      simp only [onEvent] at h
      split at h
      · rename_i hsocket
        cases h
        obtain ⟨hsame, hhandled, hreports⟩ := handleFrames_moves (F := F) now
          (drain next (w.decoder ++ data)).1
          { w with lastRxMs := now, decoder := (drain next (w.decoder ++ data)).2 }
        exact Moves.stays hsame ⟨_, hhandled⟩ hreports (Or.inl hsocket)
      · cases h
  | heartbeatTick =>
      simp only [onEvent] at h
      split at h
      · cases h
        have hstays : (w.onHeartbeatTick F now).1.socket = w.socket ∧
            (w.onHeartbeatTick F now).1.handled = w.handled ∧
            signals (w.onHeartbeatTick F now).2 = [] := by
          unfold onHeartbeatTick
          split <;> exact ⟨rfl, rfl, rfl⟩
        obtain ⟨hsame, hhandled, hout⟩ := hstays
        rw [hout]
        exact Moves.stays hsame ⟨[], by simp [hhandled]⟩ (by simp) (Or.inr rfl)
      · cases h
  | timeoutTick =>
      -- The worker gives up only when the last byte is too long ago.
      simp only [onEvent] at h
      split at h
      · cases h
        unfold onTimeoutTick
        split
        · exact Moves.stays rfl ⟨[], by simp⟩ (by simp [signals]) (Or.inr rfl)
        · rename_i hconnected
          have hsocket : w.socket = .connected := by
            by_contra hne
            exact hconnected (Or.inl hne)
          split
          · obtain ⟨hclosed, hout⟩ := failAndClose_eq (ascii "heartbeat timeout") w
            rw [hout, if_pos hsocket]
            exact Moves.closes [_] hsocket hclosed (by simp)
          · exact Moves.stays rfl ⟨[], by simp⟩ (by simp [signals]) (Or.inr rfl)
      · cases h

/-- Only a failure ends an attempt without a connection. -/
theorem onEvent_failed {now : Int64} {w : SocketWorker} {e : SocketEvent}
    {r : SocketWorker × List Output} (h : w.onEvent F now e = some r)
    (hconnecting : w.socket = .connecting) (hclosed : r.1.socket = .unconnected) :
    ∃ message, e = .failed message := by
  cases e with
  | failed message => exact ⟨message, rfl⟩
  | connected =>
      simp only [onEvent, if_pos hconnecting] at h
      cases h
      have hopen := (onSocketConnected_eq (F := F) now
        { w with socket := .connected, handled := [] }).1
      exact absurd (hopen.symm.trans hclosed) (by simp)
  | heartbeatTick =>
      simp only [onEvent] at h
      split at h <;> cases h
      rw [onHeartbeatTick, if_pos (by simp [hconnecting])] at hclosed
      exact absurd (hconnecting.symm.trans hclosed) (by simp)
  | timeoutTick =>
      simp only [onEvent] at h
      split at h <;> cases h
      rw [onTimeoutTick, if_pos (Or.inl (by simp [hconnecting]))] at hclosed
      exact absurd (hconnecting.symm.trans hclosed) (by simp)
  | _ => simp [onEvent, hconnecting] at h

/-- An event opens no attempt. -/
theorem onEvent_connecting {now : Int64} {w : SocketWorker} {e : SocketEvent}
    {r : SocketWorker × List Output} (h : w.onEvent F now e = some r)
    (hconnecting : r.1.socket = .connecting) : w.socket = .connecting := by
  cases e with
  | readyRead data =>
      simp only [onEvent] at h
      split at h <;> cases h
      rwa [onReadyRead, (handleFrames_moves (F := F) now _ _).1] at hconnecting
  | heartbeatTick =>
      simp only [onEvent] at h
      split at h <;> cases h
      unfold onHeartbeatTick at hconnecting
      split at hconnecting <;> exact hconnecting
  | timeoutTick =>
      simp only [onEvent] at h
      split at h <;> cases h
      unfold onTimeoutTick at hconnecting
      split at hconnecting
      · exact hconnecting
      split at hconnecting
      · exact absurd ((failAndClose_eq _ w).1.symm.trans hconnecting) (by simp)
      · exact hconnecting
  | error message =>
      simp only [onEvent] at h
      split at h <;> cases h
      exact absurd ((failAndClose_eq message w).1.symm.trans hconnecting) (by simp)
  | closed =>
      simp only [onEvent] at h
      split at h <;> cases h
      cases hconnecting
  | _ =>
      -- The two events of a connecting socket.
      simp only [onEvent] at h
      split at h
      · assumption
      · cases h

/-- Aborting writes no frame. -/
theorem not_mem_abort (w : SocketWorker) (f : Frame) : .write f ∉ w.abort.2 := by
  rw [(abort_eq w).2]
  split <;> simp

/-- Nor does failing. -/
theorem not_mem_failAndClose (message : Bytes) (w : SocketWorker) (f : Frame) :
    .write f ∉ (w.failAndClose message).2 := by
  simp only [failAndClose, List.mem_cons, reduceCtorEq, false_or]
  exact not_mem_abort _ f

/-- Nor does handling frames. -/
theorem not_mem_handleFrames (now : Int64) (frames : List Frame) (w : SocketWorker) (f : Frame) :
    .write f ∉ (w.handleFrames F now frames).2 := by
  induction frames generalizing w with
  | nil => exact List.not_mem_nil
  | cons frame frames ih =>
      simp only [handleFrames, List.mem_append, not_or]
      refine ⟨?_, ih _⟩
      unfold handleFrame
      dsimp only
      repeat' split
      all_goals simp

/-- Events write HELLO and heartbeats only. -/
theorem onEvent_writes {now : Int64} {w : SocketWorker} {e : SocketEvent}
    {r : SocketWorker × List Output} (h : w.onEvent F now e = some r) {f : Frame}
    (hf : .write f ∈ r.2) : f.type = msgHello ∨ f.type = msgHeartbeat := by
  cases e with
  | connected =>
      -- The greeting is the first frame on the wire.
      simp only [onEvent] at h
      split at h <;> cases h
      obtain ⟨payload, hout⟩ : ∃ payload, (onSocketConnected F now
          { w with socket := .connected, handled := [] }).2 =
            .signal .connected :: (sendFrame msgHello 0 payload
              { w with socket := .connected, handled := [], lastRxMs := now }).2.2 := ⟨_, rfl⟩
      rw [hout, List.mem_cons] at hf
      exact Or.inl (sendFrame_writes (hf.resolve_left (by simp))).2
  | failed message =>
      simp only [onEvent] at h
      split at h <;> cases h
      exact absurd hf (not_mem_failAndClose _ _ f)
  | error message =>
      simp only [onEvent] at h
      split at h <;> cases h
      exact absurd hf (not_mem_failAndClose _ _ f)
  | closed =>
      simp only [onEvent] at h
      split at h <;> cases h
      simp [onSocketDisconnected] at hf
  | readyRead data =>
      simp only [onEvent] at h
      split at h <;> cases h
      exact absurd hf (not_mem_handleFrames _ _ _ f)
  | heartbeatTick =>
      -- A beat goes out only while the socket is connected.
      simp only [onEvent] at h
      split at h <;> cases h
      unfold onHeartbeatTick at hf
      split at hf
      · simp at hf
      · simp only [List.mem_singleton, Output.write.injEq] at hf
        exact Or.inr (by rw [hf])
  | timeoutTick =>
      simp only [onEvent] at h
      split at h <;> cases h
      unfold onTimeoutTick at hf
      split at hf
      · simp at hf
      split at hf
      · exact absurd hf (not_mem_failAndClose _ _ f)
      · simp at hf

end Events

end SocketWorker

end BotCockpit.Ui
