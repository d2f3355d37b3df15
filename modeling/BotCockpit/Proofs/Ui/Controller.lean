import BotCockpit.Proofs.Ui.Liveness
import BotCockpit.Proofs.Ui.SocketWorker

/-!
# `BotCockpit.Proofs.Ui.Controller`: what one slot of the controller can do

The controller, as far as the connection goes, is `Flags`: the two flags of `RobotState`, the manual
disconnect, the option, the timer and the endpoint. Every call and every slot is an equation on
`Flags`, and one on the calls it emits. The equations are the simp set for the proofs about runs, so
these never unfold a slot.
-/

set_option autoImplicit false

namespace BotCockpit.Ui

open BotCockpit.Lib

/-- What the controller knows about the connection. -/
structure Flags where
  connecting : Bool
  connected : Bool
  manual : Bool
  auto : Bool
  timer : Bool
  host : Bytes
  port : Int

/-- The tests of `scheduleReconnect`. -/
def Flags.wants (f : Flags) : Bool := !f.manual && f.auto && decide (f.host ≠ [])

/-- `connected` or `connecting`: `connectToServer` returns early. -/
def Flags.shows (f : Flags) : Bool := f.connecting || f.connected

/-- A signal that is not about the connection. -/
def WorkerSignal.isPlain : WorkerSignal → Bool
  | .stateUpdated _ => true
  | .nodesUpdated _ => true
  | .rttUpdated _ => true
  | .cmdAck _ => true
  | _ => false

/-- The calls among the outputs, in order. -/
abbrev calls {F : Type} (out : List (UiOutput F)) : List (WorkerCall F) :=
  out.filterMap UiOutput.call?

namespace Controller

variable {F : Type} [CDouble F]

def flags (c : Controller F) : Flags :=
  { connecting := c.link.connecting
    connected := c.state.connected
    manual := c.manualDisconnect
    auto := c.link.autoReconnect
    timer := c.reconnectTimer.isSome
    host := c.lastHost
    port := c.lastPort }

/-! ### The timer -/

/-- After `scheduleReconnect` the timer runs if it ran before or if a reconnect is wanted. -/
@[simp] theorem flags_scheduleReconnect (c : Controller F) :
    c.scheduleReconnect.1.flags = { c.flags with timer := c.flags.timer || c.flags.wants } := by
  unfold scheduleReconnect
  split
  · rename_i h
    have hwants : c.flags.wants = false := by
      rcases h with h | h <;> simp [Flags.wants, flags, h]
    rw [hwants, Bool.or_false]
  split
  · rename_i h
    have hwants : c.flags.wants = false := by simp [Flags.wants, flags, h]
    rw [hwants, Bool.or_false]
  split
  · rename_i h
    have htimer : c.flags.timer = true := h.2
    rw [htimer, Bool.true_or, ← htimer]
  · rename_i h hhost _
    have hwants : c.flags.wants = true := by
      simp only [not_or, Bool.not_eq_true] at h
      simp [Flags.wants, flags, h, hhost]
    rw [hwants, Bool.or_true]
    rfl

/-- `scheduleReconnect` queues no call. -/
@[simp] theorem calls_scheduleReconnect (c : Controller F) : calls c.scheduleReconnect.2 = [] := by
  unfold scheduleReconnect
  repeat' split
  all_goals rfl

/-- After a manual disconnect nothing is scheduled. -/
theorem scheduleReconnect_manual {c : Controller F} (h : c.flags.manual = true) :
    c.scheduleReconnect = (c, []) := by
  have hmanual : c.manualDisconnect = true := h
  rw [scheduleReconnect, if_pos (Or.inl hmanual)]

/-- The flags after the timer. -/
theorem onReconnectTimer_eq (c : Controller F) :
    c.onReconnectTimer.1.flags =
        (if c.flags.manual = true ∨ c.flags.connected = true then { c.flags with timer := false }
        else { c.flags with timer := false, connecting := true }) ∧
      c.onReconnectTimer.2 =
        (if c.flags.manual = true ∨ c.flags.connected = true then []
        else [.emit (.startWorker c.flags.host c.flags.port)]) := by
  unfold onReconnectTimer
  by_cases h : c.manualDisconnect = true ∨ c.state.connected = true
  · have hflags : c.flags.manual = true ∨ c.flags.connected = true := h
    simp only [if_pos h, if_pos hflags]
    exact ⟨rfl, trivial⟩
  · have hflags : ¬(c.flags.manual = true ∨ c.flags.connected = true) := h
    simp only [if_neg h, if_neg hflags]
    exact ⟨rfl, rfl⟩

/-! ### The calls of the user -/

/-- The flags after the user's connect. -/
theorem connectToServer_eq (c : Controller F) (host : Bytes) (port : Int) :
    (c.connectToServer host port).1.flags =
        (if c.flags.shows = true then { c.flags with manual := false, timer := false }
        else { c.flags with manual := false, timer := false, connecting := true, host := host,
                            port := port }) ∧
      (c.connectToServer host port).2 =
        if c.flags.shows = true then [] else [.emit (.startWorker host port)] := by
  unfold connectToServer
  have hshows : c.flags.shows = true ↔ c.state.connected = true ∨ c.link.connecting = true := by
    simp [Flags.shows, flags, or_comm]
  by_cases h : c.state.connected = true ∨ c.link.connecting = true
  · simp only [if_pos h, if_pos (hshows.mpr h)]
    exact ⟨rfl, trivial⟩
  · simp only [if_neg h, if_neg (mt hshows.mp h)]
    exact ⟨rfl, trivial⟩

/-- The flags after the user's disconnect. -/
@[simp] theorem flags_disconnectFromServer (c : Controller F) :
    c.disconnectFromServer.1.flags = { c.flags with manual := true, timer := false } := rfl

/-! ### The slots -/

/-- The flags after the socket is connected. -/
@[simp] theorem flags_onConnected (c : Controller F) :
    c.onConnected.flags = { c.flags with connecting := true, connected := false, timer := false } :=
  rfl

/-- The flags after an error. -/
@[simp] theorem flags_onError (message : Bytes) (c : Controller F) :
    (c.onError message).flags = { c.flags with connecting := false, connected := false } := rfl

/-- The flags after the socket is disconnected. -/
@[simp] theorem flags_onDisconnected (c : Controller F) :
    c.onDisconnected.1.flags =
      { c.flags with
        connecting := false
        connected := false
        timer := c.flags.timer || c.flags.wants } := by
  rw [onDisconnected, flags_scheduleReconnect]
  rfl

/-- The loss of a connection queues no call. -/
@[simp] theorem calls_onDisconnected (c : Controller F) : calls c.onDisconnected.2 = [] :=
  calls_scheduleReconnect _

/-- A welcome: connected, the timer stopped. -/
theorem onHelloAck_welcome {info : HelloInfo} (h : info.ok = true) (c : Controller F) :
    (c.onHelloAck info).1.flags =
        { c.flags with connecting := false, connected := true, timer := false } ∧
      (c.onHelloAck info).2 = [] := by
  unfold onHelloAck
  rw [if_neg (by simp [h])]
  exact ⟨rfl, rfl⟩

/-- A rejection: the flags, and the calls that end the connection. -/
theorem onHelloAck_rejected {info : HelloInfo} (h : info.ok = false) (c : Controller F) :
    (c.onHelloAck info).1.flags =
        { c.flags with
          connecting := false
          connected := false
          manual := false
          timer := c.flags.timer || (c.flags.auto && decide (c.flags.host ≠ [])) } ∧
      calls (c.onHelloAck info).2 = [.stopWorker] := by
  unfold onHelloAck
  rw [if_pos (by simp [h])]
  dsimp only
  refine ⟨?_, ?_⟩
  · rw [flags_scheduleReconnect]
    rfl
  · exact congrArg (WorkerCall.stopWorker :: ·) (calls_scheduleReconnect _)

/-! ### What leaves the flags alone -/

section Calls

variable [Qt F]

/-- A call that is not about the connection sends a command, and only during a session. -/
theorem onCall_command (c : Controller F) {call : UserCall F}
    (h : (Event.user call).isLinkCall = false) :
    (c.onCall call).1 = c ∧
      ((c.onCall call).2 = [] ∨
        c.flags.connected = true ∧
          ∃ cmd, WorkerCall.isCommand cmd = true ∧ (c.onCall call).2 = [.emit cmd]) := by
  have hcmd : ∀ cmd : WorkerCall F, cmd.isCommand = true → (c.cmd cmd).1 = c ∧
      ((c.cmd cmd).2 = [] ∨
        c.flags.connected = true ∧ ∃ cmd', WorkerCall.isCommand cmd' = true ∧
          (c.cmd cmd).2 = [.emit cmd']) := by
    intro cmd hcmd
    unfold Controller.cmd
    split
    · rename_i hconnected
      exact ⟨rfl, Or.inr ⟨hconnected, cmd, hcmd, rfl⟩⟩
    · exact ⟨rfl, Or.inl rfl⟩
  cases call with
  | connectToServer host port => cases h
  | disconnectFromServer => cases h
  | setAutoReconnect v => cases h
  | cmdMode mode => exact hcmd _ rfl
  | cmdTaskGoto taskId x y => exact hcmd _ rfl
  | cmdTaskSimple type => exact hcmd _ rfl
  | cmdEstop reason => exact hcmd _ rfl
  | cmdReset => exact hcmd _ rfl

/-- The slots of the other signals leave the flags alone and emit nothing. -/
theorem onSignal_plain (c : Controller F) {signal : WorkerSignal} (h : signal.isPlain = true) :
    (c.onSignal signal).1.flags = c.flags ∧ (c.onSignal signal).2 = [] := by
  cases signal with
  | stateUpdated state =>
      have hconnected : (c.state.applyState state).connected = c.state.connected :=
        congrArg (fun t => t.1) (RobotState.resetFields_applyState state c.state)
      refine ⟨?_, rfl⟩
      simp only [onSignal, flags, hconnected]
  | nodesUpdated nodes => exact ⟨rfl, rfl⟩
  | rttUpdated ms => exact ⟨rfl, rfl⟩
  | cmdAck ack => exact ⟨rfl, rfl⟩
  | _ => cases h

end Calls

end Controller

end BotCockpit.Ui
