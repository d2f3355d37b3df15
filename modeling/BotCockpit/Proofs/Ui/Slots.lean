import BotCockpit.Lib.Queue
import BotCockpit.Proofs.Ui.Controller

/-!
# `BotCockpit.Proofs.Ui.Slots`: the steps of the console, and what the queues still owe

`Slot` inverts `Console.step`: one constructor for each kind of slot. The proofs about runs split
a step by it and then use the equations of `Controller` and the moves of `SocketWorker`.

The signals `connected` and `helloAck` raise a flag of the controller, and `disconnected` lowers
both. `Debts` is the invariant that ties the queue to the socket: while there is no connection,
every signal in the queue that raises a flag is followed by a `disconnected`. A connection that ends
has `disconnected` emitted at once, which is why `debts_step` needs no guard.
-/

set_option autoImplicit false

namespace BotCockpit.Ui

open BotCockpit.Lib
open BotCockpit.Ui.SocketWorker (Moves onCall_moves onEvent_moves)

/-- A signal on which the controller raises a flag. -/
def WorkerSignal.raises : WorkerSignal → Prop
  | .connected => True
  | .helloAck _ => True
  | _ => False

/-- Only a connected socket emits what raises a flag, and it says so when it closes. -/
theorem SocketWorker.Moves.followed {w w' : SocketWorker} {out queue : List WorkerSignal}
    (h : Moves w w' out)
    (hqueue : w.socket ≠ .connected → Followed WorkerSignal.raises (· = .disconnected) queue)
    (hclosed : w'.socket ≠ .connected) :
    Followed WorkerSignal.raises (· = .disconnected) (queue ++ out) := by
  -- The debts of a connected socket are paid by its `disconnected`.
  have hcloses : ∀ errors : List WorkerSignal,
      (∀ x ∈ errors, ∃ message, x = WorkerSignal.errorOccurred message) →
        Followed WorkerSignal.raises (· = .disconnected)
          (queue ++ (errors ++ [WorkerSignal.disconnected])) := by
    intro errors herrors
    refine followed_append_of_mem queue ?_ ⟨.disconnected, by simp, rfl⟩
    refine followed_append_of_mem errors ⟨fun h => absurd h id, trivial⟩ ?_
    exact ⟨.disconnected, by simp, rfl⟩
  have hnothing : w.socket ≠ .connected →
      Followed WorkerSignal.raises (· = .disconnected) (queue ++ []) := fun hne =>
    followed_append (hqueue hne) (by simp)
  cases h with
  | stays hsocket _ _ hsilent =>
      rw [hsocket] at hclosed
      rw [hsilent.resolve_left hclosed]
      exact hnothing hclosed
  | opens _ hsocket => exact absurd hsocket hclosed
  | fails hconnecting _ =>
      refine followed_append (hqueue (by simp [hconnecting])) ?_
      simp [WorkerSignal.raises]
  | closes errors _ _ herrors => exact hcloses errors herrors
  | starts _ =>
      split
      · exact hcloses [] (by simp)
      · exact hnothing ‹_›
  | stops _ =>
      split
      · exact hcloses [] (by simp)
      · exact hnothing ‹_›

namespace Console

/-! ### The queues -/

variable {F : Type}

/-- A start is queued in a list when it is queued in one of its parts. -/
@[simp] theorem startQueued_append (l m : List (WorkerCall F)) :
    startQueued (l ++ m) = (startQueued l || startQueued m) := by
  induction l with
  | nil => rfl
  | cons call l ih => cases call <;> simp [startQueued, ih]

/-- A command is no start. -/
theorem startQueued_command {call : WorkerCall F} (h : call.isCommand = true)
    (l : List (WorkerCall F)) : startQueued (call :: l) = startQueued l := by
  cases call <;> first | rfl | cases h

/-- The signal `disconnected` waits in a list when it waits in one of its parts. -/
@[simp] theorem disconnectedQueued_append (l m : List WorkerSignal) :
    disconnectedQueued (l ++ m) = (disconnectedQueued l || disconnectedQueued m) := by
  induction l with
  | nil => rfl
  | cons signal l ih => cases signal <;> simp [disconnectedQueued, ih]

/-- The same for the signal `errorOccurred`. -/
@[simp] theorem errorQueued_append (l m : List WorkerSignal) :
    errorQueued (l ++ m) = (errorQueued l || errorQueued m) := by
  induction l with
  | nil => rfl
  | cons signal l ih => cases signal <;> simp [errorQueued, ih]

/-- The signal waits exactly when it is in the list. -/
theorem disconnectedQueued_iff {l : List WorkerSignal} :
    disconnectedQueued l = true ↔ ∃ x ∈ l, x = .disconnected := by
  induction l with
  | nil => simp [disconnectedQueued]
  | cons signal l ih => cases signal <;> simp [disconnectedQueued, ih]

/-- A plain signal is neither of the two that end a connection. -/
theorem queued_plain {signal : WorkerSignal} (h : signal.isPlain = true) (l : List WorkerSignal) :
    disconnectedQueued (signal :: l) = disconnectedQueued l ∧
      errorQueued (signal :: l) = errorQueued l := by
  cases signal <;> first | exact ⟨rfl, rfl⟩ | cases h

/-- A connected socket says that it closes. -/
theorem disconnectedQueued_moves {w w' : SocketWorker} {out : List WorkerSignal}
    (h : Moves w w' out) (hconnected : w.socket = .connected) (hclosed : w'.socket = .unconnected) :
    disconnectedQueued out = true := by
  cases h with
  | stays hsame _ _ _ => exact absurd (hsame.symm.trans hclosed) (by simp [hconnected])
  | opens hconnecting _ => exact absurd hconnecting (by simp [hconnected])
  | fails hconnecting _ => exact absurd hconnecting (by simp [hconnected])
  | closes errors _ _ _ => simp [disconnectedQueued]
  | starts hsocket => exact absurd (hsocket.symm.trans hclosed) (by simp)
  | stops _ => simp [hconnected, disconnectedQueued]

section Calls

variable [Qt F] {w : SocketWorker} {now : Int64} {call : WorkerCall F}

/-- A `startWorker` that is taken leaves the socket connecting. -/
theorem startQueued_take {calls : List (WorkerCall F)}
    (hstart : startQueued (call :: calls) = true) :
    startQueued calls = true ∨ (w.onCall now call).1.socket ≠ .unconnected := by
  cases hcommand : call.isCommand with
  | true =>
      rw [startQueued_command hcommand] at hstart
      exact Or.inl hstart
  | false =>
      cases call with
      | startWorker host port =>
          exact Or.inr (by simp [SocketWorker.onCall, (SocketWorker.connectToHost_eq now w).1])
      | stopWorker => exact Or.inl hstart
      | _ => cases hcommand

/-- Only `stopWorker` aborts an attempt for good. -/
theorem stopWorker_of_aborts (hconnecting : w.socket = .connecting)
    (hclosed : (w.onCall now call).1.socket = .unconnected) : call = .stopWorker := by
  cases hcommand : call.isCommand with
  | true =>
      have hsame := (SocketWorker.onCall_command now w hcommand).1
      exact absurd (hsame.symm.trans hclosed) (by simp [hconnecting])
  | false =>
      cases call with
      | startWorker host port =>
          exact absurd hclosed (by simp [SocketWorker.onCall,
            (SocketWorker.connectToHost_eq now w).1])
      | stopWorker => rfl
      | _ => cases hcommand

end Calls

variable [CDouble F]

/-! ### What a slot of one thread leaves to the other -/

section After

variable (s : Console F) (r : Controller F × List (UiOutput F)) (v : SocketWorker × List Output)

/-- After a slot of the controller the controller is what the slot computed. -/
@[simp] theorem afterUi_ui : (s.afterUi r).1.ui = r.1 := rfl

/-- A slot of the controller leaves the worker alone. -/
@[simp] theorem afterUi_worker : (s.afterUi r).1.worker = s.worker := rfl

/-- It takes nothing out of the worker's signals. -/
@[simp] theorem afterUi_toUi : (s.afterUi r).1.toUi = s.toUi := rfl

/-- It queues its calls behind those that wait. -/
@[simp] theorem afterUi_toWorker : (s.afterUi r).1.toWorker = s.toWorker ++ calls r.2 := rfl

/-- What can be seen of it are its outputs. -/
@[simp] theorem afterUi_obs : (s.afterUi r).2 = r.2.map UiOutput.obs := rfl

/-- A slot of the worker leaves the controller alone. -/
@[simp] theorem afterWorker_ui : (s.afterWorker v).1.ui = s.ui := rfl

/-- After a slot of the worker the worker is what the slot computed. -/
@[simp] theorem afterWorker_worker : (s.afterWorker v).1.worker = v.1 := rfl

/-- It queues no call. -/
@[simp] theorem afterWorker_toWorker : (s.afterWorker v).1.toWorker = s.toWorker := rfl

/-- It queues its signals behind those that wait. -/
@[simp] theorem afterWorker_toUi : (s.afterWorker v).1.toUi = s.toUi ++ signals v.2 := rfl

/-- What can be seen of it are its outputs. -/
@[simp] theorem afterWorker_obs : (s.afterWorker v).2 = v.2.map (Output.obs F) := rfl

end After

/-! ### Debts -/

/-- While there is no connection, every signal that raises a flag is followed by one that lowers
it. -/
def Debts (s : Console F) : Prop :=
  s.worker.socket ≠ .connected → Followed WorkerSignal.raises (· = .disconnected) s.toUi

/-- At the start nothing is owed. -/
theorem debts_init : Debts (init : Console F) := fun _ => trivial

variable {s t : Console F} {e : Event F} {o : List (Obs F)}

/-- A signal that raises a flag is handled: there is a connection, or its end is queued. -/
theorem Debts.of_raises {signal : WorkerSignal} {rest : List WorkerSignal} (hdebts : Debts s)
    (hqueue : s.toUi = signal :: rest) (hraises : signal.raises) :
    s.worker.socket = .connected ∨ disconnectedQueued rest = true := by
  by_cases hsocket : s.worker.socket = .connected
  · exact Or.inl hsocket
  · have := hdebts hsocket
    rw [hqueue] at this
    exact Or.inr (disconnectedQueued_iff.mpr (this.1 hraises))

/-! ### The steps -/

variable [Qt F]

/-- The slots. -/
inductive Slot (s : Console F) : Event F → Console F → List (Obs F) → Prop
  | user (call : UserCall F) :
      Slot s (.user call) (s.afterUi (s.ui.onCall call)).1 (s.afterUi (s.ui.onCall call)).2
  | timer (h : s.ui.flags.timer = true) :
      Slot s .reconnectTimer (s.afterUi s.ui.onReconnectTimer).1
        (s.afterUi s.ui.onReconnectTimer).2
  | deliver {signal : WorkerSignal} {rest : List WorkerSignal} (h : s.toUi = signal :: rest) :
      Slot s .deliver (afterUi { s with toUi := rest } (s.ui.onSignal signal)).1
        (afterUi { s with toUi := rest } (s.ui.onSignal signal)).2
  | take {now : Int64} {call : WorkerCall F} {rest : List (WorkerCall F)}
      (h : s.toWorker = call :: rest) :
      Slot s (.take now) (afterWorker { s with toWorker := rest } (s.worker.onCall now call)).1
        (afterWorker { s with toWorker := rest } (s.worker.onCall now call)).2
  | socket {now : Int64} {e : SocketWorker.SocketEvent} {r : SocketWorker × List Output}
      (h : s.worker.onEvent F now e = some r) :
      Slot s (.socket now e) (s.afterWorker r).1 (s.afterWorker r).2

/-- Every step of the console is one slot of one of the two threads. -/
theorem slot_of_step (h : s.step e = some (t, o)) : Slot s e t o := by
  cases e with
  | user call =>
      cases h
      exact Slot.user call
  | reconnectTimer =>
      simp only [step] at h
      split at h
      · rename_i htimer
        cases h
        exact Slot.timer htimer
      · cases h
  | deliver =>
      simp only [step] at h
      split at h
      · cases h
      · rename_i hqueue
        cases h
        exact Slot.deliver hqueue
  | take now =>
      simp only [step] at h
      split at h
      · cases h
      · rename_i hqueue
        cases h
        exact Slot.take hqueue
  | socket now e =>
      simp only [step, Option.map_eq_some_iff] at h
      obtain ⟨r, hr, hafter⟩ := h
      cases hafter
      exact Slot.socket hr

/-- A step keeps the debts: what it owes newly is queued in it. -/
theorem debts_step (hdebts : Debts s) (h : s.step e = some (t, o)) : Debts t := by
  cases slot_of_step h with
  | user call => exact hdebts
  | timer _ => exact hdebts
  | deliver hqueue =>
      intro hclosed
      have := hdebts hclosed
      rw [hqueue] at this
      exact this.tail
  | take _ => exact SocketWorker.Moves.followed (onCall_moves _ _ _) hdebts
  | socket hevent => exact SocketWorker.Moves.followed (onEvent_moves hevent) hdebts

end Console

end BotCockpit.Ui
