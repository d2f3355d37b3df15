import BotCockpit.Proofs.Bridge.Snapshot
import BotCockpit.Proofs.Bridge.Robot

/-!
# `BotCockpit.Proofs.Bridge.StateOrder`: a client never sees the robot go back in time

The states that the robot publishes go through the topic `botcockpit/state`, the variable
`robot_state_json_` and the delta timer before a client sees them. Any of them may be lost or
overwritten on the way. `deltas_in_order` says what remains: each MSG_STATE_DELTA on a connection is
the offline text, or one of the states that the robot has published, and these come in the order
in which the robot has published them.

The invariant is `Order`: the bridge has taken the first `k` states of the robot, or has lost them,
and what is in the topic are later ones.
-/

set_option autoImplicit false

namespace BotCockpit.Bridge

open BotCockpit.Lib
open BotCockpit.Wire (Frame)
open BotCockpit.Sim (Output Node)

/-- The payload, when a MSG_STATE_DELTA goes to client `c`. -/
def deltaTo? (c : Nat) : Obs → Option Bytes
  | .sent d f => if d = c ∧ f.type = msgStateDelta then some f.payload else none
  | _ => none

/-- The payloads of the MSG_STATE_DELTA frames that went to client `c`. -/
def deltas (c : Nat) (o : List Obs) : List Bytes := o.filterMap (deltaTo? c)

/-- The body that `broadcast_delta` sends. -/
def Ros.body? : Ros → Option Bytes
  | .delta body | .broadcast body _ => some body
  | _ => none

/-- What a delta shows: state number `k` of the robot, or that the bridge has no fresh state. -/
def Shows (states : List Bytes) (payload : Bytes) : Option Nat → Prop
  | some k => ∃ text, states[k]? = some text ∧
      payload = injectRuntimeFields text (ascii "OFFLINE")
  | none => ∃ nowMs, payload = injectRuntimeFields (offlineState nowMs) (ascii "OFFLINE")

/-- What a payload shows it shows among more states. -/
theorem Shows.append {states : List Bytes} {payload : Bytes} {shot : Option Nat}
    (h : Shows states payload shot) (new : List Bytes) : Shows (states ++ new) payload shot := by
  cases shot with
  | none => exact h
  | some k =>
      obtain ⟨text, hk, hpayload⟩ := h
      have hlt : k < states.length := (List.getElem?_eq_some_iff.mp hk).1
      exact ⟨text, (List.getElem?_append_left hlt).trans hk, hpayload⟩

namespace Sys

variable {F : Type} [CDouble F] {C : Type} [CFloat C] {s t : Sys F} {e : Event} {o : List Obs}
  {allow : Sys F → Event → Prop} {h : List (Event × List Obs)}

/-- The states that the robot publishes in a step: what its callback puts into the topic. -/
def statesIn (C : Type) [CFloat C] (x : Sys F × Event) : List Bytes :=
  match x.2, x.1.step C x.2 with
  | .robot _, some (t, _) | .robotCmd _, some (t, _) | .robotConsole _, some (t, _) =>
      t.stateTopic.drop x.1.stateTopic.length
  | _, _ => []

/-- The states that the robot has published in the history, the oldest first. -/
def statesOf (C F : Type) [CDouble F] [CFloat C] (h : List (Event × List Obs)) : List Bytes :=
  (trace (step C) (init (F := F)) h).flatMap (statesIn C)

/-! ### One step -/

/-- A step leaves what the bridge knows of the robot as it is. -/
structure SameState (s t : Sys F) : Prop where
  topic : t.stateTopic = s.stateTopic
  json : t.robotStateJson = s.robotStateJson
  lastMs : t.lastRobotStateMs = s.lastRobotStateMs

/-- What a step does with the states of the robot. `new` are the ones that the robot publishes. -/
inductive StateEffect (s t : Sys F) (new : List Bytes) (o : List Obs) : Prop
  /-- `on_robot_state` stores the text. -/
  | take (text : Bytes) (htopic : s.stateTopic = text :: t.stateTopic)
      (hjson : t.robotStateJson = text) (hros : t.ros = .stored) (hnew : new = [])
      (ho : ∀ c, deltas c o = [])
  /-- `on_robot_state` stores the time. -/
  | stamp (hpc : s.ros = .stored) (hros : t.ros = .idle) (htopic : t.stateTopic = s.stateTopic)
      (hjson : t.robotStateJson = s.robotStateJson) (hnew : new = []) (ho : ∀ c, deltas c o = [])
  /-- The delta timer reads the state. -/
  | timer (nowMs : UInt64)
      (hros : t.ros = .delta (injectRuntimeFields (s.stateForTcp nowMs) (ascii "OFFLINE")))
      (hsame : SameState s t) (hnew : new = []) (ho : ∀ c, deltas c o = [])
  /-- `broadcast_delta` sends to the next client. -/
  | send (body : Bytes) (hpc : s.ros.body? = some body) (hros : t.ros.body? = some body)
      (hne : t.ros ≠ .stored) (hsame : SameState s t) (hnew : new = [])
      (ho : ∀ c, deltas c o = [] ∨ deltas c o = [body])
  /-- The step has nothing to do with it. Messages may be published, or lost. -/
  | other (hros : t.ros = s.ros ∨ t.ros.body? = none ∧ t.ros ≠ .stored)
      (htopic : t.stateTopic.Sublist (s.stateTopic ++ new))
      (hjson : t.robotStateJson = s.robotStateJson)
      (hlast : t.lastRobotStateMs = s.lastRobotStateMs) (ho : ∀ c, deltas c o = [])

/-- A step that leaves the state alone and sends no delta. -/
theorem StateEffect.of_same (hsame : SameState s t)
    (hros : t.ros = s.ros ∨ t.ros.body? = none ∧ t.ros ≠ .stored) (ho : ∀ c, deltas c o = []) :
    StateEffect s t [] o := by
  refine .other hros ?_ hsame.json hsame.lastMs ho
  rw [hsame.topic, List.append_nil]

/-- A frame of another kind is no delta. -/
theorem deltas_sendFrame (s : Sys F) (c d : Nat) {type : UInt8} (seq : UInt16) (payload : Bytes)
    (htype : type ≠ msgStateDelta) : deltas c (s.sendFrame d type seq payload) = [] := by
  unfold sendFrame
  split
  · simp [deltas, deltaTo?, htype]
  · rfl

/-- A delta that is sent is one delta, or it is not sent. -/
theorem deltas_sendFrame_delta (s : Sys F) (c d : Nat) (seq : UInt16) (payload : Bytes) :
    deltas c (s.sendFrame d msgStateDelta seq payload) = [] ∨
      deltas c (s.sendFrame d msgStateDelta seq payload) = [payload] := by
  unfold sendFrame
  split
  · by_cases hd : d = c
    · exact .inr (by simp [deltas, deltaTo?, hd])
    · exact .inl (by simp [deltas, deltaTo?, hd])
  · exact .inl rfl

/-- Publishing a command leaves the state alone. -/
theorem sameState_publishCmd (s : Sys F) (j : CmdJob) : SameState s (s.publishCmd j) := by
  unfold publishCmd
  split <;> exact ⟨rfl, rfl, rfl⟩

/-- And the callback. -/
theorem ros_publishCmd (s : Sys F) (j : CmdJob) : (s.publishCmd j).ros = s.ros := by
  unfold publishCmd
  split <;> rfl

/-- A receiving thread sends no delta and takes no state. -/
theorem rxOp_state (c : Nat) (nowMs : UInt64) (rest : List RxOp) (s : Sys F) (op : RxOp) :
    StateEffect s (s.rxOp c nowMs rest op).1 [] (s.rxOp c nowMs rest op).2 := by
  have hplain : ∀ cl : Client, SameState s (s.setClient c cl) := fun _ => ⟨rfl, rfl, rfl⟩
  cases op with
  | helloAck seq ok =>
      exact .of_same (hplain _) (.inl rfl) fun d => deltas_sendFrame s d c seq _ (by decide)
  | snapshot => exact .of_same (hplain _) (.inl rfl) fun d => deltas_sendFrame s d c 0 _ (by decide)
  | heartbeat seq =>
      exact .of_same (hplain _) (.inl rfl) fun d => deltas_sendFrame s d c seq _ (by decide)
  | setHelloOk => exact .of_same (hplain _) (.inl rfl) fun _ => rfl
  | enqueue k h => exact .of_same ⟨rfl, rfl, rfl⟩ (.inl rfl) fun _ => rfl
  | checkFd => exact .of_same (hplain _) (.inl rfl) fun _ => rfl
  | urgent u k =>
      cases u with
      | publish =>
          have hsame := sameState_publishCmd
            (s.setClient c { s.clients c with todo := rest }) ⟨c, k⟩
          exact .of_same ⟨hsame.topic, hsame.json, hsame.lastMs⟩ (.inl (ros_publishCmd _ _))
            fun _ => rfl
      | raise => exact .of_same ⟨rfl, rfl, rfl⟩ (.inl rfl) fun _ => rfl
      | storeSeq => exact .of_same ⟨rfl, rfl, rfl⟩ (.inl rfl) fun _ => rfl
      | storeValid => exact .of_same ⟨rfl, rfl, rfl⟩ (.inl rfl) fun _ => rfl
      | register => exact .of_same ⟨rfl, rfl, rfl⟩ (.inl rfl) fun _ => rfl

/-- Nor does the worker. -/
theorem WorkerEffect.state (heffect : WorkerEffect s t o) : StateEffect s t [] o := by
  cases heffect with
  | publish j hpc =>
      have hsame := sameState_publishCmd s j.toCmdJob
      exact .of_same ⟨hsame.topic, hsame.json, hsame.lastMs⟩ (.inl (ros_publishCmd s _))
        fun _ => rfl
  | ack j text hpc =>
      exact .of_same ⟨rfl, rfl, rfl⟩ (.inl rfl) fun d =>
        deltas_sendFrame s d j.client j.seq text (by decide)
  | refuse j reason o hpc ho =>
      refine .of_same ⟨rfl, rfl, rfl⟩ (.inl rfl) fun _ => ?_
      rcases ho with rfl | rfl <;> rfl
  | _ => exact .of_same ⟨rfl, rfl, rfl⟩ (.inl rfl) fun _ => rfl

/-- The callback goes on with the state it has taken. -/
theorem rosStep_state {nowMs : UInt64} (hstep : s.rosStep nowMs = some (t, o)) :
    StateEffect s t [] o := by
  unfold rosStep at hstep
  cases hpc : s.ros with
  | idle => simp [hpc] at hstep
  | stored =>
      simp only [hpc, Option.some.injEq, Prod.mk.injEq] at hstep
      obtain ⟨rfl, rfl⟩ := hstep
      exact .stamp hpc rfl rfl rfl rfl fun _ => rfl
  | delta body =>
      -- The delta is made; nothing has been sent yet.
      simp only [hpc, rosGoto, Option.some.injEq, Prod.mk.injEq] at hstep
      obtain ⟨rfl, rfl⟩ := hstep
      exact .send body (by rw [hpc]; rfl) rfl (by simp) ⟨rfl, rfl, rfl⟩ rfl fun _ => .inl rfl
  | broadcast body clients =>
      cases clients with
      | nil =>
          simp only [hpc, rosGoto, Option.some.injEq, Prod.mk.injEq] at hstep
          obtain ⟨rfl, rfl⟩ := hstep
          exact .of_same ⟨rfl, rfl, rfl⟩ (.inr ⟨rfl, by simp⟩) fun _ => rfl
      | cons d clients =>
          simp only [hpc, Option.some.injEq, Prod.mk.injEq] at hstep
          obtain ⟨rfl, rfl⟩ := hstep
          refine .send body (by rw [hpc]; rfl) rfl (by simp) ⟨rfl, rfl, rfl⟩ rfl fun c => ?_
          split
          · exact deltas_sendFrame_delta s c d 0 body
          · exact .inl rfl
  | console =>
      simp only [hpc, Option.some.injEq, Prod.mk.injEq] at hstep
      obtain ⟨rfl, rfl⟩ := hstep
      exact .of_same ⟨rfl, rfl, rfl⟩ (.inr ⟨rfl, by simp⟩) fun _ => rfl
  | result m =>
      simp only [hpc, Option.some.injEq] at hstep
      split at hstep
      · simp only [rosGoto, Prod.mk.injEq] at hstep
        obtain ⟨rfl, rfl⟩ := hstep
        exact .of_same ⟨rfl, rfl, rfl⟩ (.inr ⟨rfl, by simp⟩) fun _ => rfl
      · simp only [rosGoto, Prod.mk.injEq] at hstep
        obtain ⟨rfl, rfl⟩ := hstep
        refine .of_same ⟨rfl, rfl, rfl⟩ (.inr ?_) fun _ => rfl
        split <;> exact ⟨rfl, by simp⟩
  | validSeen m seq =>
      simp only [hpc, rosGoto, Option.some.injEq, Prod.mk.injEq] at hstep
      obtain ⟨rfl, rfl⟩ := hstep
      refine .of_same ⟨rfl, rfl, rfl⟩ (.inr ?_) fun _ => rfl
      split <;> exact ⟨rfl, by simp⟩
  | lower m seq estop =>
      simp only [hpc, Option.some.injEq, Prod.mk.injEq] at hstep
      obtain ⟨rfl, rfl⟩ := hstep
      exact .of_same ⟨rfl, rfl, rfl⟩ (.inr ⟨rfl, by simp⟩) fun _ => rfl
  | invalidate m seq estop =>
      simp only [hpc, Option.some.injEq, Prod.mk.injEq] at hstep
      obtain ⟨rfl, rfl⟩ := hstep
      exact .of_same ⟨rfl, rfl, rfl⟩ (.inr ⟨rfl, by simp⟩) fun _ => rfl
  | complete m seq estop =>
      simp only [hpc, Option.some.injEq, Prod.mk.injEq] at hstep
      obtain ⟨rfl, rfl⟩ := hstep
      exact .of_same ⟨rfl, rfl, rfl⟩ (.inr ⟨rfl, by simp⟩) fun _ => rfl
  | ackClients m seq clients =>
      cases clients with
      | nil =>
          simp only [hpc, rosGoto, Option.some.injEq, Prod.mk.injEq] at hstep
          obtain ⟨rfl, rfl⟩ := hstep
          exact .of_same ⟨rfl, rfl, rfl⟩ (.inr ⟨rfl, by simp⟩) fun _ => rfl
      | cons d clients =>
          -- The acknowledgement of a result is no delta.
          simp only [hpc, Option.some.injEq, Prod.mk.injEq] at hstep
          obtain ⟨rfl, rfl⟩ := hstep
          refine .of_same ⟨rfl, rfl, rfl⟩ (.inr ⟨rfl, by simp⟩) fun c => ?_
          split
          · exact deltas_sendFrame s c d seq m.text (by decide)
          · rfl
  | deliver m seq =>
      simp only [hpc, Option.some.injEq] at hstep
      split at hstep <;> (simp only [rosGoto, Prod.mk.injEq] at hstep; obtain ⟨rfl, rfl⟩ := hstep)
      · exact .of_same ⟨rfl, rfl, rfl⟩ (.inr ⟨rfl, by simp⟩) fun _ => rfl
      · exact .of_same ⟨rfl, rfl, rfl⟩ (.inr ⟨rfl, by simp⟩) fun _ => rfl

/-- The robot publishes its states. -/
theorem setNode_state (out : List (Output F))
    (htopic : t.stateTopic = s.stateTopic ++ stateTexts out)
    (hjson : t.robotStateJson = s.robotStateJson) (hlast : t.lastRobotStateMs = s.lastRobotStateMs)
    (hros : t.ros = s.ros) (ho : ∀ c, deltas c o = []) :
    StateEffect s t (t.stateTopic.drop s.stateTopic.length) o := by
  refine .other (.inl hros) ?_ hjson hlast ho
  rw [htopic, List.drop_left]

/-- The callback takes the next state from the topic. -/
theorem takeState_state (hstep : s.step C .takeState = some (t, o)) : StateEffect s t [] o := by
  simp only [step] at hstep
  split at hstep
  · rename_i text topic hros htopic
    simp only [Option.some.injEq, Prod.mk.injEq] at hstep
    obtain ⟨rfl, rfl⟩ := hstep
    exact .take text htopic rfl rfl rfl fun _ => rfl
  · cases hstep

/-- The timer sends the last one. -/
theorem deltaTimer_state {nowMs : UInt64} (hstep : s.step C (.deltaTimer nowMs) = some (t, o)) :
    StateEffect s t [] o := by
  simp only [step] at hstep
  split at hstep
  · simp only [rosGoto, Option.some.injEq, Prod.mk.injEq] at hstep
    obtain ⟨rfl, rfl⟩ := hstep
    exact .timer nowMs rfl ⟨rfl, rfl, rfl⟩ rfl fun _ => rfl
  · cases hstep

/-- What a step does to the state. -/
theorem step_state (hstep : s.step C e = some (t, o)) : StateEffect s t (statesIn C (s, e)) o := by
  cases step_effect hstep with
  | accept => exact .of_same ⟨rfl, rfl, rfl⟩ (.inl rfl) fun _ => rfl
  | recv c chunk htodo hopen => exact .of_same ⟨rfl, rfl, rfl⟩ (.inl rfl) fun _ => rfl
  | gone e c he =>
      rcases he with rfl | rfl <;> exact .of_same ⟨rfl, rfl, rfl⟩ (.inl rfl) fun _ => rfl
  | rx c nowMs op rest t o htodo heffect =>
      simp only [step, htodo, Option.some.injEq] at hstep
      have hstate := rxOp_state c nowMs rest s op
      rw [hstep] at hstate
      exact hstate
  | worker nowMs steady t o heffect => exact heffect.state
  | takeResult m topic hpc htopic =>
      exact .of_same ⟨rfl, rfl, rfl⟩ (.inr ⟨rfl, by simp⟩) fun _ => rfl
  | takeOther e r json topic hpc hr he =>
      rcases he with rfl | ⟨nowMs, rfl⟩
      · exact takeState_state hstep
      · exact deltaTimer_state hstep
  | ros nowMs t o heffect => exact rosStep_state hstep
  | robotCmd nowMs j topic node out htopic hnode =>
      -- The robot publishes its new states behind the old ones.
      rw [show statesIn C (s, .robotCmd nowMs) = _ by unfold statesIn; rw [hstep]]
      exact setNode_state out rfl rfl rfl rfl fun _ => rfl
  | robot e call console node out hcall he hnode =>
      rcases he with ⟨nowMs, data, rfl, -⟩ | rfl
      · rw [show statesIn C (s, .robotConsole nowMs) = _ by unfold statesIn; rw [hstep]]
        exact setNode_state out rfl rfl rfl rfl fun _ => rfl
      · rw [show statesIn C (s, .robot call) = _ by unfold statesIn; rw [hstep]]
        exact setNode_state out rfl rfl rfl rfl fun _ => rfl
  | lose topic i =>
      -- A state that is lost is one less in the topic, in the same order.
      cases topic with
      | state =>
          refine .other (.inl rfl) ?_ rfl rfl fun _ => rfl
          exact (List.eraseIdx_sublist s.stateTopic i).trans (List.sublist_append_left _ _)
      | cmd => exact .of_same ⟨rfl, rfl, rfl⟩ (.inl rfl) fun _ => rfl
      | result => exact .of_same ⟨rfl, rfl, rfl⟩ (.inl rfl) fun _ => rfl
      | console => exact .of_same ⟨rfl, rfl, rfl⟩ (.inl rfl) fun _ => rfl

/-! ### Every run -/

/-- The bridge has the state before number `k`, and everything in the topic comes from number `k`
on. The deltas that client `c` has got show states before number `k`, in order. -/
structure Order (states : List Bytes) (sent : List Bytes) (s : Sys F) (k : Nat)
    (shots : List (Option Nat)) : Prop where
  topic : s.stateTopic.Sublist (states.drop k)
  fresh : k = 0 → s.lastRobotStateMs = 0 ∧ s.ros ≠ .stored
  json : ∀ i, k = i + 1 → states[i]? = some s.robotStateJson
  body : ∀ body, s.ros.body? = some body →
    ∃ shot, Shows states body shot ∧ ∀ i, shot = some i → k = i + 1
  showing : List.Forall₂ (Shows states) sent shots
  below : ∀ i, some i ∈ shots → i < k
  sorted : (shots.filterMap id).Pairwise (· ≤ ·)

/-- The first message of a part of the list is somewhere in the list, and the others come after
it. -/
theorem sublist_drop_cons {l states : List Bytes} {text : Bytes} {k : Nat}
    (hsub : (text :: l).Sublist (states.drop k)) :
    ∃ i, k ≤ i ∧ states[i]? = some text ∧ l.Sublist (states.drop (i + 1)) := by
  obtain ⟨front, back, heq, hmem, hl⟩ := List.cons_sublist_iff.mp hsub
  obtain ⟨a, b, rfl⟩ := List.append_of_mem hmem
  refine ⟨k + a.length, Nat.le_add_right _ _, ?_, ?_⟩
  · rw [← List.getElem?_drop, heq]
    simp
  · have hdrop : states.drop (k + a.length + 1) = b ++ back := by
      rw [Nat.add_assoc, ← List.drop_drop, heq]
      simp
    rw [hdrop]
    exact hl.trans (List.sublist_append_right _ _)

section

variable {states new sent : List Bytes} {k : Nat} {shots : List (Option Nat)}

/-- No more states are shown than were published. -/
theorem Order.le_length (hord : Order states sent s k shots) : k ≤ states.length := by
  cases k with
  | zero => exact Nat.zero_le _
  | succ i => exact (List.getElem?_eq_some_iff.mp (hord.json i rfl)).1

/-- More states have been published. -/
theorem Order.append (hord : Order states sent s k shots) (new : List Bytes) :
    Order (states ++ new) sent s k shots where
  topic := by
    rw [List.drop_append_of_le_length hord.le_length]
    exact hord.topic.trans (List.sublist_append_left _ _)
  fresh := hord.fresh
  json i hi := by
    have hjson := hord.json i hi
    rw [List.getElem?_append_left (List.getElem?_eq_some_iff.mp hjson).1]
    exact hjson
  body body hbody := by
    obtain ⟨shot, hshot, hk⟩ := hord.body body hbody
    exact ⟨shot, hshot.append new, hk⟩
  showing := hord.showing.imp fun _ _ hshot => hshot.append new
  below := hord.below
  sorted := hord.sorted

/-- The delta timer reads the last state that the bridge has taken, or none. -/
theorem Order.shows_stateForTcp (hord : Order states sent s k shots) (nowMs : UInt64) :
    ∃ shot, Shows states (injectRuntimeFields (s.stateForTcp nowMs) (ascii "OFFLINE")) shot ∧
      ∀ i, shot = some i → k = i + 1 := by
  unfold stateForTcp
  split
  · rename_i hfresh
    cases k with
    | zero =>
        rw [robotStateFresh, (hord.fresh rfl).1] at hfresh
        simp at hfresh
    | succ i => exact ⟨some i, ⟨_, hord.json i rfl, rfl⟩, fun j hj => by rw [Option.some.inj hj]⟩
  · exact ⟨none, ⟨nowMs, rfl⟩, fun _ h => by cases h⟩

/-- The states shown, one delta longer. -/
theorem filterMap_id_append (shots : List (Option Nat)) (shot : Option Nat) :
    (shots ++ [shot]).filterMap id = shots.filterMap id ++ shot.toList := by
  cases shot <;> simp

/-- One step: what is new goes to the end, and the bridge moves on to later states. -/
theorem Order.step {c : Nat} (hord : Order states sent s k shots)
    (heffect : StateEffect s t new o) :
    ∃ k' shots', Order (states ++ new) (sent ++ deltas c o) t k' shots' := by
  cases heffect with
  | take text htopic hjson hros hnew ho =>
      -- The state that is taken is number `i` of those that were published, and `i` is not below
      -- `k`.
      have hsub := hord.topic
      rw [htopic] at hsub
      obtain ⟨i, hki, hi, hrest⟩ := sublist_drop_cons hsub
      rw [hnew, ho, List.append_nil, List.append_nil]
      refine ⟨i + 1, shots, hrest, fun h => absurd h (Nat.succ_ne_zero i), fun j hj => ?_,
        fun body hbody => ?_, hord.showing, ?_, hord.sorted⟩
      · obtain rfl := Nat.succ.inj hj
        rw [hjson]
        exact hi
      · rw [hros] at hbody
        cases hbody
      · intro j hj
        have hlt := hord.below j hj
        omega
  | stamp hpc hros htopic hjson hnew ho =>
      rw [hnew, ho, List.append_nil, List.append_nil]
      refine ⟨k, shots, htopic ▸ hord.topic, fun hk => absurd hpc (hord.fresh hk).2,
        fun i hi => hjson ▸ hord.json i hi, fun body hbody => ?_, hord.showing, hord.below,
        hord.sorted⟩
      rw [hros] at hbody
      cases hbody
  | timer nowMs hros hsame hnew ho =>
      -- The body that goes out is made from the last state that was taken.
      rw [hnew, ho, List.append_nil, List.append_nil]
      refine ⟨k, shots, hsame.topic ▸ hord.topic,
        fun hk => ⟨hsame.lastMs ▸ (hord.fresh hk).1, by rw [hros]; simp⟩,
        fun i hi => hsame.json ▸ hord.json i hi, fun body hbody => ?_, hord.showing, hord.below,
        hord.sorted⟩
      rw [hros] at hbody
      obtain rfl := Option.some.inj hbody
      exact hord.shows_stateForTcp nowMs
  | send body hpc hros hne hsame hnew ho =>
      rw [hnew, List.append_nil]
      obtain ⟨shot, hshot, hk⟩ := hord.body body hpc
      have hbody : ∀ body', t.ros.body? = some body' →
          ∃ shot, Shows states body' shot ∧ ∀ i, shot = some i → k = i + 1 := by
        intro body' hbody'
        rw [hros] at hbody'
        obtain rfl := Option.some.inj hbody'
        exact ⟨shot, hshot, hk⟩
      -- Either the client is not sent this delta, or it is the next one it is shown.
      rcases ho c with ho | ho
      · rw [ho, List.append_nil]
        exact ⟨k, shots, hsame.topic ▸ hord.topic,
          fun hk => ⟨hsame.lastMs ▸ (hord.fresh hk).1, hne⟩,
          fun i hi => hsame.json ▸ hord.json i hi, hbody, hord.showing, hord.below, hord.sorted⟩
      · rw [ho]
        refine ⟨k, shots ++ [shot], hsame.topic ▸ hord.topic,
          fun hk => ⟨hsame.lastMs ▸ (hord.fresh hk).1, hne⟩,
          fun i hi => hsame.json ▸ hord.json i hi, hbody,
          List.rel_append hord.showing (.cons hshot .nil), fun i hi => ?_, ?_⟩
        · rcases List.mem_append.mp hi with hi | hi
          · exact hord.below i hi
          · have := hk i (List.mem_singleton.mp hi).symm
            omega
        · rw [filterMap_id_append, List.pairwise_append]
          refine ⟨hord.sorted, ?_, fun i hi j hj => ?_⟩
          · cases shot <;> simp
          · -- Whatever this client was shown before is below `k`, and this is number `k - 1`.
            have hlt : i < k := hord.below i (by simpa using hi)
            have hj' := hk j (by simpa using hj)
            omega
  | other hros htopic hjson hlast ho =>
      -- New states are published behind all others.
      rw [ho, List.append_nil]
      have hnew := hord.append new
      refine ⟨k, shots, ?_, fun hk => ⟨hlast ▸ (hord.fresh hk).1, ?_⟩,
        fun i hi => hjson ▸ hnew.json i hi, fun body hbody => ?_, hnew.showing, hnew.below,
        hnew.sorted⟩
      · rw [List.drop_append_of_le_length hord.le_length]
        exact htopic.trans (List.Sublist.append hord.topic (List.Sublist.refl _))
      · rcases hros with hros | ⟨-, hne⟩
        · rw [hros]
          exact (hord.fresh hk).2
        · exact hne
      · rcases hros with hros | ⟨hnone, -⟩
        · exact hnew.body body (hros ▸ hbody)
        · rw [hnone] at hbody
          cases hbody

end

/-- The deltas of two lists of observations. -/
theorem deltas_append (c : Nat) (o o' : List Obs) :
    deltas c (o ++ o') = deltas c o ++ deltas c o' :=
  List.filterMap_append

/-- In every run the deltas to a client show states in their order. -/
theorem Runs.order (hrun : Runs C allow h s) (c : Nat) :
    ∃ k shots, Order (statesOf C F h) (deltas c (shown h)) s k shots := by
  induction hrun with
  | nil =>
      refine ⟨0, [], List.Sublist.slnil, fun _ => ⟨rfl, by simp [init]⟩, fun i hi => ?_,
        fun body hbody => ?_, .nil, fun i hi => ?_, .nil⟩
      · cases hi
      · cases hbody
      · cases hi
  | @snoc h s t e o hrun _ hstep ih =>
      obtain ⟨k, shots, hord⟩ := ih
      have hstates : statesOf C F (h ++ [(e, o)]) = statesOf C F h ++ statesIn C (s, e) := by
        unfold statesOf
        rw [Run.trace_snoc hrun, List.flatMap_append]
        simp
      rw [hstates, shown_snoc, deltas_append]
      exact hord.step (step_state hstep)

/-- **States come in order.** In every run, each MSG_STATE_DELTA that a client has got is the
offline text or one of the states that the robot has published, as it was published but for the
runtime fields, and the client sees these in the order in which the robot has published them. -/
theorem deltas_in_order (hrun : Runs C allow h s) (c : Nat) :
    ∃ shots : List (Option Nat),
      List.Forall₂ (Shows (statesOf C F h)) (deltas c (shown h)) shots ∧
        (shots.filterMap id).Pairwise (· ≤ ·) := by
  obtain ⟨k, shots, hord⟩ := Runs.order hrun c
  exact ⟨shots, hord.showing, hord.sorted⟩

/-- The robot publishes two states, and the client gets a delta after each. -/
def watchedEvents : List Event :=
  [Event.accept, .recv 0 (clientFrame msgHello 1 "")] ++ List.replicate 4 (Event.rx 0 1) ++
    [Event.deltaTimer 2, .ros 2, .ros 2, .ros 2, .ros 2, .robot ⟨3, .configure⟩, .takeState, .ros 4,
      .deltaTimer 5, .ros 5, .ros 5, .ros 5, .ros 5, .robot ⟨6, .activate 0⟩, .takeState, .ros 7,
      .deltaTimer 8, .ros 8, .ros 8]

def watchedRun : List (Event × List Obs) × Sys ℚ :=
  (exec (step Exact.Cost) anyStep init watchedEvents).get (by decide +kernel)

/-- A run with three deltas. -/
theorem deltas_in_order_watched :
    (deltas 0 (shown watchedRun.1)).length = 3 ∧
      ∃ shots : List (Option Nat),
        List.Forall₂ (Shows (statesOf Exact.Cost ℚ watchedRun.1)) (deltas 0 (shown watchedRun.1))
          shots ∧ (shots.filterMap id).Pairwise (· ≤ ·) :=
  ⟨by decide +kernel, deltas_in_order (Run.of_exec (Option.some_get _).symm) 0⟩

end Sys

end BotCockpit.Bridge
