import BotCockpit.Lib.Exact
import BotCockpit.Proofs.Bridge.Envelope
import BotCockpit.Proofs.Bridge.Flow
import BotCockpit.Proofs.Sim.EstopLatch

/-!
# `BotCockpit.Proofs.Bridge.Robot`: the robot in a run of the system

What the robot does in a run of the system is a run of the robot (`Runs.node`), so everything
that holds of every run of the robot holds here. A command that it takes from the topic is the
command that the bridge has forwarded (`node_step_cmd`), and it is answered with one result.
-/

set_option autoImplicit false

namespace BotCockpit.Bridge.Sys

open BotCockpit.Lib
open BotCockpit.Sim (FakeRobot Output Node Request CmdResult)

variable {F : Type} [CDouble F] {C : Type} [CFloat C]

/-- What a step does to the robot: nothing, a command from the topic, or another callback. -/
inductive NodeEffect (C : Type) [CFloat C] (s t : Sys F) (e : Event) (o : List Obs) : Prop
  | none (hnode : t.node = s.node) (hprocessed : processed o = [])
  | cmd (nowMs : UInt64) (j : CmdJob) (out : List (Output F))
      (hnode : s.node.step C
        { nowMs := nowMs, call := .cmd (cmdEnvelope j.cmdName j.seq j.payload) } =
          some (t.node, out))
      (ho : o = [.processed j (out.filterMap Output.result?)])
  | other (call : Sim.Event) (out : List (Output F)) (hcall : ∀ data, call.call ≠ .cmd data)
      (hconf : (∀ x, e = .robot x → x.call ≠ .configure) → call.call ≠ .configure)
      (hnode : s.node.step C call = some (t.node, out)) (hprocessed : processed o = [])

/-- What a step does to the node of the robot. -/
theorem step_node {s t : Sys F} {e : Event} {o : List Obs} (h : s.step C e = some (t, o)) :
    NodeEffect C s t e o := by
  cases step_effect h with
  -- The two kinds of steps in which the robot does something.
  | robotCmd nowMs j topic node out _ hnode => exact NodeEffect.cmd nowMs j out hnode rfl
  | robot e call console node out hcall he hnode =>
      refine NodeEffect.other call out hcall (fun hne => ?_) hnode rfl
      rcases he with ⟨t, data, -, hconsole⟩ | rfl
      · rw [hconsole]
        exact Sim.Call.noConfusion
      · exact hne call rfl
  | rx c nowMs op rest t o htodo heffect =>
      cases heffect with
      | plain op helloOk todo o _ _ ho => exact NodeEffect.none rfl (processed_plain ho)
      | enqueue k h => exact NodeEffect.none rfl rfl
      | urgent u k =>
          cases u with
          | publish =>
              refine NodeEffect.none ?_ rfl
              unfold urgentStep publishCmd
              dsimp only
              split <;> rfl
          | _ => exact NodeEffect.none rfl rfl
  | worker nowMs steady t o heffect =>
      cases heffect with
      | publish j hpc =>
          refine NodeEffect.none ?_ rfl
          unfold publishCmd
          dsimp only
          split <;> rfl
      | refuse j reason o hpc ho =>
          refine NodeEffect.none rfl ?_
          rcases ho with rfl | rfl <;> rfl
      | ack j text hpc => exact NodeEffect.none rfl (flow_sendFrame ..).2
      | _ => exact NodeEffect.none rfl rfl
  | ros nowMs t o heffect =>
      cases heffect with
      | ackNext m seq d clients _ =>
          refine NodeEffect.none rfl ?_
          split
          · exact (flow_sendFrame ..).2
          · rfl
      | other r lastMs console o _ _ ho => exact NodeEffect.none rfl (processed_plain ho)
      | _ => exact NodeEffect.none rfl rfl
  | lose topic i => cases topic <;> exact NodeEffect.none rfl rfl
  | _ => exact NodeEffect.none rfl rfl

/-- **The robot's part of a run of the system is a run of the robot.** -/
theorem Runs.node {allow : Sys F → Event → Prop} {h : List (Event × List Obs)} {s : Sys F}
    (hrun : Runs C allow h s) : ∃ g, Node.Runs C g s.node := by
  refine hrun.invariant (P := fun s => ∃ g, Node.Runs C g s.node) ⟨[], Run.nil⟩
    fun s e t o ⟨g, hg⟩ _ hstep => ?_
  cases step_node hstep with
  | none hnode _ => exact ⟨g, hnode ▸ hg⟩
  | cmd nowMs j out hnode _ => exact ⟨_, Run.snoc hg trivial hnode⟩
  | other call out _ _ hnode _ => exact ⟨_, Run.snoc hg trivial hnode⟩

/-! ### A command of the topic -/

/-- What the robot makes of a forwarded command. -/
def request (nowMs : UInt64) (j : CmdJob) : Request :=
  { nowMs := nowMs
    data := cmdEnvelope j.cmdName j.seq j.payload
    cmd := j.cmdName
    seq := j.seq }

/-- The robot handles the command that the bridge has forwarded. -/
theorem node_step_cmd {nowMs : UInt64} {j : CmdJob} {n m : Node F} {out : List (Output F)}
    (h : n.step C { nowMs := nowMs, call := .cmd (cmdEnvelope j.cmdName j.seq j.payload) } =
      some (m, out)) :
    n.robot.topicsReady = true ∧
    FakeRobot.dispatch C (request nowMs j) n.robot = (m.robot, out) := by
  obtain ⟨hready, hcmd⟩ := Sim.FakeRobot.handle_cmd rfl (Sim.Node.step_handle h)
  refine ⟨hready, ?_⟩
  rw [← hcmd]
  exact (onCmd_cmdEnvelope C j.command.forwarded j.seq j.payload nowMs n.robot).symm

/-- One result for each command, with its sequence number. -/
theorem node_step_results {nowMs : UInt64} {j : CmdJob} {n m : Node F} {out : List (Output F)}
    (h : n.step C { nowMs := nowMs, call := .cmd (cmdEnvelope j.cmdName j.seq j.payload) } =
      some (m, out)) :
    ∃ res, out.filterMap Output.result? = [res] ∧ res.seq = j.seq := by
  obtain ⟨hready, hdispatch⟩ := node_step_cmd h
  obtain ⟨res, hres, hseq⟩ := dispatch_results C (request nowMs j) hready
  rw [hdispatch] at hres
  exact ⟨res, hres, hseq⟩

/-- The sequence number that the bridge reads from a result is the one of its command. -/
theorem resultSeq_text (res : CmdResult) : resultSeq res.text = some res.seq := by
  unfold resultSeq
  rw [getInt_text]
  have hnot : ¬((res.seq.toNat : Int) < 0) := by omega
  simp only [if_neg hnot, Int.toNat_natCast, UInt16.ofNat_toNat]

/-! ### The system brought up -/

/-- A frame as a client writes it. -/
def clientFrame (type : UInt8) (seq : UInt16) (payload : String) : Bytes :=
  Ui.encodeFrame type 0 seq (ascii payload)

/-- The robot is configured and activated, the bridge has its state, and client 0 has greeted. -/
def bringUp : List Event :=
  [Event.robot ⟨1, .configure⟩, .robot ⟨2, .activate 0⟩, .takeState, .ros 3, .takeState, .ros 4,
    .accept,
    .recv 0 (clientFrame msgHello 1 "")] ++ List.replicate 4 (Event.rx 0 5)

end BotCockpit.Bridge.Sys
