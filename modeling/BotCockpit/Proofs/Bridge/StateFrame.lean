import BotCockpit.Bridge.TcpServer
import BotCockpit.Proofs.Bridge.FieldSearch
import BotCockpit.Proofs.Sim.Outcome
import BotCockpit.Proofs.Sim.Publication
import BotCockpit.Proofs.Sim.StateSize
import BotCockpit.Proofs.Wire.AnyStream

/-!
# `BotCockpit.Proofs.Bridge.StateFrame`: which states reach the console

The bridge puts a state message into one frame, whatever its size. The decoder of the console
drops what it has on a length above its limit. `state_frames_arrive_iff` says that a stream of
state frames arrives exactly when each of its states takes no more than the limit.

A single fault with a long detail exceeds it (`long_detail_lost`), and then no state arrives until
the faults are cleared.
-/

set_option autoImplicit false

namespace BotCockpit.Bridge

open BotCockpit.Lib
open BotCockpit.Wire (Frame stream frameReader maxPayload)
open BotCockpit.Sim (FakeRobot Node Reachable)

variable {F : Type} [CDouble F] {C : Type} [CFloat C]

/-- A state of the robot that the bridge sends, in a snapshot or a delta. -/
structure StateShot (C : Type) [CFloat C] (F : Type) [CDouble F] where
  delta : Bool
  nowMs : UInt64
  robot : FakeRobot F
  reachable : Reachable C robot

namespace StateShot

/-- The frame with this payload. -/
def frame (s : StateShot C F) (payload : Bytes) : Frame :=
  { type := if s.delta then msgStateDelta else msgStateSnapshot, payload := payload }

/-- The frame that the bridge sends. -/
def sent (s : StateShot C F) : Frame :=
  s.frame (injectRuntimeFields (s.robot.buildStateJson s.nowMs) (ascii "OFFLINE"))

/-- The frame with the state as the robot published it. -/
def published (s : StateShot C F) : Frame := s.frame (s.robot.buildStateJson s.nowMs)

end StateShot

/-- A text between two others is found. -/
theorem afterFirst_isSome {needle : Bytes} (pre post : Bytes) :
    (afterFirst needle (pre ++ (needle ++ post))).isSome = true := by
  induction pre with
  | nil => rw [List.nil_append, afterFirst_hit]; rfl
  | cons b pre ih =>
      rw [List.cons_append, afterFirst]
      split
      · rfl
      · exact ih

/-- A state message has its `conn`, so the bridge adds nothing. -/
theorem injectRuntimeFields_state (nowMs : UInt64) (r : FakeRobot F) (conn : Bytes) :
    injectRuntimeFields (r.buildStateJson nowMs) conn = r.buildStateJson nowMs := by
  have hsecond : ∀ (text : Bytes) (v : Json) (f : String × Json) (fs : List (String × Json)),
      ∃ pre post, (Json.object (("ts_ms", .num text) :: ("conn", v) :: f :: fs)).render Sim.esc =
        pre ++ (quoted "conn" ++ post) := fun text v f fs =>
    ⟨123 :: (quoted "ts_ms" ++ 58 :: (text ++ [44])), 58 :: (v.render Sim.esc ++ 44 ::
      (Json.renderFields Sim.esc ((f :: fs).map fun kv => (ascii kv.1, kv.2)) ++ [125])), by
      simp [Json.render_object_num, Json.renderFields, quoted]⟩
  obtain ⟨pre, post, heq⟩ := hsecond (decimal nowMs.toNat) (.lit r.conn) _ _
  refine if_pos ?_
  rw [show r.buildStateJson nowMs = _ from heq]
  exact afterFirst_isSome pre post

/-- The bridge sends the state as it was published. -/
theorem sent_eq_published (s : StateShot C F) : s.sent = s.published := by
  rw [StateShot.sent, injectRuntimeFields_state, StateShot.published]

/-- **A stream of state frames arrives, however it is cut, exactly when each state takes no more
bytes than a frame may carry.** -/
theorem state_frames_arrive_iff (shots : List (StateShot C F)) :
    (∀ chunks : List Bytes, chunks.flatten = stream Bridge.encodeFrame (shots.map StateShot.sent) →
        receiveAll Ui.next chunks = (shots.map StateShot.published, [])) ↔
      ∀ s ∈ shots, s.robot.stateBytes s.nowMs ≤ 65532 := by
  have hsent : shots.map StateShot.sent = shots.map StateShot.published :=
    List.map_congr_left fun s _ => sent_eq_published s
  constructor
  · intro h s hs
    have hall := h [stream Bridge.encodeFrame (shots.map StateShot.sent)] (by simp)
    have hvalid := Wire.valid_of_receiveAll [stream Bridge.encodeFrame (shots.map StateShot.sent)]
      s.published (by
        rw [show receiveAll frameReader.next _ = _ from hall]
        exact List.mem_map_of_mem hs)
    rw [← Sim.length_buildStateJson]
    exact hvalid
  · intro h chunks hcut
    rw [hsent] at hcut
    have hvalid : ∀ f ∈ shots.map StateShot.published, f.payload.length ≤ maxPayload := by
      intro f hf
      obtain ⟨s, hs, rfl⟩ := List.mem_map.mp hf
      refine le_trans (le_of_eq ?_) (h s hs)
      exact Sim.length_buildStateJson s.nowMs s.robot
    exact (Wire.frameCodec_delivers hvalid hcut).all

/-! ### A long detail -/

/-- A command message that injects a fault with this detail. -/
def faultMessage (detail : Bytes) : Bytes :=
  [123] ++ 34 :: (ascii "cmd" ++ 34 :: ([58] ++ 34 :: (ascii "INJECT_FAULT" ++ 34 :: ([44] ++
    (quoted "detail" ++ 58 :: 34 :: (detail ++ 34 :: [125]))))))

/-- The name in the command of the fault. -/
theorem faultMessage_cmd (detail : Bytes) :
    Sim.extractString (faultMessage detail) "cmd" = some (ascii "INJECT_FAULT") := by
  have hhit : faultMessage detail = [123] ++ (quoted "cmd" ++ 58 :: 34 :: (ascii "INJECT_FAULT" ++
      34 :: ([44] ++ (quoted "detail" ++ 58 :: 34 :: (detail ++ 34 :: [125]))))) := by
    simp [faultMessage, quoted]
  rw [Sim.extractString, hhit, valueOf_skip (by decide), valueOf_hit "cmd" 34 _ rfl]
  exact congrArg some (stringBody_plain (by decide +kernel) _)

/-- Its detail, without special bytes. -/
theorem faultMessage_detail {detail : Bytes} (hplain : ∀ b ∈ detail, Plain b) :
    Sim.extractString (faultMessage detail) "detail" = some detail := by
  have hkey : IsWord "detail" := by decide +kernel
  have hsep : ∀ {b : UInt8} (tail : Bytes), isWordByte b = false → Separated ([b] ++ tail) := by
    intro b tail hb c hc
    cases hc
    exact hb
  have hskip : ∀ {pre : Bytes}, 34 ∉ pre → ∀ tail : Bytes,
      afterFirst (quoted "detail") (pre ++ tail) = afterFirst (quoted "detail") tail :=
    fun h tail => afterFirst_skip h tail
  have hfound : afterFirst (quoted "detail") (faultMessage detail) =
      some (58 :: 34 :: (detail ++ 34 :: [125])) := by
    rw [faultMessage, hskip (by decide),
      afterFirst_word hkey (by decide +kernel) (by decide +kernel)
      (hsep _ rfl), hskip (by decide), afterFirst_word hkey (by decide +kernel)
      (by decide +kernel) (hsep _ rfl), hskip (by decide), afterFirst_hit]
  have hvalue : Sim.valueOf (faultMessage detail) "detail" =
      some (34 :: (detail ++ 34 :: [125])) := by
    rw [valueOf_eq, hfound, Option.bind_some,
      show afterFirst [58] (58 :: 34 :: (detail ++ 34 :: [125])) = _ from @afterFirst_hit [58] _]
    rfl
  rw [Sim.extractString, hvalue]
  exact congrArg some (stringBody_plain hplain _)

/-- An active node handles a command. -/
theorem step_cmd {n : Node F} (hactive : n.lifecycle = .active)
    (hready : n.robot.topicsReady = true) (nowMs : UInt64) (data : Bytes) :
    n.step C ⟨nowMs, .cmd data⟩ =
      some ({ lifecycle := .active, robot := (n.robot.onCmd C nowMs data).1 },
        (n.robot.onCmd C nowMs data).2) := by
  unfold Node.step
  rw [hactive]
  simp only [Sim.LifecycleState.after, FakeRobot.handle, hready, if_true]

/-- The command of the fault adds the fault. -/
theorem onCmd_faultMessage {detail : Bytes} (hplain : ∀ b ∈ detail, Plain b) (nowMs : UInt64)
    (r : FakeRobot F) :
    (r.onCmd C nowMs (faultMessage detail)).1 = FakeRobot.injectFault detail r := by
  rw [FakeRobot.onCmd, faultMessage_cmd]
  simp only [FakeRobot.dispatch]
  rw [if_neg (by decide +kernel), if_neg (by decide +kernel), if_neg (by decide +kernel),
    if_neg (by decide +kernel), if_pos (by decide +kernel), FakeRobot.cmdInjectFault]
  simp only [faultMessage_detail hplain, Option.getD_some]
  rfl

/-- A robot that was brought up takes the fault. -/
theorem fault_reached {detail : Bytes} (hplain : ∀ b ∈ detail, Plain b) :
    ∃ r : FakeRobot ℚ, Reachable Exact.Cost r ∧ ∃ f ∈ r.faults, f.detail = detail := by
  have hready : Sim.readyNode.robot.topicsReady = true := by decide +kernel
  have hactive : Sim.readyNode.lifecycle = .active := by decide +kernel
  have hstep := step_cmd (C := Exact.Cost) hactive hready 5 (faultMessage detail)
  rw [onCmd_faultMessage hplain] at hstep
  refine ⟨_, ⟨_, _, .snoc Sim.runs_ready trivial hstep, rfl⟩,
    { code := .nodeTimeout, level := .error, detail := detail }, ?_, rfl⟩
  simp [FakeRobot.injectFault, FakeRobot.recompute_faults]

/-- There are plain details of every length. -/
theorem exists_plain (n : Nat) : ∃ detail : Bytes, (∀ b ∈ detail, Plain b) ∧ detail.length = n := by
  refine ⟨List.replicate n 97, fun b hb => ?_, List.length_replicate⟩
  rw [(List.mem_replicate.mp hb).2]
  decide

/-- **One fault silences the robot.** With a detail of 65 533 bytes no frame of the state is
decoded. -/
theorem long_detail_lost :
    ∃ r : FakeRobot ℚ, ∃ hreach : Reachable Exact.Cost r, ∀ (delta : Bool) (nowMs : UInt64),
      ¬∀ chunks : List Bytes,
        chunks.flatten = stream Bridge.encodeFrame
            [StateShot.sent { delta := delta, nowMs := nowMs, robot := r, reachable := hreach }] →
          receiveAll Ui.next chunks =
            ([StateShot.published
              { delta := delta, nowMs := nowMs, robot := r, reachable := hreach }],
              []) := by
  obtain ⟨detail, hplain, hlen⟩ := exists_plain 65533
  obtain ⟨r, hreach, f, hf, hdetail⟩ := fault_reached hplain
  refine ⟨r, hreach, fun delta nowMs h => ?_⟩
  have hlarge : 65533 ≤ r.stateBytes nowMs := by
    rw [← hlen, ← hdetail]
    exact Sim.detail_le_stateBytes hf
  exact absurd hlarge (Nat.not_le.mpr (Nat.lt_succ_of_le
    ((state_frames_arrive_iff [⟨delta, nowMs, r, hreach⟩]).mp h ⟨delta, nowMs, r, hreach⟩
      List.mem_cons_self)))

end BotCockpit.Bridge
