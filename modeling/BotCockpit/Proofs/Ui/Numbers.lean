import BotCockpit.Lib.Counter
import BotCockpit.Proofs.Ui.SocketWorker
import BotCockpit.Spec.Worker

/-!
# `BotCockpit.Proofs.Ui.Numbers`: sequence numbers and round trips of the worker

A slot that handles no frame sends at most one, and `Sends` says what that does to the counter and
to the table of heartbeats. `handleFrame_effect` says the same of a frame that comes in. Two
invariants of a run read the two: `Counts`, that the frames written so far carry the turns of the
counter, and `Paired`, that every entry of the table is a heartbeat that is still unmatched.

Both hold across the wrap-around: a number that comes again replaces its entry in the table, so the
entry is always that of the last heartbeat with the number.
-/

set_option autoImplicit false

namespace BotCockpit.Ui.SocketWorker

open BotCockpit.Lib
open BotCockpit.Wire (Frame)

/-! ### What a slot sends -/

/-- What a slot that handles no frame does to the counter and to the table: it sends nothing, and
may empty the table, or it sends one frame on a connected socket. -/
inductive Sends (now : Int64) (w w' : SocketWorker) (out : List Output) : Prop
  | nothing (hout : out.filterMap Output.frame? = []) (hnext : w'.nextSeq = w.nextSeq)
      (htable : w'.hbSendTs = [] ∨ w'.hbSendTs = w.hbSendTs ∧
        (w'.socket = .connecting → w.socket = .connecting))
  | frame {f : Frame} (hout : out.filterMap Output.frame? = [f]) (hseq : f.seq = w.nextSeq)
      (hnext : w'.nextSeq = w.stepSeq.nextSeq)
      (htable : w'.hbSendTs = w.hbSendTs ∨
        f.type = msgHeartbeat ∧ w'.hbSendTs = w.hbSendTs.insert f.seq now)
      (hsocket : w'.socket = .connected)

/-- What the numbers depend on. -/
def numbers (w : SocketWorker) : UInt16 × SeqHash Int64 × SocketState :=
  (w.nextSeq, w.hbSendTs, w.socket)

/-- A slot that handles no frame, with what it sends out. -/
structure Sending (now : Int64) (w w' : SocketWorker) (out : List Output) : Prop where
  sends : Sends now w w' out
  /-- It reports no round trip. -/
  silent : out.filterMap Output.rtt? = []

section

variable {now : Int64} {w w' : SocketWorker} {out : List Output}

/-- Only the numbers matter. -/
theorem Sending.congr {v v' : SocketWorker} (h : Sending now v v' out)
    (hpre : w.numbers = v.numbers) (hpost : w'.numbers = v'.numbers) : Sending now w w' out := by
  obtain ⟨hnext, htable, hsocket⟩ : w.nextSeq = v.nextSeq ∧ w.hbSendTs = v.hbSendTs ∧
      w.socket = v.socket := by simpa [numbers] using hpre
  obtain ⟨hnext', htable', hsocket'⟩ : w'.nextSeq = v'.nextSeq ∧ w'.hbSendTs = v'.hbSendTs ∧
      w'.socket = v'.socket := by simpa [numbers] using hpost
  obtain ⟨hsends, hsilent⟩ := h
  refine ⟨?_, hsilent⟩
  cases hsends with
  | nothing hout hstay hkept =>
      refine .nothing hout (by rw [hnext', hstay, hnext]) ?_
      rwa [htable', htable, hsocket', hsocket]
  | frame hout hseq hstep hkept hopen =>
      refine .frame hout (hseq.trans hnext.symm) ?_ ?_ (hsocket'.trans hopen)
      · rw [hnext', hstep, stepSeq, stepSeq, hnext]
      · rwa [htable', htable]

/-- A slot that keeps the numbers and sends nothing. -/
theorem Sending.refl (h : w'.numbers = w.numbers) : Sending now w w' [] :=
  Sending.congr ⟨.nothing rfl rfl (Or.inr ⟨rfl, id⟩), rfl⟩ rfl h

/-- A slot after which the socket is closed, and that keeps the counter and the table. -/
theorem Sending.closing (hout : out.filterMap Output.frame? = [])
    (hsilent : out.filterMap Output.rtt? = []) (hnext : w'.nextSeq = w.nextSeq)
    (htable : w'.hbSendTs = w.hbSendTs) (hclosed : w'.socket = .unconnected) :
    Sending now w w' out :=
  ⟨.nothing hout hnext (Or.inr ⟨htable, fun h => absurd (hclosed.symm.trans h) (by simp)⟩),
    hsilent⟩

/-- A signal that is no round trip changes nothing. -/
theorem Sending.signal {x : WorkerSignal} (h : Sending now w w' out)
    (hx : (Output.signal x).rtt? = none) : Sending now w w' (.signal x :: out) := by
  have hframes : (Output.signal x :: out).filterMap Output.frame? = out.filterMap Output.frame? :=
    List.filterMap_cons_none rfl
  refine ⟨?_, by rw [List.filterMap_cons_none hx, h.silent]⟩
  cases h.sends with
  | nothing hout hnext htable => exact .nothing (hframes.trans hout) hnext htable
  | frame hout hseq hnext htable hsocket =>
      exact .frame (hframes.trans hout) hseq hnext htable hsocket

/-- Writing a frame takes the next number. -/
theorem sendFrame_sending (now : Int64) (w : SocketWorker) (type flags : UInt8) (payload : Bytes) :
    Sending now w (w.sendFrame type flags payload).2.1 (w.sendFrame type flags payload).2.2 := by
  unfold sendFrame
  split
  · exact ⟨.nothing rfl rfl (Or.inr ⟨rfl, id⟩), rfl⟩
  · rename_i hsocket
    exact ⟨.frame rfl rfl rfl (Or.inl rfl) (not_not.mp hsocket), rfl⟩

/-- The table of command names is another one. -/
theorem sendCmd_sending (type flags : UInt8) (name : String) (payload : Bytes) :
    Sending now w (w.sendCmd type flags name payload).1 (w.sendCmd type flags name payload).2 := by
  rw [sendCmd_out]
  refine (sendFrame_sending now w type flags payload).congr rfl ?_
  unfold sendCmd
  dsimp only
  split <;> rfl

/-- Aborting writes nothing. -/
theorem abort_sending (now : Int64) (w : SocketWorker) : Sending now w w.abort.1 w.abort.2 := by
  unfold abort
  split <;> exact Sending.closing rfl rfl rfl rfl rfl

/-- A failure that closes the socket writes nothing. -/
theorem failAndClose_sending (message : Bytes) :
    Sending now w (w.failAndClose message).1 (w.failAndClose message).2 :=
  Sending.signal
    ((abort_sending now { w with hbTimer := false, timeoutTimer := false }).congr rfl rfl) rfl

end

section

variable {F : Type} [Qt F]

/-- A queued call writes at most one frame. -/
theorem onCall_sending (now : Int64) (w : SocketWorker) (call : WorkerCall F) :
    Sending now w (w.onCall now call).1 (w.onCall now call).2 := by
  cases call with
  | startWorker host port =>
      obtain ⟨hsends, hsilent⟩ := abort_sending now w
      refine ⟨?_, hsilent⟩
      -- The new attempt empties the table.
      cases hsends with
      | nothing hout hnext htable => exact .nothing hout hnext (Or.inl rfl)
      | frame hout hseq hnext htable hsocket =>
          exact absurd ((abort_eq w).1.symm.trans hsocket) (by simp)
  | stopWorker => exact (abort_sending now _).congr rfl rfl
  | cmdMode mode => exact sendCmd_sending _ _ _ _
  | cmdTask taskId type x y timeoutS => exact sendCmd_sending _ _ _ _
  | cmdEstop reason => exact sendCmd_sending _ _ _ _
  | cmdReset => exact sendCmd_sending _ _ _ _

/-- A heartbeat writes its frame and remembers when. -/
theorem onHeartbeatTick_sending (now : Int64) (w : SocketWorker) :
    Sending now w (w.onHeartbeatTick F now).1 (w.onHeartbeatTick F now).2 := by
  unfold onHeartbeatTick
  split
  · exact Sending.refl rfl
  · rename_i hsocket
    exact ⟨.frame rfl rfl rfl (Or.inr ⟨rfl, rfl⟩) (not_not.mp hsocket), rfl⟩

/-- A timeout writes nothing. -/
theorem onTimeoutTick_sending (now : Int64) (w : SocketWorker) :
    Sending now w (w.onTimeoutTick now).1 (w.onTimeoutTick now).2 := by
  unfold onTimeoutTick
  split
  · exact Sending.refl rfl
  split
  · exact failAndClose_sending _
  · exact Sending.refl rfl

/-- `onSocketConnected` sends HELLO. -/
theorem onSocketConnected_sending (now : Int64) (w : SocketWorker) :
    Sending now w (w.onSocketConnected F now).1 (w.onSocketConnected F now).2 :=
  Sending.signal ((sendFrame_sending now { w with lastRxMs := now } msgHello 0 _).congr rfl rfl) rfl

/-- An event other than a new connection and a delivery. -/
theorem onEvent_sending {now : Int64} {w : SocketWorker} {e : SocketEvent}
    {r : SocketWorker × List Output} (h : w.onEvent F now e = some r) (hnew : e ≠ .connected)
    (hdata : ∀ data, e ≠ .readyRead data) : Sending now w r.1 r.2 := by
  cases e with
  | connected => exact absurd rfl hnew
  | readyRead data => exact absurd rfl (hdata data)
  | failed message =>
      simp only [onEvent] at h
      split at h <;> cases h
      exact Sending.closing rfl rfl rfl rfl rfl
  | error message =>
      simp only [onEvent] at h
      split at h <;> cases h
      exact failAndClose_sending message
  | closed =>
      simp only [onEvent] at h
      split at h <;> cases h
      exact Sending.closing rfl rfl rfl rfl rfl
  | heartbeatTick =>
      simp only [onEvent] at h
      split at h <;> cases h
      exact onHeartbeatTick_sending now w
  | timeoutTick =>
      simp only [onEvent] at h
      split at h <;> cases h
      exact onTimeoutTick_sending now w

/-! ### What a frame does -/

/-- A frame takes its number from the table when it is a heartbeat of the bridge. The round trip it
reports, if any, is that of the entry. -/
theorem handleFrame_effect (now : Int64) (frame : Frame) (w : SocketWorker) :
    (w.handleFrame F now frame).1.nextSeq = w.nextSeq ∧
      (w.handleFrame F now frame).1.hbSendTs =
        (if isPong F frame = true then w.hbSendTs.remove frame.seq else w.hbSendTs) ∧
      ∀ ms ∈ (w.handleFrame F now frame).2.filterMap Output.rtt?,
        isPong F frame = true ∧
          ∃ sentTs, (frame.seq, sentTs) ∈ w.hbSendTs ∧ ms = (now - sentTs).toInt32 := by
  unfold handleFrame
  dsimp only
  split
  · rename_i htype
    have hpong : isPong F frame = false := by simp [isPong, htype, msgHelloAck, msgHeartbeat]
    simp [hpong, Output.rtt?]
  split
  · rename_i htype
    split
    · rename_i hrole
      have hpong : isPong F frame = true := by simp [isPong, htype, hrole]
      refine ⟨rfl, (if_pos hpong).symm, fun ms hms => ⟨hpong, ?_⟩⟩
      split at hms
      · rename_i hpos
        -- A missing entry reads as 0, and reports nothing.
        cases hvalue : w.hbSendTs.value frame.seq with
        | none => simp [hvalue] at hpos
        | some sentTs =>
            obtain ⟨pre, post, heq, -⟩ := List.lookup_eq_some_iff.mp hvalue
            refine ⟨sentTs, by simp [heq], ?_⟩
            simpa [Output.rtt?, hvalue] using hms
      · simp at hms
    · rename_i hrole
      have hpong : isPong F frame = false := by simp [isPong, hrole]
      simp [hpong]
  split
  · rename_i htype
    have hpong : isPong F frame = false := by
      rcases htype with h | h <;> simp [isPong, h, msgStateSnapshot, msgStateDelta, msgHeartbeat]
    refine ⟨rfl, by simp [hpong], fun ms hms => ?_⟩
    split at hms <;> simp [Output.rtt?] at hms
  split
  · rename_i htype
    have hpong : isPong F frame = false := by simp [isPong, htype, msgCmdAck, msgHeartbeat]
    simp [hpong, Output.rtt?]
  · rename_i hno _ _
    have hpong : isPong F frame = false := by simp [isPong, hno]
    simp [hpong]

/-! ### One slot -/

/-- The three kinds of slots, with their acts: one that handles no frame, a new connection, and a
delivery. -/
inductive Slot (w w' : SocketWorker) (out : List Output) : List Act → Prop
  | sends {now : Int64} (h : Sending now w w' out) : Slot w w' out (sentActs now out)
  | opens {now : Int64} {v : SocketWorker} (hsocket : w.socket = .connecting)
      (hnext : v.nextSeq = w.nextSeq) (htable : v.hbSendTs = w.hbSendTs)
      (h : Sending now v w' out) : Slot w w' out (.opened :: sentActs now out)
  | receives {now : Int64} {v : SocketWorker} (frames : List Frame)
      (hsame : v.numbers = w.numbers) (h : v.handleFrames F now frames = (w', out)) :
      Slot w w' out (gotActs F now frames v)

/-- Every step of the worker is a slot of one of the kinds above. -/
theorem slot_of_step {w w' : SocketWorker} {e : WorkerEvent F} {out : List Output}
    (h : w.step e = some (w', out)) : Slot (F := F) w w' out (slotActs w e) := by
  cases e with
  | call now call =>
      simp only [step, Option.some.injEq] at h
      have hsending := onCall_sending now w call
      simp only [slotActs, h] at hsending ⊢
      exact .sends hsending
  | socket now e =>
      simp only [step] at h
      cases e with
      | connected =>
          have hsocket : w.socket = .connecting := by
            by_contra hne
            simp [onEvent, hne] at h
          simp only [slotActs, h, Option.map_some, Option.getD_some]
          simp only [onEvent, if_pos hsocket, Option.some.injEq] at h
          have hsending :=
            onSocketConnected_sending (F := F) now { w with socket := .connected, handled := [] }
          rw [h] at hsending
          exact .opens (v := { w with socket := .connected, handled := [] }) hsocket rfl rfl
            hsending
      | readyRead data =>
          have hsocket : w.socket = .connected := by
            by_contra hne
            simp [onEvent, hne] at h
          simp only [onEvent, if_pos hsocket, Option.some.injEq] at h
          exact .receives _ rfl h
      | _ =>
          have hsending := onEvent_sending h (by simp) (by simp)
          simp only [slotActs, h, Option.map_some, Option.getD_some]
          exact .sends hsending

/-! ### The counter -/

/-- The frames written so far carry the turns of the counter, and the next one is its value. -/
def Counts (frames : List Frame) (w : SocketWorker) : Prop :=
  frames.map (·.seq.toNat) = (List.range frames.length).map (turn 65535) ∧
    w.nextSeq.toNat = turn 65535 frames.length

/-- The next number, with the wrap from 65535 to 1. -/
theorem toNat_stepSeq (w : SocketWorker) :
    w.stepSeq.nextSeq.toNat =
      if w.nextSeq.toNat = 65535 then 1 else w.nextSeq.toNat + 1 := by
  have hlt : w.nextSeq.toNat < 65536 := w.nextSeq.toNat_lt
  have hsum : (w.nextSeq + 1).toNat = (w.nextSeq.toNat + 1) % 65536 := UInt16.toNat_add _ _
  have hzero : w.nextSeq + 1 = 0 ↔ (w.nextSeq.toNat + 1) % 65536 = 0 := by
    rw [← hsum, ← UInt16.toNat_inj]
    rfl
  unfold stepSeq
  dsimp only
  split
  · rename_i h
    rw [if_pos (by have := hzero.mp h; omega)]
    rfl
  · rename_i h
    have hne : (w.nextSeq.toNat + 1) % 65536 ≠ 0 := fun h' => h (hzero.mpr h')
    rw [if_neg (by omega), hsum]
    omega

/-- Frames that are written with the next numbers keep the count. -/
theorem Counts.sending {now : Int64} {frames : List Frame} {w w' : SocketWorker}
    {out : List Output} (h : Counts frames w) (hslot : Sending now w w' out) :
    Counts (frames ++ out.filterMap Output.frame?) w' := by
  obtain ⟨hseqs, hnext⟩ := h
  cases hslot.sends with
  | nothing hout hstay _ =>
      exact ⟨by simpa [hout] using hseqs, by simpa [hout, hstay] using hnext⟩
  | @frame f hout hseq hstep _ _ =>
      have hlen : (frames ++ [f]).length = frames.length + 1 := by simp
      rw [hout, Counts, hlen, List.range_succ, List.map_append, List.map_append, hseqs]
      refine ⟨by simp [hseq, hnext], ?_⟩
      rw [hstep, toNat_stepSeq, hnext, turn_succ (by omega)]

/-- The count looks at the next number only. -/
theorem Counts.congr {frames : List Frame} {w w' : SocketWorker} (h : Counts frames w)
    (hnext : w'.nextSeq = w.nextSeq) : Counts frames w' := ⟨h.1, by rw [hnext]; exact h.2⟩

/-- Frames that come in use up no number. -/
theorem handleFrames_nextSeq (now : Int64) (frames : List Frame) (w : SocketWorker) :
    (w.handleFrames F now frames).1.nextSeq = w.nextSeq := by
  induction frames generalizing w with
  | nil => rfl
  | cons frame frames ih => exact (ih _).trans (handleFrame_effect (F := F) now frame w).1

/-- Frames that come in are answered by no frame. -/
theorem frames_handleFrames (now : Int64) (frames : List Frame) (w : SocketWorker) :
    (w.handleFrames F now frames).2.filterMap Output.frame? = [] := by
  refine List.filterMap_eq_nil_iff.mpr fun o ho => ?_
  cases o with
  | signal x => rfl
  | write f => exact absurd ho (not_mem_handleFrames now frames w f)

/-- A slot of the worker keeps the count. -/
theorem Counts.slot {frames : List Frame} {w w' : SocketWorker} {out : List Output}
    {done : List Act} (h : Counts frames w) (hslot : Slot (F := F) w w' out done) :
    Counts (frames ++ out.filterMap Output.frame?) w' := by
  cases hslot with
  | sends hsending => exact h.sending hsending
  | opens _ hnext _ hsending => exact (h.congr hnext).sending hsending
  | @receives now v frames' hsame heq =>
      have hnext := handleFrames_nextSeq (F := F) now frames' v
      have hout := frames_handleFrames (F := F) now frames' v
      rw [heq] at hnext hout
      rw [hout, List.append_nil]
      exact h.congr (hnext.trans (congrArg Prod.fst hsame))

/-- In every run the written frames carry the numbers of the count. -/
theorem Runs.counts {h : History F} {w : SocketWorker} (hrun : Runs h w) :
    Counts (written h) w := by
  have hstart : Counts (written ([] : History F)) {} := ⟨rfl, rfl⟩
  refine hrun.invariant_history (P := fun h w => Counts (written h) w) hstart
    fun h w e w' out ih _ hstep => ?_
  have hsnoc : written (h ++ [(e, out)]) = written h ++ out.filterMap Output.frame? := by
    simp [written]
  rw [hsnoc]
  exact ih.slot (slot_of_step hstep)

/-! ### The table -/

/-- Every entry of the table is a heartbeat that is still unmatched. The table is empty while an
attempt is in progress, so a new connection finds it empty. -/
structure Paired (done : List Act) (w : SocketWorker) : Prop where
  pending : ∀ x ∈ w.hbSendTs, ∃ beat, Unmatched F done beat x.2 ∧ beat.seq = x.1
  idle : w.socket = .connecting → w.hbSendTs = []
  pairs : PairsRoundTrips F done

/-- An act that reports nothing keeps the pairing. -/
theorem PairsRoundTrips.snoc {done : List Act} {a : Act} (h : PairsRoundTrips F done)
    (ha : ∀ frame now rtts, a = .got frame now rtts → ∀ ms ∈ rtts,
      isPong F frame = true ∧ ∃ beat sentTs, Unmatched F done beat sentTs ∧
        beat.seq = frame.seq ∧ ms = (now - sentTs).toInt32) :
    PairsRoundTrips F (done ++ [a]) := by
  intro pre frame now rtts post heq ms hms
  rcases List.eq_nil_or_concat post with rfl | ⟨post, b, rfl⟩
  · obtain ⟨rfl, hlast⟩ := List.append_inj' heq rfl
    exact ha frame now rtts (List.singleton_inj.mp hlast) ms hms
  · rw [List.concat_eq_append, ← List.cons_append, ← List.append_assoc] at heq
    obtain ⟨rfl, -⟩ := List.append_inj' heq rfl
    exact h pre frame now rtts post rfl ms hms

/-- A beat stays unmatched while nothing that matches it happens. -/
theorem Unmatched.extend {done : List Act} {a : Act} {beat : Frame} {sentTs : Int64}
    (h : Unmatched F done beat sentTs) (ha : Act.leaves F beat.seq a) :
    Unmatched F (done ++ [a]) beat sentTs := ⟨h.1, h.2.extend ha⟩

namespace Paired

variable {done : List Act} {w w' : SocketWorker}

/-- The pairing looks at the numbers of the worker only. -/
theorem congr (h : Paired (F := F) done w) (hsame : w'.numbers = w.numbers) :
    Paired (F := F) done w' := by
  obtain ⟨-, htable, hsocket⟩ : w'.nextSeq = w.nextSeq ∧ w'.hbSendTs = w.hbSendTs ∧
      w'.socket = w.socket := by simpa [numbers] using hsame
  exact ⟨by rw [htable]; exact h.pending, by rw [htable, hsocket]; exact h.idle, h.pairs⟩

/-- Frames that are written keep the pairing, a beat opens a new one. -/
theorem sending {now : Int64} {out : List Output} (h : Paired (F := F) done w)
    (hslot : Sending now w w' out) : Paired (F := F) (done ++ sentActs now out) w' := by
  cases hslot.sends with
  | nothing hout hnext htable =>
      rw [sentActs, hout, List.map_nil, List.append_nil]
      rcases htable with hempty | ⟨hsame, hsocket⟩
      · exact ⟨by simp [hempty], fun _ => hempty, h.pairs⟩
      · exact ⟨by rw [hsame]; exact h.pending, fun hc => by rw [hsame, h.idle (hsocket hc)],
          h.pairs⟩
  | @frame f hout hseq hnext htable hsocket =>
      rw [sentActs, hout, List.map_singleton]
      refine ⟨fun x hx => ?_, fun hc => absurd (hsocket.symm.trans hc) (by simp),
        h.pairs.snoc fun _ _ _ heq => by cases heq⟩
      rcases htable with hsame | ⟨htype, hinsert⟩
      · rw [hsame] at hx
        obtain ⟨beat, hbeat, hnum⟩ := h.pending x hx
        exact ⟨beat, hbeat.extend trivial, hnum⟩
      · rw [hinsert, SeqHash.insert, List.mem_cons, List.mem_filter] at hx
        rcases hx with rfl | ⟨hx, -⟩
        · exact ⟨f, ⟨htype, Since.start done rfl⟩, rfl⟩
        · obtain ⟨beat, hbeat, hnum⟩ := h.pending x hx
          exact ⟨beat, hbeat.extend trivial, hnum⟩

/-- The entry of the number that a heartbeat of the bridge takes is gone, and only that one. -/
theorem frame (h : Paired (F := F) done w) (now : Int64) (frame : Frame) :
    Paired (F := F)
      (done ++ [.got frame now ((w.handleFrame F now frame).2.filterMap Output.rtt?)])
      (w.handleFrame F now frame).1 := by
  obtain ⟨-, htable, hrtts⟩ := handleFrame_effect (F := F) now frame w
  have hsocket := (handleFrame_moves (F := F) now frame w).1
  refine ⟨fun x hx => ?_, fun hc => ?_, h.pairs.snoc fun f t rtts heq ms hms => ?_⟩
  · rw [htable] at hx
    have hold : x ∈ w.hbSendTs ∧ (isPong F frame = true → frame.seq ≠ x.1) := by
      split at hx
      · obtain ⟨hmem, hne⟩ := List.mem_filter.mp hx
        exact ⟨hmem, fun _ heq => by simp [heq] at hne⟩
      · rename_i hno
        exact ⟨hx, fun hpong => absurd hpong hno⟩
    obtain ⟨hmem, hleaves⟩ := hold
    obtain ⟨beat, hbeat, hnum⟩ := h.pending x hmem
    refine ⟨beat, hbeat.extend ?_, hnum⟩
    rwa [← hnum] at hleaves
  · rw [htable, h.idle (hsocket.symm.trans hc)]
    split <;> rfl
  · cases heq
    obtain ⟨hpong, sentTs, hmem, hms⟩ := hrtts ms hms
    obtain ⟨beat, hbeat, hnum⟩ := h.pending _ hmem
    exact ⟨hpong, beat, sentTs, hbeat, hnum, hms⟩

/-- Frames that come in keep the pairing: an echo closes the pair it belongs to. -/
theorem frames (now : Int64) (fs : List Frame) (h : Paired (F := F) done w) :
    Paired (F := F) (done ++ gotActs F now fs w) (w.handleFrames F now fs).1 := by
  induction fs generalizing done w with
  | nil => simpa [gotActs, handleFrames] using h
  | cons f fs ih =>
      have hrest := ih (h.frame now f)
      rwa [List.append_assoc] at hrest

/-- A slot of the worker keeps the pairing. -/
theorem slot {out : List Output} {next : List Act} (h : Paired (F := F) done w)
    (hslot : Slot (F := F) w w' out next) : Paired (F := F) (done ++ next) w' := by
  cases hslot with
  | sends hsending => exact h.sending hsending
  | @opens now v hsocket hnext htable hsending =>
      have hempty : v.hbSendTs = [] := htable.trans (h.idle hsocket)
      have hopened : Paired (F := F) (done ++ [.opened]) v :=
        ⟨by simp [hempty], fun _ => hempty, h.pairs.snoc fun _ _ _ heq => by cases heq⟩
      have hsent := hopened.sending hsending
      rwa [List.append_assoc] at hsent
  | @receives now v fs hsame heq =>
      have hframes := (h.congr hsame).frames now fs
      rwa [heq] at hframes

end Paired

/-! ### The acts of a run -/

/-- The acts of the written frames are those frames. -/
theorem filterMap_sent_sentActs (now : Int64) (out : List Output) :
    (sentActs now out).filterMap Act.sent? = out.filterMap Output.frame? := by
  rw [sentActs, List.filterMap_map]
  exact List.filterMap_some

/-- A written frame measures no round trip. -/
theorem flatMap_rtts_sentActs (now : Int64) (out : List Output) :
    (sentActs now out).flatMap Act.rtts = [] := by
  rw [sentActs, List.flatMap_map]
  exact List.flatMap_eq_nil_iff.mpr fun _ _ => rfl

/-- Frames that come in are no written ones, and measure what the worker reports. -/
theorem accounts_gotActs (now : Int64) (frames : List Frame) (w : SocketWorker) :
    (gotActs F now frames w).filterMap Act.sent? = [] ∧
      (gotActs F now frames w).flatMap Act.rtts =
        (w.handleFrames F now frames).2.filterMap Output.rtt? := by
  induction frames generalizing w with
  | nil => exact ⟨rfl, rfl⟩
  | cons f fs ih =>
      obtain ⟨hsent, hrtts⟩ := ih (w.handleFrame F now f).1
      refine ⟨hsent, ?_⟩
      rw [gotActs, List.flatMap_cons, hrtts, handleFrames, List.filterMap_append]
      rfl

/-- The acts account for the frames that a slot writes and for the round trips it reports. -/
theorem accounts_slot {w w' : SocketWorker} {out : List Output} {next : List Act}
    (h : Slot (F := F) w w' out next) :
    next.filterMap Act.sent? = out.filterMap Output.frame? ∧
      next.flatMap Act.rtts = out.filterMap Output.rtt? := by
  cases h with
  | @sends now hsending =>
      exact ⟨filterMap_sent_sentActs now out,
        (flatMap_rtts_sentActs now out).trans hsending.silent.symm⟩
  | @opens now v _ _ _ hsending =>
      exact ⟨filterMap_sent_sentActs now out,
        (flatMap_rtts_sentActs now out).trans hsending.silent.symm⟩
  | @receives now v fs hsame heq =>
      have hframes := frames_handleFrames (F := F) now fs v
      obtain ⟨hsent, hrtts⟩ := accounts_gotActs (F := F) now fs v
      rw [heq] at hframes hrtts
      exact ⟨hsent.trans hframes.symm, hrtts⟩

section

variable {h : History F} {w : SocketWorker}

/-- The acts of a run, one step longer. -/
theorem Runs.acts_snoc (hrun : Runs h w) (e : WorkerEvent F) (out : List Output) :
    acts (h ++ [(e, out)]) = acts h ++ slotActs w e := by
  rw [acts, hrun.trace_snoc, List.flatMap_append]
  exact congrArg _ (List.append_nil _)

/-- In every run the pairing is that of its acts. -/
theorem Runs.paired (hrun : Runs h w) : Paired (F := F) (acts h) w := by
  induction hrun with
  | nil =>
      refine ⟨by simp, fun _ => rfl, fun pre frame now rtts post heq => ?_⟩
      simp [acts, trace] at heq
  | snoc hrun _ hstep ih =>
      rw [Runs.acts_snoc hrun]
      exact ih.slot (slot_of_step hstep)

/-- The acts of a run account for its written frames and its reported round trips. -/
theorem Runs.accounts (hrun : Runs h w) :
    (acts h).filterMap Act.sent? = written h ∧ (acts h).flatMap Act.rtts = reported h := by
  induction hrun with
  | nil => exact ⟨rfl, rfl⟩
  | snoc hrun _ hstep ih =>
      obtain ⟨hsent, hrtts⟩ := accounts_slot (slot_of_step hstep)
      rw [Runs.acts_snoc hrun, List.filterMap_append, List.flatMap_append, ih.1, ih.2, hsent, hrtts]
      exact ⟨by simp [written], by simp [reported]⟩

/-- No frame is written with the number 0. -/
theorem Runs.seq_ne_zero (hrun : Runs h w) {f : Frame} (hf : f ∈ written h) : f.seq ≠ 0 := by
  intro hzero
  have hmem : f.seq.toNat ∈ (written h).map (·.seq.toNat) := List.mem_map_of_mem hf
  rw [(Runs.counts hrun).1] at hmem
  obtain ⟨n, -, hturn⟩ := List.mem_map.mp hmem
  exact turn_ne_zero n (hturn.trans (by rw [hzero]; rfl))

/-- **Sequence numbers and round trips.** Over any run of the worker: no frame is written with the
number 0, any 65535 frames written in a row carry distinct numbers, and every round trip is that
of a heartbeat of the bridge to the unmatched heartbeat of its number. A heartbeat that comes in
with the number 0 reports none. -/
theorem round_trips (hrun : Runs h w) :
    (∀ f ∈ written h, f.seq ≠ 0) ∧
      (∀ frames, frames <:+: written h → frames.length ≤ 65535 →
        (frames.map Frame.seq).Nodup) ∧
      (acts h).filterMap Act.sent? = written h ∧ (acts h).flatMap Act.rtts = reported h ∧
      PairsRoundTrips F (acts h) ∧
      ∀ frame now rtts, .got frame now rtts ∈ acts h → frame.seq = 0 → rtts = [] := by
  have hpairs := (Runs.paired hrun).pairs
  obtain ⟨hsent, hrtts⟩ := Runs.accounts hrun
  refine ⟨fun f hf => Runs.seq_ne_zero hrun hf, fun frames hpart hlen => ?_, hsent, hrtts, hpairs,
    fun frame now rtts hgot hzero => ?_⟩
  · have hturns : frames.map (·.seq.toNat) <:+: (written h).map (·.seq.toNat) := hpart.map _
    rw [(Runs.counts hrun).1] at hturns
    have hnodup : (frames.map (·.seq.toNat)).Nodup := nodup_turns hturns (by simpa using hlen)
    refine List.Nodup.of_map UInt16.toNat ?_
    rwa [List.map_map]
  · -- The heartbeat it would be paired with was written, and not with 0.
    obtain ⟨pre, post, heq⟩ := List.append_of_mem hgot
    refine List.eq_nil_iff_forall_not_mem.mpr fun ms hms => ?_
    obtain ⟨-, beat, sentTs, hbeat, hnum, -⟩ := hpairs pre frame now rtts post heq ms hms
    obtain ⟨a, ha, rfl⟩ := hbeat.2.exists_mem
    have hwritten : beat ∈ written h := by
      rw [← hsent, heq]
      exact List.mem_filterMap.mpr ⟨_, List.mem_append_left _ ha, rfl⟩
    exact Runs.seq_ne_zero hrun hwritten (hnum.trans hzero)

end

end

/-- A heartbeat of the bridge with this number. -/
def pong (seq : UInt16) : Bytes :=
  Wire.encode msgHeartbeat 0 seq (ascii "\x7b\"ts_ms\":7,\"role\":\"bridge\"\x7d")

/-- HELLO, two heartbeats, the answer to the second one, and a periodic heartbeat. -/
def beatingRun : History ℚ × SocketWorker :=
  (exec step anyStep {}
    [.call 1 (.startWorker (ascii "h") 1), .socket 2 .connected, .socket 1002 .heartbeatTick,
      .socket 2002 .heartbeatTick, .socket 2042 (.readyRead (pong 3)),
      .socket 2050 (.readyRead (pong 0))]).get (by decide +kernel)

/-- A run with one beat whose echo comes 40 ms later. -/
theorem round_trips_beating :
    PairsRoundTrips ℚ (acts beatingRun.1) ∧ reported beatingRun.1 = [40] ∧
      (written beatingRun.1).map Frame.seq = [1, 2, 3] :=
  ⟨(round_trips (Run.of_exec (Option.some_get _).symm)).2.2.2.2.1, by decide +kernel,
    by decide +kernel⟩

end BotCockpit.Ui.SocketWorker
