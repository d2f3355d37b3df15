import BotCockpit.Proofs.Wire.Frame
import BotCockpit.Spec.Connection

/-!
# `BotCockpit.Proofs.Bridge.SendFrame`: frames go out whole

`Framed s ids tail` is the invariant: the calls `ids` have sent their frames, in this order, and
`tail` is what one more call has sent of its own. `send_mu` makes it an invariant of the loop, since
only the call that holds the lock sends.

It does not survive an error in the middle of a frame. `send_frame` returns false, no caller looks
at the result, and the next call starts its frame behind the part of the last one, if the connection
is still up (`breaks_frame`).
-/

set_option autoImplicit false

namespace BotCockpit.Bridge.Connection

open BotCockpit.Lib
open BotCockpit.Wire (Frame)

variable {s t : Connection} {e : ConnEvent} {written : Bytes} {ids : List Nat} {tail : Bytes}

/-! ### The steps -/

/-- The bytes of a call that is writing. -/
@[simp] theorem bytes_sending (frame : Frame) (off : Nat) :
    (SendPc.sending frame off).bytes = frame.encode := rfl

/-- The bytes of a call that has returned. -/
@[simp] theorem bytes_returned (frame : Frame) (off : Nat) (ok : Bool) :
    (SendPc.returned frame off ok).bytes = frame.encode := rfl

/-- No frame is empty. -/
theorem encode_length_pos (frame : Frame) : 0 < frame.encode.length := by
  rw [Wire.length_encode]
  omega

/-- The loop goes on while bytes are left. -/
theorem loop_lt {i : Nat} {frame : Frame} {off : Nat} (h : off < frame.encode.length) :
    s.loop i frame off = s.setCall i (.sending frame off) :=
  if_pos h

/-- The loop ends when none are. -/
theorem loop_end {i : Nat} {frame : Frame} {off : Nat} (h : ¬off < frame.encode.length) :
    s.loop i frame off = s.finish i frame off true :=
  if_neg h

/-- The steps of a connection. -/
inductive Turn (s : Connection) : ConnEvent → Connection → Bytes → Prop
  | call {i : Nat} {frame : Frame} (h : s.calls i = .idle) :
      Turn s (.call i frame)
        (s.setCall i (if s.fdOpen then .waiting frame else .returned frame 0 false)) []
  | lock {i : Nat} {frame : Frame} (h : s.calls i = .waiting frame) (hfree : s.sendMu = none) :
      Turn s (.lock i) { s.setCall i (.sending frame 0) with sendMu := some i } []
  | fails {i : Nat} {n : Int} {frame : Frame} {off : Nat} (h : s.calls i = .sending frame off)
      (hn : n ≤ 0) : Turn s (.send i n) (s.finish i frame off false) []
  | writes {i k : Nat} {frame : Frame} {off : Nat} (h : s.calls i = .sending frame off)
      (hup : s.up = true) (hk : 0 < k) (hlt : off + k < frame.encode.length) :
      Turn s (.send i k)
        { s.setCall i (.sending frame (off + k)) with
          wire := s.wire ++ (frame.encode.drop off).take k }
        ((frame.encode.drop off).take k)
  | completes {i k : Nat} {frame : Frame} {off : Nat} (h : s.calls i = .sending frame off)
      (hup : s.up = true) (hlen : off + k = frame.encode.length) :
      Turn s (.send i k)
        { s.finish i frame (off + k) true with wire := s.wire ++ frame.encode.drop off }
        (frame.encode.drop off)
  | clearFd : Turn s .clearFd { s with fdOpen := false } []
  | down : Turn s .down { s with up := false } []

/-- Every step is one turn of one call. -/
theorem turn_of_step (h : s.step e = some (t, written)) : Turn s e t written := by
  cases e with
  | call i frame =>
      simp only [step] at h
      split at h
      · rename_i hidle
        cases h
        exact Turn.call hidle
      · cases h
  | lock i =>
      simp only [step] at h
      split at h
      · rename_i frame hwaiting hfree
        rw [loop_lt (encode_length_pos frame)] at h
        cases h
        exact Turn.lock hwaiting hfree
      · cases h
  | send i n =>
      -- What the call of the system returns decides: an error, or the bytes it has taken.
      simp only [step] at h
      split at h
      · rename_i frame off hsending
        split at h
        · rename_i hn
          cases h
          exact Turn.fails hsending hn
        split at h
        · rename_i hn hcount
          obtain ⟨hcount, hup⟩ := hcount
          obtain ⟨k, rfl⟩ := Int.eq_ofNat_of_zero_le (by omega : 0 ≤ n)
          have hbytes : encodeFrame frame.type frame.flags frame.seq frame.payload =
              frame.encode := rfl
          simp only [hbytes, Int.toNat_natCast, List.length_drop] at h hcount
          by_cases hlt : off + k < frame.encode.length
          · rw [loop_lt hlt] at h
            cases h
            exact Turn.writes hsending hup (by omega) hlt
          · -- All that was left has been taken.
            have hall : (frame.encode.drop off).take k = frame.encode.drop off :=
              List.take_of_length_le (by rw [List.length_drop]; omega)
            rw [loop_end hlt, hall] at h
            cases h
            exact Turn.completes hsending hup (by omega)
        · cases h
      · cases h
  | clearFd =>
      cases h
      exact Turn.clearFd
  | down =>
      cases h
      exact Turn.down

/-! ### The invariant -/

/-- The calls `ids` have sent their frames, and `tail` is what one more call has sent of its own. -/
structure Framed (s : Connection) (ids : List Nat) (tail : Bytes) : Prop where
  nodup : ids.Nodup
  done : ∀ i ∈ ids, ∃ frame off, s.calls i = .returned frame off true
  wire : s.wire = s.framesOf ids ++ tail
  locked : ∀ i frame off, s.calls i = .sending frame off →
    s.sendMu = some i ∧ off < frame.encode.length
  current : ∀ i frame off, s.calls i = .sending frame off → 0 < off → tail = frame.encode.take off
  owner : tail = [] ∨ ∃ i frame off,
    (s.calls i = .sending frame off ∨ s.calls i = .returned frame off false) ∧ 0 < off ∧
      off < frame.encode.length ∧ tail = frame.encode.take off
  gone : Abandoned s → s.up = false

/-- What the calls `ids` have sent does not depend on the others. -/
theorem framesOf_congr (h : ∀ i ∈ ids, t.calls i = s.calls i) : t.framesOf ids = s.framesOf ids :=
  List.flatMap_congr fun i hi => by rw [h i hi]

/-- A call that has not returned with success is not among those that have. -/
theorem Framed.not_mem (hframed : Framed s ids tail) {i : Nat}
    (h : ∀ frame off, s.calls i ≠ .returned frame off true) : i ∉ ids := by
  intro hi
  obtain ⟨frame, off, hdone⟩ := hframed.done i hi
  exact h frame off hdone

/-- While the connection is up, `tail` is what the call in the loop has sent. -/
theorem Framed.tail_eq (hframed : Framed s ids tail) (hup : s.up = true) {i : Nat} {frame : Frame}
    {off : Nat} (h : s.calls i = .sending frame off) : tail = frame.encode.take off := by
  rcases Nat.eq_zero_or_pos off with rfl | hpos
  · rcases hframed.owner with hnil | ⟨j, g, k, hj | hj, hk, -, -⟩
    · rw [hnil, List.take_zero]
    · -- The lock says that the owner of the tail is this call.
      have hlock := (hframed.locked i frame 0 h).1.symm.trans (hframed.locked j g k hj).1
      cases hlock
      rw [h] at hj
      cases hj
      exact absurd hk (Nat.lt_irrefl 0)
    · have hdown := hframed.gone ⟨j, g, k, hj, hk⟩
      simp [hup] at hdown
  · exact hframed.current i frame off h hpos

/-- A call moves that has sent nothing, and it still has sent nothing. -/
theorem Framed.setCall (hframed : Framed s ids tail) {i : Nat} {pc : SendPc} (mu : Option Nat)
    (hold : ∀ frame off ok, s.calls i ≠ .returned frame off ok)
    (hstart : ∀ frame off, s.calls i = .sending frame off → off = 0)
    (hnew : ∀ frame off, pc = .sending frame off ∨ pc = .returned frame off false → off = 0)
    (hmu : ∀ j frame off, Function.update s.calls i pc j = .sending frame off →
      mu = some j ∧ off < frame.encode.length) :
    Framed { s.setCall i pc with sendMu := mu } ids tail := by
  have hnot : i ∉ ids := hframed.not_mem fun frame off => hold frame off true
  have hother : ∀ j, j ≠ i → Function.update s.calls i pc j = s.calls j := fun j hj =>
    Function.update_of_ne hj _ _
  have hself : Function.update s.calls i pc i = pc := Function.update_self ..
  -- The calls whose frames are on the wire are other ones.
  have hne : ∀ j ∈ ids, j ≠ i := fun j hj heq => hnot (heq ▸ hj)
  refine ⟨hframed.nodup, fun j hj => ?_, ?_, hmu, fun j frame off hj hoff => ?_, ?_, ?_⟩
  · obtain ⟨frame, off, hdone⟩ := hframed.done j hj
    exact ⟨frame, off, (hother j (hne j hj)).trans hdone⟩
  · rw [framesOf_congr fun j hj => hother j (hne j hj)]
    exact hframed.wire
  · by_cases hji : j = i
    · subst hji
      have hzero := hnew frame off (Or.inl (hself.symm.trans hj))
      omega
    · exact hframed.current j frame off ((hother j hji).symm.trans hj) hoff
  · refine hframed.owner.imp id ?_
    rintro ⟨j, frame, off, hj, hpos, hlt, htail⟩
    have hji : j ≠ i := by
      rintro rfl
      rcases hj with hj | hj
      · exact absurd (hstart frame off hj) (by omega)
      · exact hold frame off false hj
    exact ⟨j, frame, off, hj.imp (hother j hji).trans (hother j hji).trans, hpos, hlt, htail⟩
  · rintro ⟨j, frame, off, hj, hpos⟩
    by_cases hji : j = i
    · subst hji
      have hzero := hnew frame off (Or.inr (hself.symm.trans hj))
      omega
    · exact hframed.gone ⟨j, frame, off, (hother j hji).symm.trans hj, hpos⟩

section Loop

variable {i : Nat} {frame : Frame} {off : Nat}

/-- While a call is in the loop, no other one is. -/
theorem Framed.alone (hframed : Framed s ids tail) (h : s.calls i = .sending frame off) {j : Nat}
    {g : Frame} {k : Nat} (hj : s.calls j = .sending g k) : j = i := by
  have hlock := (hframed.locked i frame off h).1.symm.trans (hframed.locked j g k hj).1
  cases hlock
  rfl

/-- What a step of the call in the loop leaves of the other calls. -/
theorem Framed.rest (hframed : Framed s ids tail) (h : s.calls i = .sending frame off)
    (pc : SendPc) :
    i ∉ ids ∧ (∀ j ∈ ids, Function.update s.calls i pc j = s.calls j) ∧
      ∀ j g k, Function.update s.calls i pc j = .sending g k → j = i ∧ pc = .sending g k := by
  have hnot : i ∉ ids := hframed.not_mem fun g k hdone => by rw [h] at hdone; cases hdone
  have hne : ∀ j ∈ ids, j ≠ i := fun j hj heq => hnot (heq ▸ hj)
  refine ⟨hnot, fun j hj => Function.update_of_ne (hne j hj) _ _, ?_⟩
  intro j g k hj
  by_cases hji : j = i
  · subst hji
    rw [Function.update_self] at hj
    exact ⟨rfl, hj⟩
  · rw [Function.update_of_ne hji] at hj
    exact absurd (hframed.alone h hj) hji

/-- The loop fails with nothing sent, or in the middle of its frame on a connection that is gone. -/
theorem Framed.fails (hframed : Framed s ids tail) (h : s.calls i = .sending frame off)
    (hgone : 0 < off → s.up = false) :
    Framed (s.finish i frame off false) ids tail := by
  obtain ⟨hnot, hids, hloop⟩ := hframed.rest h (.returned frame off false)
  rcases Nat.eq_zero_or_pos off with rfl | hpos
  · refine hframed.setCall none (fun g k ok hdone => ?_) (fun g k hk => ?_) (fun g k hk => ?_) ?_
    · rw [h] at hdone
      cases hdone
    · rw [h] at hk
      cases hk
      rfl
    · rcases hk with hk | hk <;> cases hk
      rfl
    · intro j g k hj
      cases (hloop j g k hj).2
  · refine ⟨hframed.nodup, fun j hj => ?_, ?_, fun j g k hj => ?_, fun j g k hj => ?_, ?_, fun _ =>
      hgone hpos⟩
    · obtain ⟨g, k, hdone⟩ := hframed.done j hj
      exact ⟨g, k, (hids j hj).trans hdone⟩
    · rw [framesOf_congr hids]
      exact hframed.wire
    · cases (hloop j g k hj).2
    · cases (hloop j g k hj).2
    · exact Or.inr ⟨i, frame, off, Or.inr (Function.update_self ..), hpos,
        (hframed.locked i frame off h).2, hframed.current i frame off h hpos⟩

/-- The loop sends a part and goes on. -/
theorem Framed.writes (hframed : Framed s ids tail) (h : s.calls i = .sending frame off)
    (hup : s.up = true) {k : Nat} (hk : 0 < k) (hlt : off + k < frame.encode.length) :
    Framed
      { s.setCall i (.sending frame (off + k)) with
        wire := s.wire ++ (frame.encode.drop off).take k }
      ids (frame.encode.take (off + k)) := by
  obtain ⟨hnot, hids, hloop⟩ := hframed.rest h (.sending frame (off + k))
  refine ⟨hframed.nodup, fun j hj => ?_, ?_, fun j g l hj => ?_, fun j g l hj _ => ?_, ?_, ?_⟩
  · obtain ⟨g, l, hdone⟩ := hframed.done j hj
    exact ⟨g, l, (hids j hj).trans hdone⟩
  · rw [framesOf_congr (s := s) hids, List.take_add, ← List.append_assoc, ← hframed.tail_eq hup h,
      ← hframed.wire]
  · obtain ⟨rfl, hpc⟩ := hloop j g l hj
    cases hpc
    exact ⟨(hframed.locked j frame off h).1, hlt⟩
  · obtain ⟨-, hpc⟩ := hloop j g l hj
    cases hpc
    rfl
  · exact Or.inr ⟨i, frame, off + k, Or.inl (Function.update_self ..), by omega, hlt, rfl⟩
  · rintro ⟨j, g, l, hj, hpos⟩
    by_cases hji : j = i
    · subst hji
      have hself : Function.update s.calls j (.sending frame (off + k)) j = _ :=
        Function.update_self ..
      cases hself.symm.trans hj
    · exact hframed.gone ⟨j, g, l, (Function.update_of_ne hji _ _).symm.trans hj, hpos⟩

/-- The loop sends what is left, and its frame is out. -/
theorem Framed.completes (hframed : Framed s ids tail) (h : s.calls i = .sending frame off)
    (hup : s.up = true) (k : Nat) :
    Framed { s.finish i frame k true with wire := s.wire ++ frame.encode.drop off }
      (ids ++ [i]) [] := by
  obtain ⟨hnot, hids, hloop⟩ := hframed.rest h (.returned frame k true)
  have hself : (s.finish i frame k true).calls i = .returned frame k true :=
    Function.update_self ..
  refine ⟨?_, fun j hj => ?_, ?_, fun j g l hj => ?_, fun j g l hj => ?_, Or.inl rfl, ?_⟩
  · refine List.nodup_append.mpr ⟨hframed.nodup, List.pairwise_singleton _ i, ?_⟩
    rintro a ha b hb rfl
    exact hnot (List.mem_singleton.mp hb ▸ ha)
  · rcases List.mem_append.mp hj with hj | hj
    · obtain ⟨g, l, hdone⟩ := hframed.done j hj
      exact ⟨g, l, (hids j hj).trans hdone⟩
    · exact ⟨frame, k, List.mem_singleton.mp hj ▸ hself⟩
  · -- What was written before and what is written now are the whole frame.
    have hsent : frame.encode.take off ++ frame.encode.drop off = frame.encode :=
      List.take_append_drop ..
    have hlast : (s.finish i frame k true).framesOf [i] = frame.encode := by
      simp [framesOf, hself]
    calc s.wire ++ frame.encode.drop off
        = s.framesOf ids ++ (frame.encode.take off ++ frame.encode.drop off) := by
          rw [hframed.wire, hframed.tail_eq hup h, List.append_assoc]
      _ = (s.finish i frame k true).framesOf ids ++
            (s.finish i frame k true).framesOf [i] := by
          rw [hsent, hlast, framesOf_congr (t := s.finish i frame k true) hids]
      _ = (s.finish i frame k true).framesOf (ids ++ [i]) ++ [] := by
          simp only [framesOf, List.flatMap_append, List.append_nil]
  · cases (hloop j g l hj).2
  · cases (hloop j g l hj).2
  · rintro ⟨j, g, l, hj, hpos⟩
    by_cases hji : j = i
    · subst hji
      cases hself.symm.trans hj
    · exact hframed.gone ⟨j, g, l, (Function.update_of_ne hji _ _).symm.trans hj, hpos⟩

end Loop

/-! ### What the console reads -/

/-- The frames of the calls `ids`. -/
theorem exists_frames (hdone : ∀ i ∈ ids, ∃ frame off, s.calls i = .returned frame off true) :
    ∃ frames, Wire.frameCodec.encodeAll frames = s.framesOf ids ∧
      ∀ f ∈ frames, ∃ i ∈ ids, ∃ off, s.calls i = .returned f off true := by
  induction ids with
  | nil => exact ⟨[], rfl, fun f hf => absurd hf List.not_mem_nil⟩
  | cons i ids ih =>
      obtain ⟨frames, hframes, hmem⟩ := ih fun j hj => hdone j (List.mem_cons_of_mem _ hj)
      obtain ⟨frame, off, hi⟩ := hdone i List.mem_cons_self
      refine ⟨frame :: frames, ?_, fun f hf => ?_⟩
      · show frame.encode ++ Wire.frameCodec.encodeAll frames =
          (s.calls i).bytes ++ s.framesOf ids
        rw [hframes, hi, bytes_returned]
      · rcases List.mem_cons.mp hf with rfl | hf
        · exact ⟨i, List.mem_cons_self, off, hi⟩
        · obtain ⟨j, hj, k, hdone'⟩ := hmem f hf
          exact ⟨j, List.mem_cons_of_mem _ hj, k, hdone'⟩

/-- The console reads the frames of the calls `ids` and nothing else, however the bytes are cut. -/
theorem Framed.received (hframed : Framed s ids tail)
    (hvalid : ∀ i frame off ok, s.calls i = .sending frame off ∨
      s.calls i = .returned frame off ok →
      frame.payload.length ≤ Wire.maxPayload)
    {chunks : List Bytes} (hcut : chunks.flatten = s.wire) :
    ∃ frames, (receiveAll Ui.next chunks).1 = frames ∧
      Wire.frameCodec.encodeAll frames = s.framesOf ids ∧
      ∀ f ∈ frames, ∃ i ∈ ids, ∃ off, s.calls i = .returned f off true := by
  obtain ⟨frames, hframes, hmem⟩ := exists_frames hframed.done
  have hok : ∀ f ∈ frames, Wire.frameCodec.Valid f := fun f hf => by
    obtain ⟨i, -, off, hi⟩ := hmem f hf
    exact hvalid i f off true (Or.inr hi)
  -- The tail is the front of at most one more frame.
  obtain ⟨more, rest, hmore, hrest, hshort⟩ : ∃ more rest, (∀ f ∈ more, Wire.frameCodec.Valid f) ∧
      tail ++ rest = Wire.frameCodec.encodeAll more ∧ (more = [] ∨ more.length = 1 ∧
        tail.length < (Wire.frameCodec.encodeAll more).length) := by
    rcases hframed.owner with rfl | ⟨i, frame, off, hi, -, hlt, rfl⟩
    · exact ⟨[], [], by simp, rfl, Or.inl rfl⟩
    · have hall : Wire.frameCodec.encodeAll [frame] = frame.encode := by
        show frame.encode ++ [] = frame.encode
        rw [List.append_nil]
      refine ⟨[frame], frame.encode.drop off, fun f hf => ?_, ?_, Or.inr ⟨rfl, ?_⟩⟩
      · rw [List.mem_singleton.mp hf]
        exact hvalid i frame off false hi
      · rw [List.take_append_drop, hall]
      · rw [hall, List.length_take]
        omega
  have hstream : chunks.flatten ++ rest = Wire.frameCodec.encodeAll (frames ++ more) := by
    rw [hcut, hframed.wire, List.append_assoc, hrest, Wire.frameCodec.encodeAll_append, hframes]
  obtain ⟨got, todo, p, hsplit, hrecv, hflat, -, hinc⟩ :=
    Wire.frameCodec.receiveAll_of_append
      (fun f hf => (List.mem_append.mp hf).elim (hok f) (hmore f)) hstream
  have hlen : (Wire.frameCodec.encodeAll got ++ p).length =
      (Wire.frameCodec.encodeAll frames).length + tail.length := by
    rw [← hflat, hcut, hframed.wire, hframes, List.length_append]
  have hfirst := (Wire.frameCodec.taken_iff hsplit hinc (n := frames.length) (by simp)).mpr
    (by rw [List.take_left, hlen]; omega)
  have hnot : got.length ≤ frames.length := by
    have htotal := congrArg List.length hsplit
    simp only [List.length_append] at htotal
    rcases hshort with hnil | ⟨hone, hshort⟩
    · simp only [hnil, List.length_nil] at htotal
      omega
    · by_contra hgt
      -- Then the last frame would have arrived as well, and the tail is shorter than that.
      have hle := (Wire.frameCodec.taken_iff hsplit hinc (n := (frames ++ more).length) le_rfl).mp
        (by rw [List.length_append]; omega)
      rw [List.take_length, Wire.frameCodec.encodeAll_append, List.length_append, hlen] at hle
      omega
  refine ⟨frames, ?_, hframes, hmem⟩
  have hgot : got <+: frames ++ more := ⟨todo, hsplit.symm⟩
  have hui : (receiveAll Ui.next chunks).1 = got := congrArg Prod.fst hrecv
  rw [hui]
  exact (List.prefix_of_prefix_length_le hgot (List.prefix_append _ _) hnot).eq_of_length
    (Nat.le_antisymm hnot hfirst)

/-! ### Runs -/

/-- At the start nothing is on the wire. -/
theorem framed_init : Framed init [] [] := by
  refine ⟨List.nodup_nil, fun i hi => absurd hi List.not_mem_nil, rfl, fun i frame off h => ?_,
    fun i frame off h => ?_, Or.inl rfl, ?_⟩
  · cases h
  · cases h
  · rintro ⟨i, frame, off, h, -⟩
    cases h

/-- **One step keeps the frames whole**, unless it breaks one. -/
theorem framed_step (hframed : Framed s ids tail) (hguard : breaksFrame s e = false)
    (h : s.step e = some (t, written)) : ∃ ids' tail', Framed t ids' tail' := by
  cases turn_of_step h with
  | @call i frame hidle =>
      -- A call that begins has written nothing.
      refine ⟨ids, tail, hframed.setCall s.sendMu (fun g k ok hk => ?_) (fun g k hk => ?_)
        (fun g k hk => ?_) fun j g k hj => ?_⟩
      · rw [hidle] at hk
        cases hk
      · rw [hidle] at hk
        cases hk
      · split at hk <;> rcases hk with hk | hk <;> cases hk
        rfl
      · by_cases hji : j = i
        · subst hji
          rw [Function.update_self] at hj
          split at hj <;> cases hj
        · rw [Function.update_of_ne hji] at hj
          exact hframed.locked j g k hj
  | @lock i frame hwaiting hfree =>
      -- Whoever takes the lock finds a wire without a tail.
      refine ⟨ids, tail, hframed.setCall (some i) (fun g k ok hk => ?_) (fun g k hk => ?_)
        (fun g k hk => ?_) fun j g k hj => ?_⟩
      · rw [hwaiting] at hk
        cases hk
      · rw [hwaiting] at hk
        cases hk
      · rcases hk with hk | hk <;> cases hk
        rfl
      · by_cases hji : j = i
        · subst hji
          rw [Function.update_self] at hj
          cases hj
          exact ⟨rfl, encode_length_pos frame⟩
        · rw [Function.update_of_ne hji] at hj
          have hheld := (hframed.locked j g k hj).1
          rw [hfree] at hheld
          cases hheld
  | @fails i n frame off hsending hn =>
      -- A call that fails behind its first byte would leave the tail to the next.
      refine ⟨ids, tail, hframed.fails hsending fun hpos => ?_⟩
      simpa [breaksFrame, hsending, hn, hpos] using hguard
  | writes hsending hup hk hlt => exact ⟨ids, _, hframed.writes hsending hup hk hlt⟩
  | completes hsending hup hlen => exact ⟨_, [], hframed.completes hsending hup _⟩
  | clearFd => exact ⟨ids, tail, hframed.nodup, hframed.done, hframed.wire, hframed.locked,
      hframed.current, hframed.owner, hframed.gone⟩
  | down => exact ⟨ids, tail, hframed.nodup, hframed.done, hframed.wire, hframed.locked,
      hframed.current, hframed.owner, fun _ => rfl⟩

/-- In every run whose calls break no frame the wire holds whole frames and one tail. -/
theorem framed_of_runs {h : List (ConnEvent × Bytes)}
    (hrun : Runs (fun s e => breaksFrame s e = false) h s) : ∃ ids tail, Framed s ids tail := by
  refine hrun.invariant (P := fun s => ∃ ids tail, Framed s ids tail) ⟨[], [], framed_init⟩ ?_
  rintro s e t written ⟨ids, tail, hframed⟩ hguard hstep
  exact framed_step hframed hguard hstep

/-- Which is what is said of it. -/
theorem Framed.wholeFrames (hframed : Framed s ids tail) : WholeFrames s := by
  refine ⟨ids, tail, hframed.nodup, hframed.wire, hframed.owner.imp id ?_⟩
  rintro ⟨i, frame, off, hi, -, hlt, rfl⟩
  have hbytes : (s.calls i).bytes = frame.encode := by
    rcases hi with hi | hi <;> rw [hi] <;> rfl
  refine ⟨i, hframed.not_mem fun g k hdone => ?_, ?_, ?_⟩
  · rcases hi with hi | hi <;> cases hi.symm.trans hdone
  · rw [hbytes]
    exact List.take_prefix off _
  · rw [hbytes]
    intro heq
    have hlen := congrArg List.length heq
    rw [List.length_take] at hlen
    omega

/-- A connection that is gone takes no more bytes. -/
theorem Framed.silent (hframed : Framed s ids tail) : Silent s := by
  intro habandoned e t written hstep
  have hdown := hframed.gone habandoned
  cases turn_of_step hstep with
  | writes _ hup _ _ => rw [hdown] at hup; cases hup
  | completes _ hup _ => rw [hdown] at hup; cases hup
  | _ => rfl

/-- **The bytes on a connection are whole frames**, in every run in which `::send` fails in the
middle of a frame only on a connection that is gone. -/
theorem whole_frames {h : List (ConnEvent × Bytes)}
    (hrun : Runs (fun s e => breaksFrame s e = false) h s) : WholeFrames s ∧ Silent s := by
  obtain ⟨ids, tail, hframed⟩ := framed_of_runs hrun
  exact ⟨hframed.wholeFrames, hframed.silent⟩

def firstFrame : Frame := { type := 1 }

def secondFrame : Frame := { type := 1, payload := [7] }

/-- Two calls at once. The first sends its frame in two parts, the second fails at once. -/
def partsRun : List (ConnEvent × Bytes) × Connection :=
  (exec step (fun s e => breaksFrame s e = false) init
    [ConnEvent.call 0 firstFrame, .call 1 secondFrame, .lock 0, .send 0 3, .send 0 5, .lock 1,
      .send 1 (-1)]).get (by decide +kernel)

/-- A frame that is written in three parts. -/
theorem whole_frames_parts :
    (WholeFrames partsRun.2 ∧ Silent partsRun.2) ∧ partsRun.2.wire = firstFrame.encode :=
  ⟨whole_frames (Run.of_exec (Option.some_get _).symm), by decide +kernel⟩

/-- The first call is interrupted after one byte, and the second sends its frame. -/
def interruptedRun : List (ConnEvent × Bytes) × Connection :=
  (exec step anyStep init
    [ConnEvent.call 0 firstFrame, .call 1 secondFrame, .lock 0, .send 0 1, .send 0 (-1), .lock 1,
      .send 1 9]).get (by decide +kernel)

/-- The bytes of the calls of the run: none of them is what the connection has taken from its first
byte on, and none is longer than that. -/
theorem interruptedRun_bytes (i : Nat) :
    ((interruptedRun.2.calls i).bytes = [] ∨
        ¬(interruptedRun.2.calls i).bytes <+: interruptedRun.2.wire) ∧
      (interruptedRun.2.calls i).bytes.length < interruptedRun.2.wire.length := by
  match i with
  | 0 => exact ⟨Or.inr (by decide +kernel), by decide +kernel⟩
  | 1 => exact ⟨Or.inr (by decide +kernel), by decide +kernel⟩
  | i + 2 =>
      have hidle : interruptedRun.2.calls (i + 2) = .idle := rfl
      exact ⟨Or.inl (by rw [hidle]; rfl), by rw [hidle]; decide +kernel⟩

/-- Where no call's frame is at the front, no call has sent its frame. -/
theorem framesOf_eq_nil (h : ∀ i, (s.calls i).bytes = [] ∨ ¬(s.calls i).bytes <+: s.wire)
    (hwire : s.wire = s.framesOf ids ++ tail) : s.framesOf ids = [] := by
  induction ids with
  | nil => rfl
  | cons i ids ih =>
      have hcons : s.framesOf (i :: ids) = (s.calls i).bytes ++ s.framesOf ids := rfl
      rw [hcons, List.append_assoc] at hwire
      have hnil : (s.calls i).bytes = [] := (h i).resolve_right (not_not.mpr ⟨_, hwire.symm⟩)
      rw [hnil, List.nil_append] at hwire
      rw [hcons, hnil, List.nil_append]
      exact ih hwire

/-- Without the condition a frame that was cut off stands before another. -/
theorem breaks_frame :
    ¬∀ (h : List (ConnEvent × Bytes)) (s : Connection), Runs anyStep h s →
      WholeFrames s ∧ Silent s := by
  intro hall
  have hrun : Runs anyStep interruptedRun.1 interruptedRun.2 := Run.of_exec (Option.some_get _).symm
  obtain ⟨ids, tail, -, hwire, htail⟩ := (hall _ _ hrun).1
  -- No call's frame is at the front of the wire, so it is all tail.
  have hnone : interruptedRun.2.framesOf ids = [] :=
    framesOf_eq_nil (fun i => (interruptedRun_bytes i).1) hwire
  rw [hnone, List.nil_append] at hwire
  rcases htail with rfl | ⟨i, -, hprefix, -⟩
  · exact absurd hwire (by decide +kernel)
  · have hlen := (interruptedRun_bytes i).2
    rw [hwire] at hlen
    have hle := hprefix.length_le
    omega

end BotCockpit.Bridge.Connection
