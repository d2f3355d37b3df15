import BotCockpit.Lib.Reader
import BotCockpit.Proofs.Wire.Frame

/-!
# `BotCockpit.Proofs.Wire.AnyStream`: the decoder on arbitrary bytes

`frameReader` is the decoder of both sides as a `Lib.Reader`: it needs no assumption about the
bytes that come in. So whatever comes in, the frames that go out are pieces of it, and the buffer
stays below the length limit (`sound_decoder`).

A length field out of range makes the decoder drop its buffer, and with it whatever the same chunk
brought along. Up to there the frames do not depend on how the stream is cut into chunks, and in a
stream without such a length field they do not depend on it at all (`any_cut`).
-/

set_option autoImplicit false

namespace BotCockpit.Wire

open BotCockpit.Lib

/-- The length field at the front of a buffer. -/
def lengthField (buf : Bytes) : UInt32 :=
  (buf.getD 0 0).toUInt32 ||| (buf.getD 1 0).toUInt32 <<< 8 |||
    (buf.getD 2 0).toUInt32 <<< 16 ||| (buf.getD 3 0).toUInt32 <<< 24

/-- The length field is there and out of range. -/
def Corrupt (buf : Bytes) : Prop :=
  4 ≤ buf.length ∧ (lengthField buf < 4 ∨ 64 * 1024 < lengthField buf)

instance (buf : Bytes) : Decidable (Corrupt buf) := by
  unfold Corrupt
  infer_instance

/-- The two comparisons of the code as one range. -/
theorem range_iff {n : UInt32} :
    ¬(n < 4 ∨ 64 * 1024 < n) ↔ 4 ≤ n.toNat ∧ n.toNat ≤ 65536 := by
  rw [UInt32.lt_iff_toNat_lt, UInt32.lt_iff_toNat_lt]
  simp only [UInt32.reduceMul, UInt32.reduceToNat]
  omega

/-- A buffer that holds as many bytes as its length field says starts with a frame. -/
theorem exists_frame {buf : Bytes} (hrange : ¬(lengthField buf < 4 ∨ 64 * 1024 < lengthField buf))
    (hlen : 4 + (lengthField buf).toNat ≤ buf.length) :
    ∃ (f : Frame) (rest : Bytes), f.payload.length ≤ maxPayload ∧
      4 + UInt32.ofNat f.payload.length = lengthField buf ∧ buf = f.encode ++ rest := by
  obtain ⟨hmin, hmax⟩ := range_iff.mp hrange
  obtain ⟨b₀, b₁, b₂, b₃, b₄, b₅, b₆, b₇, tail, rfl⟩ :
      ∃ b₀ b₁ b₂ b₃ b₄ b₅ b₆ b₇ tail,
        buf = b₀ :: b₁ :: b₂ :: b₃ :: b₄ :: b₅ :: b₆ :: b₇ :: tail := by
    -- A buffer that holds the announced bytes holds the eight of the header.
    match buf, hlen with
    | b₀ :: b₁ :: b₂ :: b₃ :: b₄ :: b₅ :: b₆ :: b₇ :: tail, _ =>
        exact ⟨b₀, b₁, b₂, b₃, b₄, b₅, b₆, b₇, tail, rfl⟩
    | [], hlen | [_], hlen | [_, _], hlen | [_, _, _], hlen | [_, _, _, _], hlen
    | [_, _, _, _, _], hlen | [_, _, _, _, _, _], hlen | [_, _, _, _, _, _, _], hlen =>
        simp only [List.length_cons, List.length_nil] at hlen
        omega
  generalize hn : lengthField (b₀ :: b₁ :: b₂ :: b₃ :: b₄ :: b₅ :: b₆ :: b₇ :: tail) = n at *
  have hfield : n = b₀.toUInt32 ||| b₁.toUInt32 <<< 8 ||| b₂.toUInt32 <<< 16 |||
      b₃.toUInt32 <<< 24 := hn.symm
  -- What the length announces beyond the rest of the header is the payload.
  have hpayload : (tail.take (n.toNat - 4)).length = n.toNat - 4 := by
    rw [List.length_take]
    simp only [List.length_cons] at hlen
    omega
  have hlength : 4 + UInt32.ofNat (tail.take (n.toNat - 4)).length = n := by
    apply UInt32.toNat_inj.mp
    rw [toNat_length (by rw [hpayload]; unfold maxPayload; omega), hpayload]
    omega
  refine ⟨{ type := b₄, flags := b₅, seq := b₆.toUInt16 ||| b₇.toUInt16 <<< 8,
            payload := tail.take (n.toNat - 4) }, tail.drop (n.toNat - 4), ?_, hlength, ?_⟩
  · show (tail.take (n.toNat - 4)).length ≤ maxPayload
    rw [hpayload]
    unfold maxPayload
    omega
  · -- The encoder writes the bytes of the header that were read.
    obtain ⟨h₀, h₁, h₂, h₃⟩ := split32 hfield
    obtain ⟨h₆, h₇⟩ := split16 (rfl : b₆.toUInt16 ||| b₇.toUInt16 <<< 8 = _)
    simp only [Frame.encode, encode, hlength, h₀, h₁, h₂, h₃, h₆, h₇, List.cons_append,
      List.nil_append, List.take_append_drop]

/-- A corrupt buffer is dropped as a whole. -/
theorem Corrupt.next {buf : Bytes} (h : Corrupt buf) :
    decodeNext 4 (64 * 1024) buf = (none, []) := by
  have hlen := h.1
  rw [decodeNext, if_neg (by omega)]
  exact if_pos h.2

/-- **The three cases of `FrameDecoder::next`**: a length field out of range, a frame that is not
complete, and a frame. -/
theorem decodeNext_cases (buf : Bytes) :
    (Corrupt buf ∧ decodeNext 4 (64 * 1024) buf = (none, [])) ∨
      (¬Corrupt buf ∧ (buf.length < 4 ∨ buf.length < 4 + (lengthField buf).toNat) ∧
        decodeNext 4 (64 * 1024) buf = (none, buf)) ∨
      ∃ (f : Frame) (rest : Bytes), f.payload.length ≤ maxPayload ∧ buf = f.encode ++ rest ∧
        decodeNext 4 (64 * 1024) buf = (some f, rest) := by
  by_cases hshort : buf.length < 4
  · refine Or.inr (Or.inl ⟨fun h => absurd h.1 (by omega), Or.inl hshort, ?_⟩)
    rw [decodeNext, if_pos hshort]
  by_cases hrange : lengthField buf < 4 ∨ 64 * 1024 < lengthField buf
  · have hcorrupt : Corrupt buf := ⟨by omega, hrange⟩
    exact Or.inl ⟨hcorrupt, hcorrupt.next⟩
  have hcorrupt : ¬Corrupt buf := fun h => hrange h.2
  by_cases hpart : buf.length < 4 + (lengthField buf).toNat
  · refine Or.inr (Or.inl ⟨hcorrupt, Or.inr hpart, ?_⟩)
    have hsum : (4 + lengthField buf).toNat = 4 + (lengthField buf).toNat := by
      have hmax := (range_iff.mp hrange).2
      rw [UInt32.toNat_add]
      show (4 + (lengthField buf).toNat) % 2 ^ 32 = _
      omega
    rw [decodeNext, if_neg hshort]
    refine (if_neg hrange).trans (if_pos ?_)
    show buf.length < (4 + lengthField buf).toNat
    omega
  · obtain ⟨f, rest, hf, -, hbuf⟩ := exists_frame hrange (by omega)
    refine Or.inr (Or.inr ⟨f, rest, hf, hbuf, ?_⟩)
    rw [hbuf]
    exact frameCodec.next_encode rest hf

/-- More bytes do not change the length field. -/
theorem lengthField_append {buf : Bytes} (h : 4 ≤ buf.length) (more : Bytes) :
    lengthField (buf ++ more) = lengthField buf := by
  have hget : ∀ i, i < 4 → (buf ++ more).getD i 0 = buf.getD i 0 := by
    intro i hi
    rw [List.getD_eq_getElem?_getD, List.getD_eq_getElem?_getD,
      List.getElem?_append_left (by omega)]
  unfold lengthField
  rw [hget 0 (by omega), hget 1 (by omega), hget 2 (by omega), hget 3 (by omega)]

/-- It stays corrupt however much comes behind it. -/
theorem Corrupt.append {buf : Bytes} (h : Corrupt buf) (more : Bytes) : Corrupt (buf ++ more) := by
  refine ⟨?_, ?_⟩
  · rw [List.length_append]
    have := h.1
    omega
  · rw [lengthField_append h.1]
    exact h.2

/-- A frame that is taken stood at the head of the buffer. -/
theorem taken {f : Frame} {buf rest : Bytes}
    (h : decodeNext 4 (64 * 1024) buf = (some f, rest)) :
    f.payload.length ≤ maxPayload ∧ buf = f.encode ++ rest := by
  rcases decodeNext_cases buf with ⟨-, hnext⟩ | ⟨-, -, hnext⟩ | ⟨f', rest', hf, hbuf, hnext⟩
  · cases (Prod.mk.inj (h.symm.trans hnext)).1
  · cases (Prod.mk.inj (h.symm.trans hnext)).1
  · obtain ⟨hframe, rfl⟩ := Prod.mk.inj (h.symm.trans hnext)
    obtain rfl := Option.some.inj hframe
    exact ⟨hf, hbuf⟩

/-- The decoder of both sides, on any bytes. -/
def frameReader : Reader Frame where
  encode := Frame.encode
  next := decodeNext 4 (64 * 1024)
  encode_ne_nil f := by
    have hlen := length_encode f
    intro h
    rw [h] at hlen
    simp at hlen
    omega
  takes := by
    intro f buf rest h
    obtain ⟨-, hbuf⟩ := taken h
    exact hbuf
  takes_append := by
    intro f buf rest h more
    obtain ⟨hf, hbuf⟩ := taken h
    rw [hbuf, List.append_assoc]
    exact frameCodec.next_encode _ hf
  stops := by
    intro buf rest h
    rcases decodeNext_cases buf with ⟨hcorrupt, hnext⟩ | ⟨-, -, hnext⟩ | ⟨f, _, _, _, hnext⟩
    · refine Or.inr ⟨(Prod.mk.inj (h.symm.trans hnext)).2, fun more => (hcorrupt.append more).next⟩
    · exact Or.inl (Prod.mk.inj (h.symm.trans hnext)).2
    · cases (Prod.mk.inj (h.symm.trans hnext)).1

/-! ### The decoder is sound and bounded -/

/-- What a decoder makes of any bytes at all: every drain ends, the buffer stays below the limit
of a frame, and the frames have a length field in range and are pieces of the stream. -/
structure Sound (encodeFrame : UInt8 → UInt8 → UInt16 → Bytes → Bytes)
    (next : Bytes → Option Frame × Bytes) : Prop where
  ends : ∀ buf, Drains next buf (drain next buf).1 (drain next buf).2
  bounded : ∀ chunks, (receiveAll next chunks).2.length < 4 + 65536
  inRange : ∀ chunks, ∀ f ∈ (receiveAll next chunks).1,
    4 ≤ lengthField (encodeFrame f.type f.flags f.seq f.payload) ∧
      lengthField (encodeFrame f.type f.flags f.seq f.payload) ≤ 65536
  pieces : ∀ chunks, Pieces (fun f : Frame => encodeFrame f.type f.flags f.seq f.payload)
    chunks.flatten (receiveAll next chunks).1

/-- The frames are no longer than the limit. -/
theorem valid_of_receiveAll (chunks : List Bytes) :
    ∀ f ∈ (receiveAll frameReader.next chunks).1, f.payload.length ≤ maxPayload := by
  induction chunks using List.reverseRecOn with
  | nil => exact fun f hf => absurd hf List.not_mem_nil
  | append_singleton chunks chunk ih =>
      intro f hf
      rw [Reader.receiveAll_snoc] at hf
      rcases List.mem_append.mp hf with hf | hf
      · exact ih f hf
      · exact (drains frameReader.shrinks _).all (P := fun f => f.payload.length ≤ maxPayload)
          (fun h => (taken h).1) f hf

/-- The length field of an encoded frame. -/
theorem lengthField_encode {f : Frame} (hf : f.payload.length ≤ maxPayload) :
    (lengthField f.encode).toNat = 4 + f.payload.length := by
  have hfield : lengthField f.encode = 4 + UInt32.ofNat f.payload.length := reassemble32 _
  rw [hfield, toNat_length hf]

/-- A buffer that is kept is shorter than a frame. -/
theorem left_lt {last rest : Bytes} (h : decodeNext 4 (64 * 1024) last = (none, rest)) :
    rest.length < 4 + 65536 := by
  rcases decodeNext_cases last with ⟨-, hnext⟩ | ⟨hclean, hshort, hnext⟩ | ⟨f, _, _, _, hnext⟩
  · rw [(Prod.mk.inj (h.symm.trans hnext)).2]
    decide
  · rw [(Prod.mk.inj (h.symm.trans hnext)).2]
    rcases hshort with hshort | hshort
    · omega
    · by_cases hfour : last.length < 4
      · omega
      · have hrange := range_iff.mp fun hbad => hclean ⟨by omega, hbad⟩
        omega
  · cases (Prod.mk.inj (h.symm.trans hnext)).1

/-- The reader takes only frames that were encoded. -/
theorem frameReader_sound : Sound Wire.encode frameReader.next := by
  refine ⟨drains frameReader.shrinks, fun chunks => ?_, fun chunks f hf => ?_, fun chunks => ?_⟩
  · induction chunks using List.reverseRecOn with
    | nil => exact Nat.zero_lt_succ _
    | append_singleton chunks chunk _ =>
        rw [Reader.receiveAll_snoc]
        obtain ⟨last, hlast⟩ := (drains frameReader.shrinks _).stopped
        exact left_lt hlast
  · have hlen := valid_of_receiveAll chunks f hf
    have hfield : (lengthField (Wire.encode f.type f.flags f.seq f.payload)).toNat =
        4 + f.payload.length := lengthField_encode hlen
    unfold maxPayload at hlen
    rw [UInt32.le_iff_toNat_le, UInt32.le_iff_toNat_le, hfield]
    simp only [UInt32.reduceToNat]
    omega
  · obtain ⟨s, hs, hpieces⟩ := frameReader.pieces_receiveAll chunks
    rw [hs]
    exact hpieces.append _

/-- **Both decoders are sound and bounded on any bytes.** -/
theorem sound_decoder :
    Sound Bridge.encodeFrame Bridge.next ∧ Sound Ui.encodeFrame Ui.next :=
  ⟨frameReader_sound, frameReader_sound⟩

/-! ### Fragmentation -/

/-- Cut by its length fields from the start, the stream comes to one that is out of range. -/
def MeetsCorrupt (bytes : Bytes) : Prop :=
  ∃ (frames : List Frame) (rest : Bytes), (∀ f ∈ frames, f.payload.length ≤ maxPayload) ∧
    bytes = stream Wire.encode frames ++ rest ∧ Corrupt rest

/-- What does not depend on how a stream is cut into chunks: the frames in front of the first
length field out of range, and everything in a stream without one. -/
structure CutsAlike (next : Bytes → Option Frame × Bytes) : Prop where
  clean : ∀ {chunks chunks' : List Bytes}, chunks'.flatten = chunks.flatten →
    ¬MeetsCorrupt chunks.flatten → receiveAll next chunks' = receiveAll next chunks
  front : ∀ {chunks : List Bytes} {frames : List Frame} {rest : Bytes},
    (∀ f ∈ frames, f.payload.length ≤ maxPayload) →
    chunks.flatten = stream Wire.encode frames ++ rest →
    frames <+: (receiveAll next chunks).1

/-- What is dropped begins with a length field out of range. -/
theorem keeps_of_clean {bytes : Bytes} (h : ¬MeetsCorrupt bytes) : frameReader.Keeps bytes := by
  rcases frameReader.drain_cases bytes with ⟨hkeeps, -⟩ | ⟨left, hne, hbytes, hdrop, -, -⟩
  · exact hkeeps
  · refine absurd ⟨_, left, ?_, hbytes, ?_⟩ h
    · exact (drains frameReader.shrinks bytes).all (P := fun f => f.payload.length ≤ maxPayload)
        fun h => (taken h).1
    · rcases decodeNext_cases left with ⟨hcorrupt, -⟩ | ⟨-, -, hnext⟩ | ⟨f, _, _, _, hnext⟩
      · exact hcorrupt
      · exact absurd (Prod.mk.inj (hdrop.symm.trans hnext)).2.symm hne
      · cases (Prod.mk.inj (hdrop.symm.trans hnext)).1

/-- Draining takes the frames at the front. -/
theorem drain_stream {frames : List Frame} (h : ∀ f ∈ frames, f.payload.length ≤ maxPayload)
    (rest : Bytes) :
    (drain frameReader.next (stream Wire.encode frames ++ rest)).1 =
      frames ++ (drain frameReader.next rest).1 := by
  induction frames with
  | nil => rfl
  | cons f frames ih =>
      have hcons : stream Wire.encode (f :: frames) ++ rest =
          f.encode ++ (stream Wire.encode frames ++ rest) := List.append_assoc _ _ _
      have hnext : frameReader.next (f.encode ++ (stream Wire.encode frames ++ rest)) =
          (some f, stream Wire.encode frames ++ rest) :=
        frameCodec.next_encode _ (h f List.mem_cons_self)
      rw [hcons, drain_of_some frameReader.shrinks hnext,
        ih fun g hg => h g (List.mem_cons_of_mem _ hg)]
      rfl

/-- The reader takes the same frames however the bytes are cut. -/
theorem frameReader_cutsAlike : CutsAlike frameReader.next := by
  refine ⟨fun {chunks chunks'} hcut hclean => ?_, fun {chunks frames rest} hvalid hcut => ?_⟩
  · rw [frameReader.receiveAll_eq (keeps_of_clean hclean),
      frameReader.receiveAll_eq (hcut ▸ keeps_of_clean hclean), hcut]
  · have hfront := frameReader.prefix_receiveAll chunks
    rw [hcut, drain_stream hvalid] at hfront
    exact (List.prefix_append _ _).trans hfront

/-- **Cutting a stream**: both decoders emit the same frames up to the first length field out of
range, however the stream is cut, and the same frames overall when there is none. -/
theorem any_cut : CutsAlike Bridge.next ∧ CutsAlike Ui.next :=
  ⟨frameReader_cutsAlike, frameReader_cutsAlike⟩

/-- Behind a length field out of range it matters whether a frame comes in the same chunk. -/
theorem cut_behind_corrupt :
    ∃ chunks chunks' : List Bytes, chunks'.flatten = chunks.flatten ∧
      (receiveAll Bridge.next chunks).1 = [] ∧
      (receiveAll Bridge.next chunks').1 = [{ type := 0x01, seq := 5 }] ∧
      (receiveAll Ui.next chunks).1 ≠ (receiveAll Ui.next chunks').1 :=
  ⟨[[0, 0, 0, 0, 4, 0, 0, 0, 0x01, 0, 5, 0]], [[0, 0, 0, 0], [4, 0, 0, 0, 0x01, 0, 5, 0]],
    by decide, by decide, by decide, by decide⟩

end BotCockpit.Wire
