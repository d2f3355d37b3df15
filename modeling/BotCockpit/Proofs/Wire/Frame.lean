import BotCockpit.Lib.LittleEndian
import BotCockpit.Lib.Stream
import BotCockpit.Wire.Frame

/-!
# `BotCockpit.Proofs.Wire.Frame`: the frame stream round trip

`frameCodec` is the frame encoding as a `Lib.StreamCodec`, for payloads up to 65532 bytes (the
largest that fits the length limit of 64 KiB). The stream results of the library then give
`frame_stream`, in both directions between bridge and console.
-/

set_option autoImplicit false

namespace BotCockpit.Wire

open BotCockpit.Lib

/-- The largest payload that a frame may carry. -/
def maxPayload : Nat := 65532

/-- The bytes of a frame. -/
def Frame.encode (f : Frame) : Bytes := Wire.encode f.type f.flags f.seq f.payload

/-- The length field of a payload in range. -/
theorem toNat_length {payload : Bytes} (h : payload.length ≤ maxPayload) :
    (4 + UInt32.ofNat payload.length).toNat = 4 + payload.length := by
  unfold maxPayload at h
  rw [UInt32.toNat_add, UInt32.toNat_ofNat']
  show (4 + payload.length % 2 ^ 32) % 2 ^ 32 = _
  omega

/-- A frame has eight bytes more than its payload. -/
theorem length_encode (f : Frame) : f.encode.length = 8 + f.payload.length := by
  simp [Frame.encode, Wire.encode]
  omega

/-- A buffer that starts with the four length bytes of a frame reads that length. The rest of
the decoder depends on whether the whole frame is there. -/
theorem decodeNext_of_length {f : Frame} (hf : f.payload.length ≤ maxPayload) {buf : Bytes}
    (hlen : 4 ≤ buf.length) (hbytes : ∀ i, i < 4 → buf.getD i 0 = f.encode.getD i 0) :
    decodeNext 4 (64 * 1024) buf =
      if buf.length < 8 + f.payload.length then (none, buf)
      else
        (some
          { type := buf.getD 4 0
            flags := buf.getD 5 0
            seq := (buf.getD 6 0).toUInt16 ||| (buf.getD 7 0).toUInt16 <<< 8
            payload := (buf.take (8 + f.payload.length)).drop 8 },
          buf.drop (8 + f.payload.length)) := by
  have hlength : (buf.getD 0 0).toUInt32 ||| (buf.getD 1 0).toUInt32 <<< 8 |||
      (buf.getD 2 0).toUInt32 <<< 16 ||| (buf.getD 3 0).toUInt32 <<< 24 =
        4 + UInt32.ofNat f.payload.length := by
    rw [hbytes 0 (by omega), hbytes 1 (by omega), hbytes 2 (by omega), hbytes 3 (by omega)]
    exact reassemble32 _
  have hnat := toNat_length hf
  have hmax : f.payload.length ≤ 65532 := hf
  unfold decodeNext
  rw [if_neg (by omega)]
  simp only [hlength]
  have hrange : ¬(4 + UInt32.ofNat f.payload.length < 4 ∨
      64 * 1024 < 4 + UInt32.ofNat f.payload.length) := by
    rw [UInt32.lt_iff_toNat_lt, UInt32.lt_iff_toNat_lt, hnat]
    simp only [UInt32.reduceMul, UInt32.reduceToNat]
    omega
  rw [if_neg hrange]
  have htotal : (4 + (4 + UInt32.ofNat f.payload.length)).toNat = 8 + f.payload.length := by
    rw [UInt32.toNat_add, hnat]
    show (4 + (4 + f.payload.length)) % 2 ^ 32 = _
    omega
  rw [htotal, hnat, show 4 + (4 + f.payload.length) = 8 + f.payload.length by omega]

/-- The frame encoding and the decoder of both sides. -/
def frameCodec : StreamCodec Frame where
  Valid f := f.payload.length ≤ maxPayload
  encode := Frame.encode
  next := decodeNext 4 (64 * 1024)
  shrinks := by
    intro f buf rest h
    unfold decodeNext at h
    dsimp only at h
    split at h
    · cases h
    split at h
    · cases h
    split at h
    · cases h
    · simp only [Prod.mk.injEq] at h
      rw [← h.2, List.length_drop]
      omega
  next_encode := by
    intro f rest hf
    have hlen := length_encode f
    rw [decodeNext_of_length hf (by simp [hlen]; omega)]
    · rw [if_neg (by simp [hlen])]
      have htake : (f.encode ++ rest).take (8 + f.payload.length) = f.encode := by
        rw [← hlen, List.take_left]
      have hdrop : (f.encode ++ rest).drop (8 + f.payload.length) = rest := by
        rw [← hlen, List.drop_left]
      -- The header is an explicit list, so its bytes are read off.
      have htype : (f.encode ++ rest).getD 4 0 = f.type := rfl
      have hflags : (f.encode ++ rest).getD 5 0 = f.flags := rfl
      have hlow : (f.encode ++ rest).getD 6 0 = (f.seq &&& 0xFF).toUInt8 := rfl
      have hhigh : (f.encode ++ rest).getD 7 0 = ((f.seq >>> 8) &&& 0xFF).toUInt8 := rfl
      have hpayload : f.encode.drop 8 = f.payload := rfl
      rw [htake, hdrop, htype, hflags, hlow, hhigh, reassemble16, hpayload]
    · intro i hi
      rw [List.getD_eq_getElem?_getD, List.getD_eq_getElem?_getD,
        List.getElem?_append_left (by omega)]
  next_partial := by
    intro f buf hf hpre hne
    have hlt : buf.length < f.encode.length :=
      Nat.lt_of_le_of_ne hpre.length_le fun h => hne (hpre.eq_of_length h)
    by_cases hshort : buf.length < 4
    · unfold decodeNext
      rw [if_pos hshort]
    · rw [decodeNext_of_length hf (by omega)]
      · rw [if_pos (by rw [← length_encode f]; exact hlt)]
      · intro i hi
        obtain ⟨rest, hrest⟩ := hpre
        rw [← hrest, List.getD_eq_getElem?_getD, List.getD_eq_getElem?_getD,
          List.getElem?_append_left (by omega)]
  next_nil := rfl

/-! ### The round trip -/

/-- The bytes that an encoder makes of a list of frames. -/
def stream (encodeFrame : UInt8 → UInt8 → UInt16 → Bytes → Bytes) (frames : List Frame) :
    Bytes :=
  (frames.map fun f => encodeFrame f.type f.flags f.seq f.payload).flatten

/-- A receiver that appends the chunks one by one, and drains its decoder after each, emits
exactly the frames: in order at every moment, each one as soon as its last byte is there, and
with nothing left in the buffer at the end. -/
structure Delivers (encodeFrame : UInt8 → UInt8 → UInt16 → Bytes → Bytes)
    (next : Bytes → Option Frame × Bytes) (frames : List Frame) (chunks : List Bytes) :
    Prop where
  all : receiveAll next chunks = (frames, [])
  order : ∀ k, (receiveAll next (chunks.take k)).1 <+: frames
  prompt : ∀ k n, n ≤ frames.length →
    (n ≤ (receiveAll next (chunks.take k)).1.length ↔
      (stream encodeFrame (frames.take n)).length ≤ (chunks.take k).flatten.length)

/-- The codec delivers every stream of valid frames, however it is cut. -/
theorem frameCodec_delivers {frames : List Frame} {chunks : List Bytes}
    (hvalid : ∀ f ∈ frames, f.payload.length ≤ maxPayload)
    (hcut : chunks.flatten = stream Wire.encode frames) :
    Delivers Wire.encode frameCodec.next frames chunks := by
  have hstream : ∀ fs : List Frame, stream Wire.encode fs = frameCodec.encodeAll fs :=
    fun _ => rfl
  -- The state of the receiver after the first `k` chunks.
  have hprefix : ∀ k, ∃ done todo p, frames = done ++ todo ∧
      receiveAll frameCodec.next (chunks.take k) = (done, p) ∧
      (chunks.take k).flatten = frameCodec.encodeAll done ++ p ∧
      p ++ (chunks.drop k).flatten = frameCodec.encodeAll todo ∧
      frameCodec.Incomplete p todo := by
    intro k
    refine frameCodec.receiveAll_of_append hvalid ?_
    rw [← List.flatten_append, List.take_append_drop, hcut, hstream]
  refine ⟨?_, fun k => ?_, fun k n hn => ?_⟩
  · obtain ⟨done, todo, p, hframes, hrecv, -, hrest, hinc⟩ := hprefix chunks.length
    rw [List.take_length] at hrecv
    rw [List.drop_length, List.flatten_nil, List.append_nil] at hrest
    -- Nothing is outstanding, so what is left is no proper part of a frame.
    cases todo with
    | nil =>
        obtain rfl : p = [] := hinc
        rw [hrecv, hframes, List.append_nil]
    | cons f todo =>
        obtain ⟨hpre, hne⟩ := hinc
        rw [hrest, StreamCodec.encodeAll_cons] at hpre hne
        have hnil : frameCodec.encodeAll todo = [] := by
          have hle := hpre.length_le
          rw [List.length_append] at hle
          exact List.length_eq_zero_iff.mp (by omega)
        rw [hnil, List.append_nil] at hne
        exact absurd rfl hne
  · obtain ⟨done, todo, p, hframes, hrecv, -⟩ := hprefix k
    rw [hrecv, hframes]
    exact List.prefix_append done todo
  · obtain ⟨done, todo, p, hframes, hrecv, hflat, -, hinc⟩ := hprefix k
    rw [hrecv, hflat, hstream]
    exact frameCodec.taken_iff hframes hinc hn

/-- **The frame stream round trip**, in both directions: whatever the bridge encodes the console
decodes, and whatever the console encodes the bridge decodes, under any fragmentation. -/
theorem frame_stream (frames : List Frame) (chunks : List Bytes)
    (hvalid : ∀ f ∈ frames, f.payload.length ≤ 65532) :
    (chunks.flatten = stream Bridge.encodeFrame frames →
        Delivers Bridge.encodeFrame Ui.next frames chunks) ∧
      (chunks.flatten = stream Ui.encodeFrame frames →
        Delivers Ui.encodeFrame Bridge.next frames chunks) :=
  ⟨fun hcut => frameCodec_delivers hvalid hcut, fun hcut => frameCodec_delivers hvalid hcut⟩

/-- Two frames, cut inside the length of the first and inside the payload of the second. -/
def twoFrames : List Frame :=
  [{ type := 0x22, flags := 3, seq := 258 }, { type := 0x21, seq := 7, payload := [123, 125] }]

def twoChunks : List Bytes :=
  [[4, 0], [0, 0, 0x22, 3, 2, 1, 6, 0, 0, 0, 0x21, 0, 7, 0, 123], [125]]

/-- Two frames in three chunks. -/
theorem frame_stream_two :
    Delivers Bridge.encodeFrame Ui.next twoFrames twoChunks ∧
      Delivers Ui.encodeFrame Bridge.next twoFrames twoChunks :=
  ⟨(frame_stream twoFrames twoChunks (by decide)).1 (by decide),
    (frame_stream twoFrames twoChunks (by decide)).2 (by decide)⟩

end BotCockpit.Wire
