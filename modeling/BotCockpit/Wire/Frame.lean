import BotCockpit.Lib.Bytes

/-!
# `BotCockpit.Wire.Frame`: the frames on a TCP connection

A frame is a little-endian header and a payload:
`length:u32 | type:u8 | flags:u8 | seq:u16 | payload`, where `length` counts from the type on.
The bridge (`frame_codec.cpp`) and the console (`ui/…/frame_codec.cpp`) each have an encoder and
a decoder. The two pairs do the same, with their own copies of the constants.
-/

set_option autoImplicit false

namespace BotCockpit.Wire

open BotCockpit.Lib

/-- `struct Frame`. -/
structure Frame where
  type : UInt8 := 0
  flags : UInt8 := 0
  seq : UInt16 := 0
  payload : Bytes := []
  deriving DecidableEq, Repr

/-- The body of both encoders. -/
def encode (type flags : UInt8) (seq : UInt16) (payload : Bytes) : Bytes :=
  let length : UInt32 := 4 + UInt32.ofNat payload.length
  [(length &&& 0xFF).toUInt8, ((length >>> 8) &&& 0xFF).toUInt8,
    ((length >>> 16) &&& 0xFF).toUInt8, ((length >>> 24) &&& 0xFF).toUInt8, type, flags,
    (seq &&& 0xFF).toUInt8, ((seq >>> 8) &&& 0xFF).toUInt8] ++ payload

/-- The body of both `FrameDecoder::next`: the frame at the front of the buffer, if it is
complete, and the buffer that is left. A length out of range clears the buffer. -/
def decodeNext (minLength maxLength : UInt32) (buf : Bytes) : Option Frame × Bytes :=
  if buf.length < 4 then (none, buf)
  else
    let at' (i : Nat) : UInt8 := buf.getD i 0
    let length : UInt32 := (at' 0).toUInt32 ||| (at' 1).toUInt32 <<< 8 |||
      (at' 2).toUInt32 <<< 16 ||| (at' 3).toUInt32 <<< 24
    if length < minLength ∨ maxLength < length then (none, [])
    else if buf.length < (4 + length).toNat then (none, buf)
    else
      (some
        { type := at' 4
          flags := at' 5
          seq := (at' 6).toUInt16 ||| (at' 7).toUInt16 <<< 8
          payload := (buf.take (4 + length.toNat)).drop 8 },
        buf.drop (4 + length.toNat))

end BotCockpit.Wire

namespace BotCockpit.Bridge

open BotCockpit.Lib

def kMinFrameLength : UInt32 := 4

def kMaxFrameLength : UInt32 := 64 * 1024

/-- `botcockpit::encode_frame`. -/
def encodeFrame (type flags : UInt8) (seq : UInt16) (payload : Bytes) : Bytes :=
  Wire.encode type flags seq payload

/-- `botcockpit::FrameDecoder::next`. -/
def next (buf : Bytes) : Option Wire.Frame × Bytes :=
  Wire.decodeNext kMinFrameLength kMaxFrameLength buf

end BotCockpit.Bridge

namespace BotCockpit.Ui

open BotCockpit.Lib

def kMinFrameLength : UInt32 := 4

def kMaxFrameLength : UInt32 := 64 * 1024

/-- `botcockpit_ui::encode_frame`. -/
def encodeFrame (type flags : UInt8) (seq : UInt16) (payload : Bytes) : Bytes :=
  Wire.encode type flags seq payload

/-- `botcockpit_ui::FrameDecoder::next`. -/
def next (buf : Bytes) : Option Wire.Frame × Bytes :=
  Wire.decodeNext kMinFrameLength kMaxFrameLength buf

end BotCockpit.Ui
