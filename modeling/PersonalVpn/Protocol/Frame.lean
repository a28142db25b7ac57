import PersonalVpn.Protocol.Wire

namespace PersonalVpn.Protocol

def kMagic : UInt32 := 0x5056504E
def kVersion : UInt8 := 2
def kHeaderSize : Nat := 20
def kMaxPayloadSize : Nat := 65535

inductive MessageType where
  | clientHello
  | ipAssign
  | dataIpv4
  | ping
  | pong
  | error
  | close
  | dataIpv6
  deriving DecidableEq, Repr

/-- The enumerator's value on the wire. -/
def MessageType.raw : MessageType → UInt8
  | .clientHello => 1
  | .ipAssign => 2
  | .dataIpv4 => 3
  | .ping => 4
  | .pong => 5
  | .error => 6
  | .close => 7
  | .dataIpv6 => 8

/-- `static_cast<MessageType>`, used only on known raw values. -/
def MessageType.ofRaw (raw : UInt8) : MessageType :=
  if raw = 1 then .clientHello
  else if raw = 2 then .ipAssign
  else if raw = 3 then .dataIpv4
  else if raw = 4 then .ping
  else if raw = 5 then .pong
  else if raw = 7 then .close
  else if raw = 8 then .dataIpv6
  else .error

inductive ProtocolErrorCode where
  | invalidMagic
  | unsupportedVersion
  | unknownMessageType
  | unsupportedFlags
  | payloadTooLarge
  | decoderFailed
  deriving DecidableEq, Repr

structure ProtocolError where
  code : ProtocolErrorCode
  what : Bytes
  deriving DecidableEq, Repr

structure Frame where
  type : MessageType
  flags : UInt16
  sequence : UInt64
  payload : Bytes
  deriving DecidableEq, Repr

def isKnownMessageType (rawType : UInt8) : Bool :=
  decide (MessageType.clientHello.raw ≤ rawType) && decide (rawType ≤ MessageType.dataIpv6.raw)

/-- The second bound of the source's size check, `2^32 - 1`, is implied by the first. -/
def encodeFrame (frame : Frame) : Except ProtocolError Bytes :=
  if !isKnownMessageType frame.type.raw then
    .error ⟨.unknownMessageType, text "unknown message type"⟩
  else if frame.flags ≠ 0 then
    .error ⟨.unsupportedFlags, text "protocol v1 requires zero flags"⟩
  else if frame.payload.length > kMaxPayloadSize ∨ frame.payload.length > 2 ^ 32 - 1 then
    .error ⟨.payloadTooLarge, text "frame payload exceeds the protocol limit"⟩
  else
    let encoded := appendU32 [] kMagic
    let encoded := encoded ++ [kVersion]
    let encoded := encoded ++ [frame.type.raw]
    let encoded := appendU16 encoded frame.flags
    let encoded := appendU32 encoded (UInt32.ofNat frame.payload.length)
    let encoded := appendU64 encoded frame.sequence
    .ok (encoded ++ frame.payload)

structure FrameDecoder where
  buffer : Bytes := []
  offset : Nat := 0
  failed : Bool := false
  deriving DecidableEq, Repr

namespace FrameDecoder

/-- `fail` marks the decoder before it throws; what was decoded so far stays in the caller's
local vector and is lost with it. -/
def fail (d : FrameDecoder) (code : ProtocolErrorCode) (message : Bytes) :
    Except ProtocolError (List Frame) × FrameDecoder :=
  (.error ⟨code, message⟩, { d with failed := true })

/-- The `while` loop of `push`, with the frames found so far. -/
def pushLoop (d : FrameDecoder) (frames : List Frame) :
    Except ProtocolError (List Frame) × FrameDecoder :=
  if _hsize : kHeaderSize ≤ d.buffer.length - d.offset then
    let header := d.buffer.drop d.offset
    if readU32 header ≠ kMagic then d.fail .invalidMagic (text "invalid tunnel frame magic")
    else if byteAt header 4 ≠ kVersion then
      d.fail .unsupportedVersion (text "unsupported tunnel protocol version")
    else if !isKnownMessageType (byteAt header 5) then
      d.fail .unknownMessageType (text "unknown tunnel message type")
    else
      let flags := readU16 (header.drop 6)
      if flags ≠ 0 then d.fail .unsupportedFlags (text "unsupported tunnel frame flags")
      else
        let payloadSize := (readU32 (header.drop 8)).toNat
        if payloadSize > kMaxPayloadSize then
          d.fail .payloadTooLarge (text "declared payload exceeds the protocol limit")
        else if d.buffer.length - d.offset < kHeaderSize + payloadSize then (.ok frames, d)
        else
          let frame : Frame := {
            type := MessageType.ofRaw (byteAt header 5)
            flags := flags
            sequence := readU64 (header.drop 12)
            payload := (d.buffer.drop (d.offset + kHeaderSize)).take payloadSize }
          pushLoop { d with offset := d.offset + (kHeaderSize + payloadSize) } (frames ++ [frame])
  else (.ok frames, d)
termination_by d.buffer.length - d.offset
decreasing_by
  have hpos : 0 < kHeaderSize := by decide
  omega

def push (d : FrameDecoder) (data : Bytes) : Except ProtocolError (List Frame) × FrameDecoder :=
  if d.failed then
    (.error ⟨.decoderFailed, text "decoder is in a failed state; reset it before reuse"⟩, d)
  else
    let d := if d.offset > 0 then { d with buffer := d.buffer.drop d.offset, offset := 0 } else d
    let d := { d with buffer := d.buffer ++ data }
    match d.pushLoop [] with
    | (.error e, d) => (.error e, d)
    | (.ok frames, d) =>
      if d.offset = d.buffer.length then (.ok frames, { d with buffer := [], offset := 0 })
      else (.ok frames, d)

def bufferedBytes (d : FrameDecoder) : Nat := d.buffer.length - d.offset

end FrameDecoder

end PersonalVpn.Protocol
