import PersonalVpn.Basic

namespace PersonalVpn.Broker

def magic : Bytes := text "PVBR"
def protocolVersion : UInt16 := 1
def frameHeaderSize : Nat := 20
def maximumFrameSize : Nat := 128
def maximumProfileIdSize : Nat := 64

/-- An `enum class` with a 16-bit base: every 16-bit value is one of its values. -/
structure RequestType where
  value : UInt16
  deriving DecidableEq, Repr

def RequestType.connect : RequestType := ⟨1⟩
def RequestType.disconnect : RequestType := ⟨2⟩
def RequestType.getStatus : RequestType := ⟨3⟩

structure Request where
  type : RequestType
  requestId : UInt64
  profileId : Bytes
  deriving DecidableEq, Repr

/-- What ends a decode early: an exception, or a read outside the vector. -/
inductive Fault where
  | thrown (e : Exception)
  | outOfRange (index : Nat)
  deriving DecidableEq, Repr

/-- `if (c) throw std::invalid_argument(what);`. -/
def rejectIf (c : Prop) [Decidable c] (what : Bytes) : Except Fault Unit :=
  if c then .error (.thrown (.invalidArgument what)) else .ok ()

/-- `input[index]`. -/
def subscript (input : Bytes) (index : Nat) : Except Fault UInt8 :=
  match input[index]? with
  | some b => .ok b
  | none => .error (.outOfRange index)

/-- The range from `input.begin() + offset` to `input.end()`. -/
def suffix (input : Bytes) (offset : Nat) : Except Fault Bytes :=
  if offset ≤ input.length then .ok (input.drop offset) else .error (.outOfRange offset)

def appendU16 (output : Bytes) (value : UInt16) : Bytes :=
  output ++ [(value &&& 0xFF).toUInt8] ++ [((value >>> 8) &&& 0xFF).toUInt8]

/-- The loop over `shift = 0, 8, ..., 56`. -/
def appendU64 (output : Bytes) (value : UInt64) : Bytes :=
  (List.range 8).foldl
    (fun out i => out ++ [((value >>> UInt64.ofNat (8 * i)) &&& 0xFF).toUInt8]) output

def readU16 (input : Bytes) (offset : Nat) : Except Fault UInt16 := do
  let low ← subscript input offset
  let high ← subscript input (offset + 1)
  return low.toUInt16 ||| (high.toUInt16 <<< 8)

/-- The loop of `read_u32` and `read_u64`: `count` bytes, each shifted in above the ones before. -/
def readLoop (w : Nat) (input : Bytes) (offset count : Nat) : Except Fault (BitVec w) :=
  (List.range count).foldlM
    (fun value index => do
      let byte ← subscript input (offset + index)
      return value ||| (byte.toBitVec.setWidth w <<< (index * 8))) 0

def readU32 (input : Bytes) (offset : Nat) : Except Fault UInt32 :=
  UInt32.ofBitVec <$> readLoop 32 input offset 4

def readU64 (input : Bytes) (offset : Nat) : Except Fault UInt64 :=
  UInt64.ofBitVec <$> readLoop 64 input offset 8

/-- The character test in the loop of `valid_profile_id`: the codes are those of `a` to `z`, `A` to
`Z`, `0` to `9`, `-` and `_`. -/
def profileCharacter (character : UInt8) : Bool :=
  let asciiLetter := (character ≥ 97 && character ≤ 122) || (character ≥ 65 && character ≤ 90)
  let digit := character ≥ 48 && character ≤ 57
  !(!asciiLetter && !digit && character != 45 && character != 95)

def validProfileId (profileId : Bytes) : Bool :=
  if profileId.isEmpty || profileId.length > maximumProfileIdSize then false
  else profileId.all profileCharacter

/-- The four bytes kept free at the front are set when the size of the body is known. -/
def setBodyLength (frame : Bytes) (bodyLength : UInt32) : Bytes :=
  (List.range 4).foldl
    (fun frame index => frame.set index ((bodyLength >>> UInt32.ofNat (index * 8)) &&& 0xFF).toUInt8)
    frame

/-- The switch of `encode_request`. -/
def appendBody (frame : Bytes) (request : Request) : Except Exception Bytes :=
  if request.type = .connect then do
    throwIf (!validProfileId request.profileId)
      (.invalidArgument (text "broker profile ID is invalid"))
    let frame := appendU16 frame (UInt16.ofNat request.profileId.length)
    return frame ++ request.profileId
  else if request.type = .disconnect ∨ request.type = .getStatus then do
    throwIf (!request.profileId.isEmpty)
      (.invalidArgument (text "broker request has an unexpected profile ID"))
    return frame
  else
    .error (.invalidArgument (text "broker request type is unknown"))

def encodeRequest (request : Request) : Except Exception Bytes := do
  throwIf (request.requestId = 0) (.invalidArgument (text "broker request ID must be nonzero"))
  let frame : Bytes := [0, 0, 0, 0] ++ magic
  let frame := appendU16 frame protocolVersion
  let frame := appendU16 frame request.type.value
  let frame := appendU64 frame request.requestId
  let frame ← appendBody frame request
  let bodySize := frame.length - 4
  throwIf (frame.length > maximumFrameSize)
    (.invalidArgument (text "broker request exceeds the maximum frame size"))
  return setBodyLength frame (UInt32.ofNat bodySize)

/-- The loop over the bytes of the magic number. -/
def checkMagic (frame : Bytes) : Except Fault Unit :=
  (List.range magic.length).forM fun index => do
    let byte ← subscript frame (4 + index)
    rejectIf (byte ≠ byteAt magic index) (text "broker frame magic is invalid")

/-- The switch of `decode_request`. -/
def readBody (frame : Bytes) (request : Request) : Except Fault Request :=
  if request.type = .connect then do
    rejectIf (frame.length < frameHeaderSize + 2) (text "broker connect request is truncated")
    let profileSize ← readU16 frame frameHeaderSize
    rejectIf (profileSize.toNat > maximumProfileIdSize ∨
        frame.length ≠ frameHeaderSize + 2 + profileSize.toNat)
      (text "broker profile ID length is invalid")
    let profileId ← suffix frame (frameHeaderSize + 2)
    rejectIf (!validProfileId profileId) (text "broker profile ID is invalid")
    return { request with profileId := profileId }
  else if request.type = .disconnect ∨ request.type = .getStatus then do
    rejectIf (frame.length ≠ frameHeaderSize) (text "broker request has an unexpected payload")
    return request
  else
    .error (.thrown (.invalidArgument (text "broker request type is unknown")))

def decodeRequest (frame : Bytes) : Except Fault Request := do
  rejectIf (frame.length < frameHeaderSize ∨ frame.length > maximumFrameSize)
    (text "broker frame size is invalid")
  let bodyLength ← readU32 frame 0
  rejectIf (bodyLength.toNat ≠ frame.length - 4) (text "broker frame length prefix is invalid")
  checkMagic frame
  let version ← readU16 frame 8
  rejectIf (version ≠ protocolVersion) (text "broker protocol version is unsupported")
  let type ← readU16 frame 10
  let requestId ← readU64 frame 12
  rejectIf (requestId = 0) (text "broker request ID must be nonzero")
  readBody frame ⟨⟨type⟩, requestId, []⟩

end PersonalVpn.Broker
