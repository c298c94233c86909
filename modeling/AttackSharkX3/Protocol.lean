import AttackSharkX3.Collections
/-!
# Protocol — the values of the mouse's profile sections

Profile, stage and DPI numbers carry their ranges.  The DPI section ends in 25 bytes the firmware keeps without reading
them; the driver writes a physical identity there, and `decodeWatermark` reads it back.  The checksum of that watermark
is `crc32fast`'s, a dependency: `Crc32fast` is its interface.
-/
namespace AttackSharkX3

open Std (TransOrd LawfulEqOrd)

inductive TransportKind where
  | wired
  | receiver
  | ble
deriving DecidableEq

namespace TransportKind

def rank : TransportKind → Nat
  | wired => 0
  | receiver => 1
  | ble => 2

theorem rank_inj (a b : TransportKind) (h : a.rank = b.rank) : a = b := by
  cases a <;> cases b <;> first | rfl | cases h

instance : Ord TransportKind := ordOn rank
instance : TransOrd TransportKind := transOrdOn rank
instance : LawfulEqOrd TransportKind := lawfulEqOrdOn rank rank_inj

/-- `{:?}` of a transport. -/
def debug : TransportKind → String
  | wired => "Wired"
  | receiver => "Receiver"
  | ble => "Ble"

end TransportKind

/-- The errors of protocol values and reports. -/
inductive ProtocolError where
  | invalidProfile (value : UInt8)
  | invalidProfileRange (current maximum : UInt8)
  | invalidComplement (field : String) (value complement : UInt8)
  | invalidReadinessStatus (value : UInt8)
  | invalidStage (value : UInt8)
  | invalidDpi (value : UInt16)
  | invalidPollingRateCode (value : UInt8)
  | invalidReportLength (expected actual : Nat)
  | unexpectedReportId (expected actual : UInt8)
  | unexpectedDeclaredLength (expected actual : UInt8)
  | profileMismatch (expected actual : UInt8)
  | checksumMismatch (expected actual : UInt16)
  | invalidFixedByte (offset : Nat) (expected actual : UInt8)
  | invalidStageMask (mask : UInt8)
  | invalidStageValue (stage : Nat) (value : UInt16)
  | activeStageOutOfRange (active : UInt8) (count : Nat)
  | invalidStageCount (count : Nat)
  | invalidSensorValue (field : String) (value : UInt8)
deriving DecidableEq

/-- A one-based profile number. -/
structure ProfileId where
  get : UInt8
  range : 1 ≤ get ∧ get ≤ 5
deriving DecidableEq

namespace ProfileId

theorem get_inj : ∀ a b : ProfileId, a.get = b.get → a = b
  | ⟨_, _⟩, ⟨_, _⟩, rfl => rfl

def number (p : ProfileId) : Nat := p.get.toNat

instance : Ord ProfileId := ordOn number
instance : TransOrd ProfileId := transOrdOn number
instance : LawfulEqOrd ProfileId := lawfulEqOrdOn number fun a b h => get_inj a b (UInt8.toNat.inj h)

def MIN_ID : ProfileId := ⟨1, by decide⟩
def MAX_ID : ProfileId := ⟨5, by decide⟩

def max (a b : ProfileId) : ProfileId := if a.get ≤ b.get then b else a

/-- The profile numbers `first..=last`. -/
def upTo (last : ProfileId) : List ProfileId :=
  [⟨1, by decide⟩, ⟨2, by decide⟩, ⟨3, by decide⟩, ⟨4, by decide⟩, ⟨5, by decide⟩].filter (·.get ≤ last.get)

end ProfileId

theorem ProfileId.mem_upTo (p : ProfileId) : p ∈ upTo .MAX_ID := by
  obtain ⟨get, low, high⟩ := p
  have hcases : get = 1 ∨ get = 2 ∨ get = 3 ∨ get = 4 ∨ get = 5 := by
    simp only [UInt8.le_iff_toNat_le, ← UInt8.toNat_inj] at low high ⊢
    simp at low high ⊢
    omega
  rcases hcases with rfl | rfl | rfl | rfl | rfl <;> simp [upTo, MAX_ID]

theorem ProfileId.le_five (p : ProfileId) : p.get ≤ 5 := p.range.2

/-- A one-based DPI stage number. -/
structure StageIndex where
  get : UInt8
  range : 1 ≤ get ∧ get ≤ 8
deriving DecidableEq

theorem StageIndex.one_range : 1 ≤ (1 : UInt8) ∧ (1 : UInt8) ≤ 8 := by decide
theorem StageIndex.two_range : 1 ≤ (2 : UInt8) ∧ (2 : UInt8) ≤ 8 := by decide

/-- A DPI the sensor supports: a multiple of 50 up to 26000. -/
structure DpiValue where
  get : UInt16
  range : 50 ≤ get ∧ get ≤ 26000 ∧ get % 50 = 0
deriving DecidableEq

theorem DpiValue.range_800 : 50 ≤ (800 : UInt16) ∧ (800 : UInt16) ≤ 26000 ∧ (800 : UInt16) % 50 = 0 := by decide
theorem DpiValue.range_1600 : 50 ≤ (1600 : UInt16) ∧ (1600 : UInt16) ≤ 26000 ∧ (1600 : UInt16) % 50 = 0 := by decide

inductive PollingRate where
  | hz125
  | hz250
  | hz500
  | hz1000
deriving DecidableEq

inductive LiftOffDistance where
  | oneMillimeter
  | twoMillimeters
deriving DecidableEq

structure SensorOptions where
  liftOffDistance : LiftOffDistance := .oneMillimeter
  rippleControl : Bool := false
  angleSnap : Bool := false
  motionSync : Bool := false
deriving DecidableEq

/-! ## The watermark -/

/-- The CRC-32 dependency of the watermark. -/
class Crc32fast where
  hash : List UInt8 → UInt32

/-- An array of `n` bytes. -/
structure Bytes (n : Nat) where
  toList : List UInt8
  length_eq : toList.length = n
deriving DecidableEq

/-- A 128-bit token, the physical identity a mouse carries. -/
structure PhysicalId where
  token : Bytes 16
deriving DecidableEq

/-- The opaque tail of a DPI section. -/
abbrev Tail := Bytes 25

def toBeBytes (x : UInt32) : List UInt8 :=
  [.ofNat (x.toNat / 2 ^ 24), .ofNat (x.toNat / 2 ^ 16), .ofNat (x.toNat / 2 ^ 8), .ofNat x.toNat]

def fromBeBytes (bytes : List UInt8) : UInt32 := .ofNat (bytes.foldl (fun n b => n * 2 ^ 8 + b.toNat) 0)

theorem fromBeBytes_toBeBytes (x : UInt32) : fromBeBytes (toBeBytes x) = x := by
  apply UInt32.toNat.inj
  have hx := x.toNat_lt
  simp only [fromBeBytes, toBeBytes, List.foldl_cons, List.foldl_nil, UInt8.toNat_ofNat', UInt32.toNat_ofNat']
  omega

def WATERMARK_LENGTH : Nat := 25
/-- `X3ID`. -/
def WATERMARK_MAGIC : List UInt8 := [0x58, 0x33, 0x49, 0x44]
def WATERMARK_VERSION : UInt8 := 1
def WATERMARK_VERSION_OFFSET : Nat := 4
def WATERMARK_TOKEN_LENGTH : Nat := 16
def WATERMARK_TOKEN_START : Nat := 5
def WATERMARK_CRC_START : Nat := 21

/-- What the checksum covers: the magic, the version and the token. -/
def PhysicalId.marked (id : PhysicalId) : List UInt8 :=
  WATERMARK_MAGIC ++ WATERMARK_VERSION :: id.token.toList

theorem PhysicalId.length_marked (id : PhysicalId) : id.marked.length = WATERMARK_CRC_START := by
  simp [PhysicalId.marked, WATERMARK_MAGIC, WATERMARK_CRC_START, id.token.length_eq]

/-- **The watermark of a token**, filling the whole tail. -/
def PhysicalId.toWatermarkBytes [Crc32fast] (id : PhysicalId) : Tail where
  toList := id.marked ++ toBeBytes (Crc32fast.hash id.marked)
  length_eq := by rw [List.length_append, id.length_marked]; rfl

/-- What a tail says about the mouse's identity. -/
inductive WatermarkDecode where
  | absent
  | malformed
  | unsupportedVersion (version : UInt8)
  | valid (id : PhysicalId)
deriving DecidableEq

def WatermarkDecode.physicalId : WatermarkDecode → Option PhysicalId
  | .valid id => some id
  | .absent | .malformed | .unsupportedVersion _ => none

/-- **What a tail decodes to.**  A token is only ever read from a tail whose magic, version and checksum agree. -/
def decodeWatermark [Crc32fast] (tail : List UInt8) : WatermarkDecode :=
  if h : tail.length = WATERMARK_LENGTH then
    if tail.take WATERMARK_MAGIC.length ≠ WATERMARK_MAGIC then .absent
    else if tail.getD WATERMARK_VERSION_OFFSET 0 ≠ WATERMARK_VERSION then
      .unsupportedVersion (tail.getD WATERMARK_VERSION_OFFSET 0)
    else if fromBeBytes (tail.drop WATERMARK_CRC_START) ≠ Crc32fast.hash (tail.take WATERMARK_CRC_START) then .malformed
    else .valid ⟨(tail.drop WATERMARK_TOKEN_START).take WATERMARK_TOKEN_LENGTH, by
      simp [h, WATERMARK_LENGTH, WATERMARK_TOKEN_START, WATERMARK_TOKEN_LENGTH]⟩
  else .absent

section Watermark

variable [Crc32fast]

theorem toWatermarkBytes_toList (id : PhysicalId) :
    id.toWatermarkBytes.toList = id.marked ++ toBeBytes (Crc32fast.hash id.marked) := rfl

/-- **A watermark decodes to its token**, whatever the checksum function. -/
@[simp] theorem decode_toWatermarkBytes (id : PhysicalId) : decodeWatermark id.toWatermarkBytes.toList = .valid id := by
  have hm := id.length_marked
  have htake : id.toWatermarkBytes.toList.take WATERMARK_CRC_START = id.marked := by
    rw [toWatermarkBytes_toList, ← hm, List.take_left]
  have hdrop : id.toWatermarkBytes.toList.drop WATERMARK_CRC_START = toBeBytes (Crc32fast.hash id.marked) := by
    rw [toWatermarkBytes_toList, ← hm, List.drop_left]
  have htoken : (id.toWatermarkBytes.toList.drop WATERMARK_TOKEN_START).take WATERMARK_TOKEN_LENGTH = id.token.toList := by
    have h16 : WATERMARK_TOKEN_LENGTH = id.token.toList.length := id.token.length_eq.symm
    show ((id.token.toList ++ toBeBytes (Crc32fast.hash id.marked)).take WATERMARK_TOKEN_LENGTH) = _
    rw [h16, List.take_left]
  have hlength : id.toWatermarkBytes.toList.length = WATERMARK_LENGTH := id.toWatermarkBytes.length_eq
  have hmagic : id.toWatermarkBytes.toList.take WATERMARK_MAGIC.length = WATERMARK_MAGIC := rfl
  have hversion : id.toWatermarkBytes.toList[WATERMARK_VERSION_OFFSET]? = some WATERMARK_VERSION := rfl
  simp [decodeWatermark, hlength, hmagic, hversion, htake, hdrop, htoken, fromBeBytes_toBeBytes]

theorem toWatermarkBytes_inj {a b : PhysicalId} (h : a.toWatermarkBytes = b.toWatermarkBytes) : a = b := by
  have hd := congrArg (fun t : Tail => decodeWatermark t.toList) h
  simpa using hd

end Watermark

/-! ## The profile sections -/

/-- The DPI section of one profile. -/
structure DpiState where
  profile : ProfileId
  stages : List DpiValue
  activeStage : StageIndex
  sensor : SensorOptions
  preservedTail : Tail
deriving DecidableEq

def validateStageSelection (stageCount : Nat) (activeStage : StageIndex) : Except ProtocolError Unit :=
  if ¬ (1 ≤ stageCount ∧ stageCount ≤ 8) then .error (.invalidStageCount stageCount)
  else if stageCount < activeStage.get.toNat then .error (.activeStageOutOfRange activeStage.get stageCount)
  else .ok ()

namespace DpiState

def new (profile : ProfileId) (stages : List DpiValue) (activeStage : StageIndex) (preservedTail : Tail) :
    Except ProtocolError DpiState := do
  validateStageSelection stages.length activeStage
  return ⟨profile, stages, activeStage, {}, preservedTail⟩

def withSensor (state : DpiState) (sensor : SensorOptions) : DpiState := { state with sensor }

/-- The tail the stock application left on an empty profile 1. -/
def CAPTURED_EMPTY_PROFILE_TAIL : Tail where
  toList := [0xff, 0x00, 0x00, 0x00, 0xff, 0x00, 0x00, 0x00, 0xff, 0xff, 0xff, 0x00, 0x00, 0xff, 0xff, 0xff,
    0x00, 0xff, 0xff, 0x40, 0x00, 0xff, 0xff, 0xff, 0x01]
  length_eq := rfl

def capturedEmptyProfileOne (stages : List DpiValue) (activeStage : StageIndex) : Except ProtocolError DpiState :=
  new .MIN_ID stages activeStage CAPTURED_EMPTY_PROFILE_TAIL

/-- What the tail of the section decodes to. -/
def physicalId [Crc32fast] (state : DpiState) : WatermarkDecode := decodeWatermark state.preservedTail.toList

end DpiState

/-- The profile in use and the highest one enabled. -/
structure ProfileMetadata where
  current : ProfileId
  maximum : ProfileId
  ordered : current.get ≤ maximum.get
deriving DecidableEq

def ProfileMetadata.new (current maximum : ProfileId) : Except ProtocolError ProfileMetadata :=
  if h : current.get ≤ maximum.get then .ok ⟨current, maximum, h⟩
  else .error (.invalidProfileRange current.get maximum.get)

structure PreferencesState where
  profile : ProfileId
  lightMode : UInt8
  configuration : UInt8
  deepSleep : UInt8
  hostColor : Bytes 3
  sleepTimer : UInt8
  debounce : UInt8
deriving DecidableEq

/-- One raw button slot. -/
structure ButtonAssignment where
  action : UInt8
  modifier : UInt8
  keyCode : UInt8
deriving DecidableEq

def BUTTON_SLOT_COUNT : Nat := 18

structure ButtonsState where
  profile : ProfileId
  slots : List ButtonAssignment
  slotCount : slots.length = BUTTON_SLOT_COUNT
deriving DecidableEq

/-- Everything one profile holds, read in one go. -/
structure ProfileSnapshot where
  persistentMetadata : ProfileMetadata
  targetProfile : ProfileId
  dpi : DpiState
  preferences : PreferencesState
  buttons : ButtonsState
deriving DecidableEq

end AttackSharkX3
