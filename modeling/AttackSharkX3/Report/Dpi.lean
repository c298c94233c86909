import AttackSharkX3.Protocol
import AttackSharkX3.Wire.Bytes
/-!
# Report 0x04 — the DPI section on the wire

Stages are split into a row of low bytes and a row of high bytes, each a multiple of 50 less one, under a mask of the
stages in use.  A write is 52 bytes; a USB readback may append four zeros, and the receiver may declare another length.
-/
namespace AttackSharkX3

open Wire (byte slice sum16 word lowByte highByte expect)

def DPI_REPORT_ID : UInt8 := 0x04
def DPI_DECLARED_LENGTH : UInt8 := 0x38
def DPI_RECEIVER_DECLARED_LENGTH : UInt8 := 0x3a
def DPI_WIRED_LENGTH : Nat := 52
def DPI_RECEIVER_LENGTH : Nat := 56
def CHECKSUM_OFFSET : Nat := 50
def FIXED_TAIL_START : Nat := 25

/-! ## Checks the reports share -/

def validateFixedByte (packet : List UInt8) (offset : Nat) (expected : UInt8) : Except ProtocolError Unit :=
  expect (byte packet offset = expected) (.invalidFixedByte offset expected (byte packet offset))

/-- The check of `count` offsets from `start` on. -/
def validateFixedFrom (packet : List UInt8) (expected : UInt8) : Nat → Nat → Except ProtocolError Unit
  | 0, _ => .ok ()
  | count + 1, start => do
    validateFixedByte packet start expected
    validateFixedFrom packet expected count (start + 1)

def validateFixedRange (packet : List UInt8) (start stop : Nat) (expected : UInt8) : Except ProtocolError Unit :=
  validateFixedFrom packet expected (stop - start) start

/-- `n` bytes of the packet, from an offset on. -/
def Bytes.read (packet : List UInt8) (start n : Nat) : Bytes n :=
  ⟨(List.range n).map fun k => byte packet (start + k), by rw [List.length_map, List.length_range]⟩

def StageIndex.tryFrom (value : UInt8) : Except ProtocolError StageIndex :=
  if h : 1 ≤ value ∧ value ≤ 8 then .ok ⟨value, h⟩ else .error (.invalidStage value)

theorem mod_of_div_mul {value : UInt16} (h : value / 50 * 50 = value) : value % 50 = 0 := by
  have hnat := congrArg UInt16.toNat h
  have hdiv : value.toNat / 50 * 50 < 2 ^ 16 := by
    have hv := value.toNat_lt
    omega
  rw [UInt16.toNat_mul, UInt16.toNat_div] at hnat
  have h50 : (50 : UInt16).toNat = 50 := rfl
  rw [h50, Nat.mod_eq_of_lt hdiv] at hnat
  apply UInt16.toNat.inj
  rw [UInt16.toNat_mod, h50]
  show value.toNat % 50 = 0
  omega

/-- A DPI in range and on the sensor's step. -/
def DpiValue.new (value : UInt16) : Option DpiValue :=
  if h : 50 ≤ value ∧ value ≤ 26000 ∧ value / 50 * 50 = value then
    some ⟨value, h.1, h.2.1, mod_of_div_mul h.2.2⟩
  else none

def DpiValue.tryFrom (value : UInt16) : Except ProtocolError DpiValue :=
  match DpiValue.new value with
  | some dpi => .ok dpi
  | none => .error (.invalidDpi value)

/-! ## Framing -/

/-- A write image, or a USB readback with four trailing zeros. -/
inductive DpiFraming where
  | compact
  | full
deriving DecidableEq

def DpiFraming.transmittedLength : DpiFraming → Nat
  | compact => DPI_WIRED_LENGTH
  | full => DPI_RECEIVER_LENGTH

def DpiFraming.supportsTransport : DpiFraming → TransportKind → Bool
  | compact, _ => true
  | full, .wired | full, .receiver => true
  | full, .ble => false

def expectedLengthForError (transport : TransportKind) (actual : Nat) : Nat :=
  match transport with
  | .ble => DPI_WIRED_LENGTH
  | .wired | .receiver => if actual ≤ DPI_WIRED_LENGTH then DPI_WIRED_LENGTH else DPI_RECEIVER_LENGTH

def decodeFraming (transport : TransportKind) (actual : Nat) : Except ProtocolError DpiFraming :=
  if actual = DPI_WIRED_LENGTH then .ok .compact
  else if transport ≠ .ble ∧ actual = DPI_RECEIVER_LENGTH then .ok .full
  else .error (.invalidReportLength (expectedLengthForError transport actual) actual)

/-! ## Fields -/

/-- The lowest `stageCount` bits. -/
def enabledStageMaskUnchecked (stageCount : Nat) : UInt8 :=
  if stageCount = 8 then 0xff else (1 <<< UInt8.ofNat stageCount) - 1

/-- `count_ones`. -/
def countOnes (mask : UInt8) : Nat := (List.range 8).countP mask.toNat.testBit

def decodeStageCount (mask : UInt8) : Except ProtocolError Nat :=
  if countOnes mask = 0 ∨ enabledStageMaskUnchecked (countOnes mask) ≠ mask then .error (.invalidStageMask mask)
  else .ok (countOnes mask)

def LiftOffDistance.code : LiftOffDistance → UInt8
  | oneMillimeter => 0
  | twoMillimeters => 1

def decodeLiftOffDistance : UInt8 → Except ProtocolError LiftOffDistance
  | 0 => .ok .oneMillimeter
  | 1 => .ok .twoMillimeters
  | value => .error (.invalidSensorValue "lift_off_distance" value)

def decodeToggle (field : String) : UInt8 → Except ProtocolError Bool
  | 0 => .ok false
  | 1 => .ok true
  | value => .error (.invalidSensorValue field value)

/-- The wire value of a stage. -/
def DpiValue.raw (dpi : DpiValue) : UInt16 := dpi.get / 50 - 1

/-- The wire value at a stage position; a stage that is not configured is zero. -/
def stageRaw (stages : List DpiValue) (index : Nat) : UInt16 := stages[index]?.elim 0 DpiValue.raw

/-- The loop of the stage table, over `remaining` positions from `index` on. -/
def decodeStages (packet : List UInt8) (stageCount : Nat) : Nat → Nat → Except ProtocolError (List DpiValue)
  | 0, _ => .ok []
  | remaining + 1, index =>
    let raw := word (byte packet (16 + index)) (byte packet (8 + index))
    if stageCount ≤ index then do
      expect (raw = 0) (.invalidStageValue (index + 1) raw)
      decodeStages packet stageCount remaining (index + 1)
    else do
      expect (raw ≤ 519) (.invalidStageValue (index + 1) raw)
      let dpi ← DpiValue.tryFrom ((raw + 1) * 50)
      let rest ← decodeStages packet stageCount remaining (index + 1)
      return dpi :: rest

/-! ## The report -/

structure DecodedDpiReport where
  state : DpiState
  transport : TransportKind
  framing : DpiFraming
deriving DecidableEq

/-- Fifty-six bytes, of which the framing sends a prefix. -/
structure DpiReport where
  bytes : List UInt8
  transmittedLength : Nat
deriving DecidableEq

namespace DpiReport

/-- What the checksum covers: the sensor, the mask, the stages and the tail. -/
def body (state : DpiState) : List UInt8 :=
  [state.sensor.liftOffDistance.code, state.sensor.rippleControl.toUInt8,
    enabledStageMaskUnchecked state.stages.length, state.sensor.angleSnap.toUInt8, state.sensor.motionSync.toUInt8] ++
  ((List.range 8).map fun index => lowByte (stageRaw state.stages index)) ++
  ((List.range 8).map fun index => highByte (stageRaw state.stages index)) ++
  [state.activeStage.get] ++ state.preservedTail.toList

def encodeFramed (state : DpiState) (framing : DpiFraming) : Except ProtocolError DpiReport := do
  validateStageSelection state.stages.length state.activeStage
  let fields := [DPI_REPORT_ID, DPI_DECLARED_LENGTH, state.profile.get] ++ body state
  let checksum := sum16 (slice fields 3 CHECKSUM_OFFSET)
  return ⟨fields ++ [highByte checksum, lowByte checksum] ++ List.replicate 4 0, framing.transmittedLength⟩

/-- A write is compact on every transport. -/
def encode (state : DpiState) (_transport : TransportKind) : Except ProtocolError DpiReport :=
  encodeFramed state .compact

def asBytes (report : DpiReport) : List UInt8 := report.bytes.take report.transmittedLength

/-- A full report ends in zeros. -/
def validatePadding (packet : List UInt8) (framing : DpiFraming) : Except ProtocolError Unit :=
  if framing = .full then validateFixedRange packet DPI_WIRED_LENGTH DPI_RECEIVER_LENGTH 0 else .ok ()

/-- **Decodes and validates a report** for the profile that was asked for. -/
def decode (packet : List UInt8) (transport : TransportKind) (expectedProfile : ProfileId) :
    Except ProtocolError DecodedDpiReport := do
  let framing ← decodeFraming transport packet.length
  expect (byte packet 0 = DPI_REPORT_ID) (.unexpectedReportId DPI_REPORT_ID (byte packet 0))
  let expectedDeclaredLength := match transport with
    | .receiver => DPI_RECEIVER_DECLARED_LENGTH
    | .wired | .ble => DPI_DECLARED_LENGTH
  expect (byte packet 1 = expectedDeclaredLength ∨ (transport = .receiver ∧ byte packet 1 = DPI_DECLARED_LENGTH))
    (.unexpectedDeclaredLength expectedDeclaredLength (byte packet 1))
  expect (byte packet 2 = expectedProfile.get) (.profileMismatch expectedProfile.get (byte packet 2))
  validatePadding packet framing
  let actualChecksum := word (byte packet CHECKSUM_OFFSET) (byte packet (CHECKSUM_OFFSET + 1))
  let expectedChecksum := sum16 (slice packet 3 CHECKSUM_OFFSET)
  expect (actualChecksum = expectedChecksum) (.checksumMismatch expectedChecksum actualChecksum)
  let liftOffDistance ← decodeLiftOffDistance (byte packet 3)
  let rippleControl ← decodeToggle "ripple_control" (byte packet 4)
  let angleSnap ← decodeToggle "angle_snap" (byte packet 6)
  let motionSync ← decodeToggle "motion_sync" (byte packet 7)
  let stageCount ← decodeStageCount (byte packet 5)
  let stages ← decodeStages packet stageCount 8 0
  let activeStage ← StageIndex.tryFrom (byte packet 24)
  validateStageSelection stages.length activeStage
  return ⟨⟨expectedProfile, stages, activeStage, ⟨liftOffDistance, rippleControl, angleSnap, motionSync⟩,
    .read packet FIXED_TAIL_START 25⟩, transport, framing⟩

end DpiReport
end AttackSharkX3
