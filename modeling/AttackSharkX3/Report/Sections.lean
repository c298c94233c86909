import AttackSharkX3.Report.Dpi
/-!
# Reports 0x05, 0x06, 0x08, 0x0c and 0xa0 — the other sections, profile control and the read mailbox

A read is armed by a selector that names a report; the mailbox answers whether it is ready, and then the report itself.
The receiver declares lengths of its own.
-/
namespace AttackSharkX3

open Wire (byte slice sum16 word lowByte highByte expect)

def ProfileId.tryFrom (value : UInt8) : Except ProtocolError ProfileId :=
  if h : 1 ≤ value ∧ value ≤ 5 then .ok ⟨value, h⟩ else .error (.invalidProfile value)

def validateComplement (field : String) (value complement : UInt8) : Except ProtocolError Unit :=
  expect (value ^^^ complement = 0xff) (.invalidComplement field value complement)

/-! ## Profile control and metadata -/

def PROFILE_REPORT_ID : UInt8 := 0x0c
def PROFILE_DECLARED_LENGTH : UInt8 := 0x0a
def PROFILE_RECEIVER_DECLARED_LENGTH : UInt8 := 0x0c
def PROFILE_CONTROL_COMPACT_LENGTH : Nat := 6
def PROFILE_REPORT_LENGTH : Nat := 10
def PROFILE_METADATA_SUBTYPE : UInt8 := 0x01

inductive ProfileControlFraming where
  | compact
  | full
deriving DecidableEq

def ProfileControlFraming.transmittedLength : ProfileControlFraming → Nat
  | compact => PROFILE_CONTROL_COMPACT_LENGTH
  | full => PROFILE_REPORT_LENGTH

structure ProfileControlReport where
  bytes : List UInt8
  transmittedLength : Nat
deriving DecidableEq

namespace ProfileControlReport

/-- Each number followed by its complement. -/
def encode (metadata : ProfileMetadata) (framing : ProfileControlFraming) : ProfileControlReport where
  bytes := [PROFILE_REPORT_ID, PROFILE_DECLARED_LENGTH, metadata.current.get, ~~~ metadata.current.get,
    metadata.maximum.get, ~~~ metadata.maximum.get, 0, 0, 0, 0]
  transmittedLength := framing.transmittedLength

def asBytes (report : ProfileControlReport) : List UInt8 := report.bytes.take report.transmittedLength

end ProfileControlReport

structure ProfileMetadataReport where
  metadata : ProfileMetadata
  bytes : List UInt8
deriving DecidableEq

namespace ProfileMetadataReport

def decodeWithDeclaredLength (packet : List UInt8) (declaredLength : UInt8) :
    Except ProtocolError ProfileMetadataReport := do
  expect (packet.length = PROFILE_REPORT_LENGTH) (.invalidReportLength PROFILE_REPORT_LENGTH packet.length)
  expect (byte packet 0 = PROFILE_REPORT_ID) (.unexpectedReportId PROFILE_REPORT_ID (byte packet 0))
  expect (byte packet 1 = declaredLength) (.unexpectedDeclaredLength declaredLength (byte packet 1))
  validateFixedByte packet 2 PROFILE_METADATA_SUBTYPE
  validateComplement "current profile" (byte packet 3) (byte packet 4)
  validateComplement "maximum profile" (byte packet 5) (byte packet 6)
  validateFixedRange packet 7 PROFILE_REPORT_LENGTH 0
  let current ← ProfileId.tryFrom (byte packet 3)
  let maximum ← ProfileId.tryFrom (byte packet 5)
  let metadata ← ProfileMetadata.new current maximum
  return ⟨metadata, packet⟩

def decodeForTransport (packet : List UInt8) (transport : TransportKind) : Except ProtocolError ProfileMetadataReport :=
  decodeWithDeclaredLength packet <| match transport with
    | .receiver => PROFILE_RECEIVER_DECLARED_LENGTH
    | .wired | .ble => PROFILE_DECLARED_LENGTH

end ProfileMetadataReport

/-! ## The read mailbox -/

def READ_SELECTOR_REPORT_ID : UInt8 := 0xa0
def READ_SELECTOR_LENGTH : Nat := 8
def OBSERVED_UNTARGETED_PARAMETER : UInt8 := 0x01

/-- A report the mailbox can be armed for. -/
inductive ReadbackRequest where
  | version
  | profileMetadata
  | pollingRate (profile : ProfileId)
  | dpi (profile : ProfileId)
  | preferences (profile : ProfileId)
  | buttons (profile : ProfileId)
deriving DecidableEq

namespace ReadbackRequest

def reportId : ReadbackRequest → UInt8
  | version => 0x0b
  | pollingRate _ => 0x06
  | profileMetadata => PROFILE_REPORT_ID
  | dpi _ => 0x04
  | preferences _ => 0x05
  | buttons _ => 0x08

def reportLength : ReadbackRequest → UInt8
  | version => 0x08
  | profileMetadata => PROFILE_DECLARED_LENGTH
  | pollingRate _ => 0x09
  | dpi _ => 0x38
  | preferences _ => 0x0f
  | buttons _ => 0x3b

def targetProfile : ReadbackRequest → Option ProfileId
  | dpi profile | preferences profile | buttons profile | pollingRate profile => some profile
  | version | profileMetadata => none

def selectorParameter (request : ReadbackRequest) : UInt8 :=
  request.targetProfile.elim OBSERVED_UNTARGETED_PARAMETER ProfileId.get

/-- The section named by an exhausted read. -/
def sectionName : ReadbackRequest → String
  | version => "version"
  | profileMetadata => "profile metadata"
  | pollingRate _ => "polling rate"
  | dpi _ => "dpi"
  | preferences _ => "preferences"
  | buttons _ => "buttons"

end ReadbackRequest

/-- **The selector that arms one read.** -/
def ReadSelector.encode (request : ReadbackRequest) : List UInt8 :=
  [READ_SELECTOR_REPORT_ID, request.reportId, request.reportLength, 0, request.selectorParameter, 0, 0, 0]

inductive ReadinessStatus where
  | notReady
  | ready
deriving DecidableEq

def ReadinessStatus.decode (packet : List UInt8) : Except ProtocolError ReadinessStatus := do
  expect (packet.length = READ_SELECTOR_LENGTH) (.invalidReportLength READ_SELECTOR_LENGTH packet.length)
  expect (byte packet 0 = READ_SELECTOR_REPORT_ID) (.unexpectedReportId READ_SELECTOR_REPORT_ID (byte packet 0))
  validateFixedRange packet 2 READ_SELECTOR_LENGTH 0
  match byte packet 1 with
  | 0 => return .notReady
  | 1 => return .ready
  | value => .error (.invalidReadinessStatus value)

/-! ## Polling rate -/

def POLLING_RATE_REPORT_ID : UInt8 := 0x06
def POLLING_RATE_DECLARED_LENGTH : UInt8 := 0x09
def POLLING_RATE_RECEIVER_DECLARED_LENGTH : UInt8 := 0x0b
def POLLING_RATE_REPORT_LENGTH : Nat := 9

def PollingRate.code : PollingRate → UInt8
  | hz125 => 0x08
  | hz250 => 0x04
  | hz500 => 0x02
  | hz1000 => 0x01

def PollingRate.fromCode : UInt8 → Except ProtocolError PollingRate
  | 0x08 => .ok hz125
  | 0x04 => .ok hz250
  | 0x02 => .ok hz500
  | 0x01 => .ok hz1000
  | value => .error (.invalidPollingRateCode value)

structure DecodedPollingRateReport where
  profile : ProfileId
  rate : PollingRate
deriving DecidableEq

namespace PollingRateReport

def encode (profile : ProfileId) (rate : PollingRate) : List UInt8 :=
  [POLLING_RATE_REPORT_ID, POLLING_RATE_DECLARED_LENGTH, profile.get, rate.code, ~~~ rate.code, 0, 0, 0, 0]

def decodeWithDeclaredLength (packet : List UInt8) (declaredLength : UInt8) (expectedProfile : ProfileId) :
    Except ProtocolError DecodedPollingRateReport := do
  expect (packet.length = POLLING_RATE_REPORT_LENGTH) (.invalidReportLength POLLING_RATE_REPORT_LENGTH packet.length)
  expect (byte packet 0 = POLLING_RATE_REPORT_ID) (.unexpectedReportId POLLING_RATE_REPORT_ID (byte packet 0))
  expect (byte packet 1 = declaredLength) (.unexpectedDeclaredLength declaredLength (byte packet 1))
  let profile ← ProfileId.tryFrom (byte packet 2)
  expect (profile = expectedProfile) (.profileMismatch expectedProfile.get (byte packet 2))
  let rate ← PollingRate.fromCode (byte packet 3)
  validateComplement "polling rate" (byte packet 3) (byte packet 4)
  validateFixedRange packet 5 POLLING_RATE_REPORT_LENGTH 0
  return ⟨profile, rate⟩

def decodeForTransport (packet : List UInt8) (transport : TransportKind) (expectedProfile : ProfileId) :
    Except ProtocolError DecodedPollingRateReport :=
  decodeWithDeclaredLength packet (match transport with
    | .receiver => POLLING_RATE_RECEIVER_DECLARED_LENGTH
    | .wired | .ble => POLLING_RATE_DECLARED_LENGTH) expectedProfile

end PollingRateReport

/-! ## Preferences -/

def PREFERENCES_REPORT_ID : UInt8 := 0x05
def PREFERENCES_DECLARED_LENGTH : UInt8 := 0x0f
def PREFERENCES_RECEIVER_DECLARED_LENGTH : UInt8 := 0x11
def PREFERENCES_COMPACT_LENGTH : Nat := 13
def PREFERENCES_FULL_LENGTH : Nat := 15
def PREFERENCES_CHECKSUM_OFFSET : Nat := 11

inductive PreferencesFraming where
  | compact
  | full
deriving DecidableEq

def PreferencesFraming.transmittedLength : PreferencesFraming → Nat
  | compact => PREFERENCES_COMPACT_LENGTH
  | full => PREFERENCES_FULL_LENGTH

def PreferencesFraming.supportsTransport : PreferencesFraming → TransportKind → Bool
  | compact, _ => true
  | full, .wired | full, .receiver => true
  | full, .ble => false

def PreferencesState.payload (state : PreferencesState) : List UInt8 :=
  [state.lightMode, state.configuration, state.deepSleep] ++ state.hostColor.toList ++ [state.sleepTimer, state.debounce]

structure DecodedPreferencesReport where
  state : PreferencesState
  framing : PreferencesFraming
deriving DecidableEq

structure PreferencesReport where
  bytes : List UInt8
  transmittedLength : Nat
deriving DecidableEq

namespace PreferencesReport

def encodeFramed (state : PreferencesState) (framing : PreferencesFraming) : PreferencesReport :=
  let fields := [PREFERENCES_REPORT_ID, PREFERENCES_DECLARED_LENGTH, state.profile.get] ++ state.payload
  let checksum := sum16 (slice fields 3 PREFERENCES_CHECKSUM_OFFSET)
  ⟨fields ++ [highByte checksum, lowByte checksum] ++ [0, 0], framing.transmittedLength⟩

def asBytes (report : PreferencesReport) : List UInt8 := report.bytes.take report.transmittedLength

def expectedLengthForError (actual : Nat) : Nat :=
  if actual ≤ PREFERENCES_COMPACT_LENGTH ∨ actual = PREFERENCES_FULL_LENGTH then PREFERENCES_COMPACT_LENGTH
  else PREFERENCES_FULL_LENGTH

def decodeFraming (actual : Nat) : Except ProtocolError PreferencesFraming :=
  if actual = PREFERENCES_COMPACT_LENGTH then .ok .compact
  else if actual = PREFERENCES_FULL_LENGTH then .ok .full
  else .error (.invalidReportLength (expectedLengthForError actual) actual)

def validatePadding (packet : List UInt8) (framing : PreferencesFraming) : Except ProtocolError Unit :=
  if framing = .full then validateFixedRange packet PREFERENCES_COMPACT_LENGTH PREFERENCES_FULL_LENGTH 0 else .ok ()

def decodeWithDeclaredLength (packet : List UInt8) (expectedProfile : ProfileId) (declaredLength : UInt8) :
    Except ProtocolError DecodedPreferencesReport := do
  let framing ← decodeFraming packet.length
  expect (byte packet 0 = PREFERENCES_REPORT_ID) (.unexpectedReportId PREFERENCES_REPORT_ID (byte packet 0))
  expect (byte packet 1 = declaredLength) (.unexpectedDeclaredLength declaredLength (byte packet 1))
  expect (byte packet 2 = expectedProfile.get) (.profileMismatch expectedProfile.get (byte packet 2))
  validatePadding packet framing
  let actualChecksum := word (byte packet PREFERENCES_CHECKSUM_OFFSET) (byte packet (PREFERENCES_CHECKSUM_OFFSET + 1))
  let expectedChecksum := sum16 (slice packet 3 PREFERENCES_CHECKSUM_OFFSET)
  expect (actualChecksum = expectedChecksum) (.checksumMismatch expectedChecksum actualChecksum)
  return ⟨{ profile := expectedProfile, lightMode := byte packet 3, configuration := byte packet 4,
            deepSleep := byte packet 5, hostColor := .read packet 6 3, sleepTimer := byte packet 9,
            debounce := byte packet 10 }, framing⟩

/-- The receiver's length first, and the canonical one where the packet declares it. -/
def decodeAsDeclared (packet : List UInt8) (transport : TransportKind) (expectedProfile : ProfileId) :
    Except ProtocolError DecodedPreferencesReport :=
  let declaredLength := match transport with
    | .receiver => PREFERENCES_RECEIVER_DECLARED_LENGTH
    | .wired | .ble => PREFERENCES_DECLARED_LENGTH
  match decodeWithDeclaredLength packet expectedProfile declaredLength with
  | .ok decoded => .ok decoded
  | .error (.unexpectedDeclaredLength expected actual) =>
    if transport = .receiver ∧ packet[1]? = some PREFERENCES_DECLARED_LENGTH then
      decodeWithDeclaredLength packet expectedProfile PREFERENCES_DECLARED_LENGTH
    else .error (.unexpectedDeclaredLength expected actual)
  | .error e => .error e

def decodeForTransport (packet : List UInt8) (transport : TransportKind) (expectedProfile : ProfileId) :
    Except ProtocolError DecodedPreferencesReport := do
  let decoded ← decodeAsDeclared packet transport expectedProfile
  expect (¬ (decoded.framing = .full ∧ decoded.framing.supportsTransport transport = false))
    (.invalidReportLength PREFERENCES_COMPACT_LENGTH packet.length)
  return decoded

end PreferencesReport

/-! ## Buttons -/

def BUTTON_REPORT_ID : UInt8 := 0x08
def BUTTON_DECLARED_LENGTH : UInt8 := 0x3b
def BUTTON_RECEIVER_DECLARED_LENGTH : UInt8 := 0x3d
def BUTTON_REPORT_LENGTH : Nat := 59
def SLOTS_START : Nat := 3
def SLOTS_END : Nat := SLOTS_START + BUTTON_SLOT_COUNT * 3

def ButtonAssignment.asBytes (assignment : ButtonAssignment) : List UInt8 :=
  [assignment.action, assignment.modifier, assignment.keyCode]

structure DecodedButtonsReport where
  state : ButtonsState
deriving DecidableEq

namespace ButtonsReport

def encode (state : ButtonsState) : List UInt8 :=
  let fields := [BUTTON_REPORT_ID, BUTTON_DECLARED_LENGTH, state.profile.get] ++ state.slots.flatMap (·.asBytes)
  let checksum := sum16 (slice fields SLOTS_START SLOTS_END)
  fields ++ [highByte checksum, lowByte checksum]

/-- The slot whose three bytes start at an index. -/
def slotAt (packet : List UInt8) (index : Nat) : ButtonAssignment :=
  let offset := SLOTS_START + index * 3
  ⟨byte packet offset, byte packet (offset + 1), byte packet (offset + 2)⟩

def decodeWithDeclaredLength (packet : List UInt8) (expectedProfile : ProfileId) (declaredLength : UInt8) :
    Except ProtocolError DecodedButtonsReport := do
  expect (packet.length = BUTTON_REPORT_LENGTH) (.invalidReportLength BUTTON_REPORT_LENGTH packet.length)
  expect (byte packet 0 = BUTTON_REPORT_ID) (.unexpectedReportId BUTTON_REPORT_ID (byte packet 0))
  expect (byte packet 1 = declaredLength) (.unexpectedDeclaredLength declaredLength (byte packet 1))
  expect (byte packet 2 = expectedProfile.get) (.profileMismatch expectedProfile.get (byte packet 2))
  let actualChecksum := word (byte packet SLOTS_END) (byte packet (SLOTS_END + 1))
  let expectedChecksum := sum16 (slice packet SLOTS_START SLOTS_END)
  expect (actualChecksum = expectedChecksum) (.checksumMismatch expectedChecksum actualChecksum)
  return ⟨⟨expectedProfile, (List.range BUTTON_SLOT_COUNT).map (slotAt packet), by simp⟩⟩

def decodeForTransport (packet : List UInt8) (transport : TransportKind) (expectedProfile : ProfileId) :
    Except ProtocolError DecodedButtonsReport :=
  decodeWithDeclaredLength packet expectedProfile <| match transport with
    | .receiver => BUTTON_RECEIVER_DECLARED_LENGTH
    | .wired | .ble => BUTTON_DECLARED_LENGTH

end ButtonsReport
end AttackSharkX3
