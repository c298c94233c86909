import AttackSharkX3.Protocol
/-!
# Device — logical mice and the endpoints they are seen at

A logical mouse has the key `mouse-N` and one endpoint for each transport.  An endpoint locates a connection and never
identifies the unit behind it; `physicalId` does, once the installation stamps watermarks.
-/
namespace AttackSharkX3

open Std (TransOrd LawfulEqOrd)

/-- The errors of loading, checking and storing the durable state. -/
inductive StateError where
  | statePathUnavailable (reason : String)
  | io (path source : String)
  | serde (source : String)
  | lockBusy (path : String)
  | unsupportedSchema (found expected : Nat)
  | invalidState (detail : String)
deriving DecidableEq

/-! ## Keys -/

def decimalDigit (c : Char) : Option Nat :=
  if '0' ≤ c ∧ c ≤ '9' then some (c.toNat - '0'.toNat) else none

/-- The value of a nonempty run of decimal digits. -/
def parseDecimal (digits : List Char) : Option Nat :=
  if digits.isEmpty then none
  else digits.foldl (fun acc c => do return (← acc) * 10 + (← decimalDigit c)) (some 0)

/-- The number `N ≥ 1` of a `mouse-N` key that fits in 64 bits, without leading zeros. -/
def parseLogicalNumber (value : String) : Option Nat :=
  if value.toList.take 6 ≠ "mouse-".toList then none
  else
    let suffix := value.toList.drop 6
    if 1 < suffix.length ∧ suffix.head? = some '0' then none
    else (parseDecimal suffix).filter fun n => n ≠ 0 ∧ n < 2 ^ 64

def validateLogicalId (value : String) : Except StateError Unit :=
  if isBlank value then .error (.invalidState "device identity must not be blank")
  else if value ≠ trim value then
    .error (.invalidState s!"device identity '{value}' must not have surrounding whitespace")
  else match parseLogicalNumber value with
    | some number =>
      if s!"mouse-{number}" ≠ value then
        .error (.invalidState s!"device identity '{value}' must be canonical mouse-N without leading zeros")
      else if number = 0 then .error (.invalidState "device identity number must be >= 1")
      else .ok ()
    | none => .error (.invalidState s!"device identity '{value}' must be mouse-N (N >= 1)")

/-- **The key of a logical mouse.**  Only checked keys exist. -/
structure DeviceId where
  asStr : String
  valid : validateLogicalId asStr = .ok ()

namespace DeviceId

theorem asStr_inj : ∀ a b : DeviceId, a.asStr = b.asStr → a = b
  | ⟨_, _⟩, ⟨_, _⟩, rfl => rfl

instance : DecidableEq DeviceId := fun a b => decidable_of_iff (a.asStr = b.asStr) ⟨asStr_inj a b, congrArg asStr⟩
/-- Keys are ordered as strings: `mouse-10` comes before `mouse-2`. -/
instance : Ord DeviceId := ordOn asStr
instance : TransOrd DeviceId := transOrdOn asStr
instance : LawfulEqOrd DeviceId := lawfulEqOrdOn asStr asStr_inj

instance : ToString DeviceId := ⟨asStr⟩

def new (value : String) : Except StateError DeviceId :=
  match h : validateLogicalId value with
  | .ok () => .ok ⟨value, h⟩
  | .error e => .error e

def fromNumber (number : Nat) : Except StateError DeviceId :=
  if number = 0 then .error (.invalidState "device number must be >= 1") else new s!"mouse-{number}"

def number (id : DeviceId) : Option Nat := parseLogicalNumber id.asStr

end DeviceId

/-! ## Endpoints -/

/-- What opens a connection: a HID path, which changes on replug, or a platform identifier. -/
inductive DeviceLocator where
  | usbPath (path : String)
  | blePlatformId (id : String)
deriving DecidableEq

/-- `{:?}` of a locator. -/
def DeviceLocator.debug : DeviceLocator → String
  | usbPath path => s!"UsbPath({debugString path})"
  | blePlatformId id => s!"BlePlatformId({debugString id})"

/-- **One connection of a mouse**: how to open it and what its transport reports about it. -/
structure DeviceEndpoint where
  transport : TransportKind
  vendorId : Option UInt16
  productId : Option UInt16
  serialNumber : Option String
  locator : DeviceLocator
  displayName : Option String
deriving DecidableEq

def isUsbTransport : TransportKind → Bool
  | .wired | .receiver => true
  | .ble => false

/-- A reported text, trimmed; a blank one is none. -/
def normalizeText (text : Option String) : Option String := (text.filter fun t => !isBlank t).map trim

namespace DeviceEndpoint

def usb (transport : TransportKind) (vendorId productId : UInt16) (serialNumber : Option String) (currentPath : String)
    (displayName : Option String) : Except StateError DeviceEndpoint :=
  if transport = .ble then .error (.invalidState "USB endpoint must use wired or receiver transport")
  else if isBlank currentPath then .error (.invalidState "USB endpoint requires a nonblank current HID path")
  else .ok {
    transport
    vendorId := some vendorId
    productId := some productId
    serialNumber := normalizeText serialNumber
    locator := .usbPath currentPath
    displayName := normalizeText displayName }

def ble (platformId : String) (displayName : Option String) : Except StateError DeviceEndpoint :=
  if isBlank platformId then .error (.invalidState "BLE platform device ID must not be blank")
  else .ok {
    transport := .ble
    vendorId := none
    productId := none
    serialNumber := none
    locator := .blePlatformId (trim platformId)
    displayName := normalizeText displayName }

/-- The locator is one the transport opens. -/
def isCoherent (endpoint : DeviceEndpoint) : Bool :=
  match endpoint.transport, endpoint.locator with
  | .wired, .usbPath _ | .receiver, .usbPath _ => endpoint.vendorId.isSome && endpoint.productId.isSome
  | .ble, .blePlatformId _ => true
  | _, _ => false

end DeviceEndpoint

/-! ## Identities -/

/-- **A logical mouse**: its key, the token of the unit it stands for, and where it was last seen. -/
structure DeviceIdentity where
  id : DeviceId
  displayName : Option String
  physicalId : Option PhysicalId
  endpoints : BTreeMap TransportKind DeviceEndpoint
  preferredTransport : Option TransportKind
deriving DecidableEq

namespace DeviceIdentity

def new (id : DeviceId) (displayName : Option String) : DeviceIdentity where
  id
  displayName := normalizeText displayName
  physicalId := none
  endpoints := ∅
  preferredTransport := none

def upsertEndpoint (identity : DeviceIdentity) (endpoint : DeviceEndpoint) : DeviceIdentity :=
  { identity with endpoints := identity.endpoints.insert endpoint.transport endpoint }

def endpoint (identity : DeviceIdentity) (transport : TransportKind) : Option DeviceEndpoint :=
  identity.endpoints[transport]?

/-- The endpoint an operation opens: the preferred one, else wired before receiver before BLE. -/
def selectedEndpoint (identity : DeviceIdentity) : Option DeviceEndpoint :=
  (identity.preferredTransport.bind identity.endpoint).or
    ([TransportKind.wired, .receiver, .ble].findSome? identity.endpoint)

def selectedTransport (identity : DeviceIdentity) : Option TransportKind :=
  identity.selectedEndpoint.map (·.transport)

/-- The check of one stored endpoint. -/
def validateEndpoint (id : DeviceId) (kind : TransportKind) (endpoint : DeviceEndpoint) : Except StateError Unit := do
  if kind ≠ endpoint.transport then
    throw (.invalidState
      s!"endpoint key {kind.debug} does not match endpoint transport {endpoint.transport.debug} for device {id}")
  if !endpoint.isCoherent then
    throw (.invalidState s!"endpoint transport/locator mismatch for device {id} transport {kind.debug}")
  match endpoint.locator with
  | .usbPath path =>
    if isBlank path then throw (.invalidState s!"USB locator for device {id} transport {kind.debug} is blank")
  | .blePlatformId platformId =>
    if isBlank platformId then throw (.invalidState s!"BLE locator for device {id} is blank")
  if endpoint.serialNumber.any isBlank then
    throw (.invalidState s!"serial for device {id} transport {kind.debug} is blank")

def validate (identity : DeviceIdentity) : Except StateError Unit :=
  identity.endpoints.toList.forM fun entry => validateEndpoint identity.id entry.1 entry.2

end DeviceIdentity

/-- Which transports a discovery lists. -/
inductive TransportSelection where
  | auto
  | exact (transport : TransportKind)
deriving DecidableEq

end AttackSharkX3
