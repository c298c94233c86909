import AttackSharkX3.Discover
/-!
# Worker — what a frontend does with a scan

After every scan the worker goes over the connections that stayed unknown.  It attaches those the resolver attaches without
asking, and asks about the others.  Each question reads the store anew.
-/
namespace AttackSharkX3

open Effects (Fallible)

/-! ## Questions -/

def transportLabel : TransportKind → String
  | .wired => "usb wired"
  | .receiver => "2.4g receiver"
  | .ble => "ble"

inductive PendingKind where
  | which
  | newOrMine
deriving DecidableEq

structure PendingCandidate where
  identity : String
  displayName : Option String
  lastTransport : Option String
  lastSeenUnixSeconds : Option Int
deriving DecidableEq

/-- One unknown connection the user is asked about. -/
structure PendingEndpoint where
  endpointLabel : String
  transportLabel : String
  candidates : List PendingCandidate
  kind : PendingKind
  presentedToken : Option PhysicalId
deriving DecidableEq

structure AutoAttachNotice where
  keepStored : Bool
deriving DecidableEq

def pendingEndpointLabel (endpoint : DeviceEndpoint) : String :=
  match endpoint.transport with
  | .ble => endpoint.displayName.getD "bluetooth mouse"
  | .wired | .receiver =>
    let product := (endpoint.productId.map fun pid => hex4 pid.toNat).getD "mouse"
    s!"usb mouse {product}"

def pendingCandidate (candidate : Candidate) : PendingCandidate where
  identity := candidate.identity.asStr
  displayName := candidate.displayName
  lastTransport := candidate.lastTransport.map transportLabel
  lastSeenUnixSeconds := candidate.lastSeenUnixSeconds

/-- The question about a row. -/
def ask (row : ResolvedConnection) (candidates : List Candidate) (kind : PendingKind) : DeviceEndpoint × PendingEndpoint :=
  (row.endpoint, {
    endpointLabel := pendingEndpointLabel row.endpoint
    transportLabel := transportLabel row.endpoint.transport
    candidates := candidates.map pendingCandidate
    kind
    presentedToken := presentedToken row })

/-! ## What the worker asks the manager -/

/-- The saved mouse the endpoint is remembered for, if the store can be read. -/
def rememberedDeviceFor (endpoint : DeviceEndpoint) : Manager (Option DeviceId) := do
  let state ← Manager.attempt Manager.load
  return state.toOption.bind (rememberedDeviceIn · endpoint)

def isEndpointRemembered (endpoint : DeviceEndpoint) : Manager Bool := do
  let remembered ← rememberedDeviceFor endpoint
  return remembered.isSome

def devicePhysicalId (device : DeviceId) : Manager (Option PhysicalId) := do
  let state ← Manager.attempt Manager.load
  return state.toOption.bind (physicalIdOf · device)

/-- Whether the mouse has stored settings. -/
def hasEvidence (device : DeviceId) : Manager Bool := do
  let state ← Manager.attempt Manager.load
  return (state.toOption.bind (·.devices[device]?)).any deviceHasEvidence

/-- The candidates of the saved mice, each looked up again for its settings. -/
def candidatesOf (state : StateFile) : List (DeviceId × DeviceState) → Manager (List Candidate)
  | [] => pure []
  | (id, device) :: rest => do
    let hasStoredState ← hasEvidence id
    let more ← candidatesOf state rest
    return {
      identity := id
      displayName := device.identity.displayName
      lastTransport := device.identity.selectedTransport
      lastSeenUnixSeconds := state.endpointMapping.lastSeenUnixSeconds.values.max?
      hasStoredState } :: more

/-- The saved mice in the order of their keys; none, if the store cannot be read. -/
def savedCandidates : Manager (List Candidate) := do
  let state ← Manager.attempt Manager.load
  let state := state.toOption.getD StateFile.default
  candidatesOf state state.devices.toList

/-! ## The connections of a scan -/

/-- How many connected connections are unknown. -/
def simultaneousUnknowns (connections : List ResolvedConnection) : Nat := (unknownRows connections).length

/-- The endpoint is remembered for a mouse that the presented token, if any, does not contradict. -/
def fingerprintKnown (row : ResolvedConnection) : Manager Bool := do
  if ← isEndpointRemembered row.endpoint then
    match presentedToken row with
    | none => return true
    | some token =>
      match ← rememberedDeviceFor row.endpoint with
      | none => return true
      | some id =>
        let owned ← devicePhysicalId id
        return owned.all (· = token)
  else return false

/-- What became of the connections: those attached without asking, and the questions. -/
structure ScanResolution where
  silent : List AutoAttachNotice
  pending : List (DeviceEndpoint × PendingEndpoint)
deriving DecidableEq

namespace ScanResolution

def nothing : ScanResolution := ⟨[], []⟩
def asks (question : DeviceEndpoint × PendingEndpoint) : ScanResolution := ⟨[], [question]⟩

instance : Append ScanResolution := ⟨fun a b => ⟨a.silent ++ b.silent, a.pending ++ b.pending⟩⟩

end ScanResolution

/-- **What is done about one unknown row.**  A foreign token is never attached by counting candidates. -/
def resolveUnknown (candidates : List Candidate) (stored : Bool) (count : Nat) (row : ResolvedConnection) :
    Manager ScanResolution := do
  let known ← fingerprintKnown row
  let foreignToken := (presentedToken row).isSome && !known
  match resolveEndpoint known count row.endpoint.transport candidates stored with
  | .silentAttach attachTo keepStoredSettings =>
    if foreignToken then
      return if candidates.isEmpty then .nothing else .asks (ask row candidates .which)
    else
      let attached ← Manager.attempt (rememberResolution row.endpoint attachTo)
      return if attached.toOption.isSome then ⟨[⟨keepStoredSettings⟩], []⟩ else .nothing
  | .askWhich list => return .asks (ask row list .which)
  | .askNewOrMine candidate => return .asks (ask row [candidate] .newOrMine)
  | .setupFirst => return .nothing

def resolveRows (candidates : List Candidate) (stored : Bool) (count : Nat) :
    List ResolvedConnection → Manager ScanResolution
  | [] => pure .nothing
  | row :: rows => do
    let first ← resolveUnknown candidates stored count row
    let rest ← resolveRows candidates stored count rows
    return first ++ rest

/-- **The connections of a scan resolved**, or asked about. -/
def resolveScan (connections : List ResolvedConnection) : Manager ScanResolution := do
  let candidates ← savedCandidates
  resolveRows candidates (candidates.any (·.hasStoredState)) (simultaneousUnknowns connections) (unknownRows connections)

end AttackSharkX3
