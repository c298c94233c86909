import AttackSharkX3.Error
/-!
# Resolve — which logical mouse a connection belongs to

The pure half of discovery.  A token resolves to the one mouse that carries it.  A connection without a known token may
still be remembered, under the fingerprint of its endpoint, and a sole unknown connection may be offered to the saved
mice.
-/
namespace AttackSharkX3

/-! ## Tokens -/

/-- The all-zero token belongs to no mouse. -/
def isReservedToken (token : PhysicalId) : Bool := token.token.toList = List.replicate 16 0

/-- A subject of the running ceremony is to carry the token, or gives it up. -/
def journalReservesToken (journal : IdentitySetupJournal) (token : PhysicalId) : Bool :=
  journal.subjects.any fun subject => subject.token = some token || subject.oldToken = some token

/-- The devices whose physical id is the token, in key order. -/
def tokenOwners (devices : BTreeMap DeviceId DeviceState) (token : PhysicalId) : List DeviceId :=
  (devices.values.filter fun device => device.identity.physicalId = some token).map (·.identity.id)

/-- **A valid token's resolution**: its one owner, if nothing reserves it. -/
def resolveValidToken (devices : BTreeMap DeviceId DeviceState) (journal : Option IdentitySetupJournal)
    (token : PhysicalId) : IdentityResolution :=
  if isReservedToken token then .unassociated .reserved (some token)
  else if journal.any (journalReservesToken · token) then .unassociated .reservedByJournal (some token)
  else match tokenOwners devices token with
    | [] => .unassociated .unknown (some token)
    | [id] => .resolved id
    | _ => .unassociated .duplicate (some token)

/-- **One connection's resolution.**  Legacy mode resolves everything to its one mouse; BLE reads no token and goes by
the associated platform id. -/
def resolveConnection (devices : BTreeMap DeviceId DeviceState) (journal : Option IdentitySetupJournal)
    (legacyId : Option DeviceId) (endpoint : DeviceEndpoint) (decode : Option WatermarkDecode) : IdentityResolution :=
  match legacyId with
  | some legacyId => .resolved legacyId
  | none =>
    match endpoint.transport with
    | .ble =>
      match devices.values.find? fun device =>
          (device.identity.endpoint .ble).any (·.locator = endpoint.locator) with
      | some device => .resolved device.identity.id
      | none => .unassociated .absent none
    | .wired | .receiver =>
      match decode with
      | some (.valid token) => resolveValidToken devices journal token
      | some .absent | none => .unassociated .absent none
      | some .malformed => .unassociated .malformed none
      | some (.unsupportedVersion version) => .unassociated (.unsupported version) none

/-- How many connections of the transport present the token as unknown. -/
def unknownCount (rows : List ResolvedConnection) (transport : TransportKind) (token : PhysicalId) : Nat :=
  rows.countP fun row => row.resolution = .unassociated .unknown (some token) ∧ row.endpoint.transport = transport

/-- **Unknown tokens seen twice on one transport are duplicates.** -/
def markScanDuplicates (rows : List ResolvedConnection) : List ResolvedConnection :=
  rows.map fun row =>
    match row.resolution with
    | .unassociated .unknown (some token) =>
      if 1 < unknownCount rows row.endpoint.transport token then
        { row with resolution := .unassociated .duplicate (some token) }
      else row
    | _ => row

/-! ## Remembered endpoints -/

/-- `{:04x}`. -/
def hex4 (n : Nat) : String :=
  String.ofList (List.replicate (4 - (Nat.toDigits 16 n).length) '0' ++ Nat.toDigits 16 n)

/-- The text of a locator. -/
def DeviceLocator.text : DeviceLocator → String
  | usbPath path => path
  | blePlatformId id => id

/-- The tag of a simulated endpoint's locator, `sim:{tag}:…`. -/
def simTagForEndpoint (endpoint : DeviceEndpoint) : Option String :=
  let locator := endpoint.locator.text.toList
  if locator.take 4 ≠ "sim:".toList then none
  else
    let tag := (locator.drop 4).takeWhile (· ≠ ':')
    if tag.isEmpty then none else some (String.ofList tag)

/-- **What identifies an endpoint across replugs.**  USB goes by vendor, product and serial, so units of one model
without serials share a fingerprint. -/
def endpointFingerprint (endpoint : DeviceEndpoint) : String :=
  match simTagForEndpoint endpoint with
  | some tag => s!"sim:{tag}:{endpoint.locator.text}"
  | none =>
    let vid := (endpoint.vendorId.getD 0).toNat
    let pid := (endpoint.productId.getD 0).toNat
    let serial := endpoint.serialNumber.getD ""
    match endpoint.transport with
    | .ble => s!"ble:{endpoint.locator.text}"
    | .wired => s!"usb:wired:{hex4 vid}:{hex4 pid}:{serial}"
    | .receiver => s!"usb:receiver:{hex4 vid}:{hex4 pid}:{serial}"

/-- The saved mouse the endpoint is remembered for. -/
def rememberedDeviceIn (state : StateFile) (endpoint : DeviceEndpoint) : Option DeviceId :=
  (state.endpointMapping.endpoints[endpointFingerprint endpoint]?).filter state.devices.contains

/-- The presented token, if any, is not one the remembered mouse contradicts. -/
def rememberedMappingAgrees (state : StateFile) (endpoint : DeviceEndpoint) (presented : Option PhysicalId) : Bool :=
  match presented with
  | none => true
  | some token => (rememberedDeviceIn state endpoint).all fun remembered =>
      (state.devices[remembered]?.bind (·.identity.physicalId)).all (· = token)

/-- The token of an unknown connection. -/
def presentedToken (row : ResolvedConnection) : Option PhysicalId :=
  match row.resolution with
  | .unassociated .unknown (some token) => some token
  | _ => none

/-- The state with the endpoint remembered for the mouse. -/
def rememberEndpointMapping (state : StateFile) (endpoint : DeviceEndpoint) (device : DeviceId) (now : Timestamp) :
    StateFile :=
  let fingerprint := endpointFingerprint endpoint
  { state with endpointMapping := {
      endpoints := state.endpointMapping.endpoints.insert fingerprint device
      lastSeenUnixSeconds := state.endpointMapping.lastSeenUnixSeconds.insert fingerprint now.unixSeconds } }

/-! ## Unknown connections -/

def ResourceState.hasEvidence {T : Type} (resource : ResourceState T) : Bool :=
  resource.desired.isSome || resource.observed.isSome

/-- Some configuration of the mouse is on record. -/
def deviceHasEvidence (state : DeviceState) : Bool :=
  state.profileMetadata.hasEvidence || state.profiles.values.any fun profile =>
    profile.dpi.hasEvidence || profile.preferences.hasEvidence || profile.buttons.hasEvidence ||
      profile.pollingRate.hasEvidence

/-- The saved mice, in key order. -/
def resolutionCandidates (state : StateFile) : List Candidate :=
  state.devices.toList.map fun (id, device) => {
    identity := id
    displayName := device.identity.displayName
    lastTransport := device.identity.selectedTransport
    lastSeenUnixSeconds := state.endpointMapping.lastSeenUnixSeconds.values.max?
    hasStoredState := deviceHasEvidence device }

/-- Unassociated for want of a token, or of an owner of it. -/
def IdentityResolution.isUnknown : IdentityResolution → Bool
  | .unassociated .absent _ | .unassociated .unknown _ => true
  | _ => false

/-- The connected unknown rows. -/
def unknownRows (rows : List ResolvedConnection) : List ResolvedConnection :=
  rows.filter fun row => row.connected && row.resolution.isUnknown

/-- The mouse an unknown row is attached to without asking. -/
def silentAttachment (state : StateFile) (unknowns : Nat) (row : ResolvedConnection) : Option DeviceId :=
  let remembered := (rememberedDeviceIn state row.endpoint).filter fun _ =>
    rememberedMappingAgrees state row.endpoint (presentedToken row)
  match remembered with
  | some remembered => some remembered
  | none =>
    let candidates := resolutionCandidates state
    match resolveEndpoint false unknowns row.endpoint.transport candidates (candidates.any (·.hasStoredState)) with
    | .silentAttach attachTo _ => some attachTo
    | .setupFirst | .askWhich _ | .askNewOrMine _ => none

/-- **The attachments a scan makes without asking**, unless a ceremony runs or several connections are unknown. -/
def silentAttachments (state : StateFile) (rows : List ResolvedConnection) : List (DeviceEndpoint × DeviceId) :=
  let unknowns := (unknownRows rows).length
  if state.identitySetup.isSome || 2 ≤ unknowns then []
  else (unknownRows rows).filterMap fun row => (silentAttachment state unknowns row).map (row.endpoint, ·)

/-- The rows once the attachments are stored: an unknown row the mapping now knows is resolved. -/
def reresolve (state : StateFile) (rows : List ResolvedConnection) : List ResolvedConnection :=
  rows.map fun row =>
    if row.resolution.isUnknown && rememberedMappingAgrees state row.endpoint (presentedToken row) then
      match rememberedDeviceIn state row.endpoint with
      | some remembered => { row with resolution := .resolved remembered }
      | none => row
    else row

/-! ## Associations -/

def TransportSelection.scanTransports : TransportSelection → List TransportKind
  | .auto => [.wired, .receiver, .ble]
  | .exact transport => [transport]

/-- The endpoints of the rows resolved to the mouse. -/
def rowsOf (rows : List ResolvedConnection) (device : DeviceId) : List DeviceEndpoint :=
  (rows.filter fun row => row.resolution = .resolved device).map (·.endpoint)

/-- A mouse's endpoints after a scan: BLE and unscanned transports stay, scanned ones are what was seen. -/
def syncedEndpoints (old : BTreeMap TransportKind DeviceEndpoint) (scanned : List TransportKind)
    (seen : List DeviceEndpoint) : BTreeMap TransportKind DeviceEndpoint :=
  seen.foldl (fun endpoints endpoint => endpoints.insert endpoint.transport endpoint)
    (old.filter fun transport _ => transport = .ble || !scanned.contains transport)

/-- The rows of one mouse, aggregated. -/
def aggregateDiscoveredDevices (state : StateFile) (rows : List ResolvedConnection) : List DiscoveredDevice :=
  state.devices.toList.filterMap fun (id, device) =>
    let own := rows.filter fun row => row.resolution = .resolved id
    if own.isEmpty then none
    else some {
      identity := device.identity
      connected := own.any (·.connected)
      transports := [TransportKind.wired, .receiver, .ble].filter fun t => own.any (·.endpoint.transport = t) }

end AttackSharkX3
