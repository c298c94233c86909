import AttackSharkX3.Open
/-!
# Verify — persistence checked by reading a profile again

A profile is read, left and loaded again, or read before and after a power cycle.  Equal images are recorded with the
persistence they prove.  A wait polls until the mouse is gone or back; `patience` counts the polls before its time is up.
-/
namespace AttackSharkX3

open Effects (Fallible)

/-- `{:?}` of thirty seconds. -/
def POWER_CYCLE_TIMEOUT : String := "30s"

/-- What a verification proved of each section of a profile. -/
structure ProfileVerificationOutcome where
  profile : ProfileId
  dpi : WriteOutcome DpiState
  preferences : WriteOutcome PreferencesState
  buttons : WriteOutcome ButtonsState
  pollingRate : WriteOutcome PollingRate
deriving DecidableEq

abbrev PowerCycleVerificationOutcome := ProfileVerificationOutcome

/-! ## Images -/

/-- The whole profile, and at once the live rate. -/
def readCompleteProfile (session : Session) (target : ProfileId) : Manager (ProfileSnapshot × PollingRate) := do
  let snapshot ← session.readProfile target
  let rate ← session.readLivePollingRate target
  return (snapshot, rate)

/-- The first section in which two images differ. -/
def firstMismatch (initial : ProfileSnapshot) (initialRate : PollingRate) (reloaded : ProfileSnapshot)
    (reloadedRate : PollingRate) : Option String :=
  if initial.persistentMetadata.maximum ≠ reloaded.persistentMetadata.maximum then some "profile metadata"
  else if initial.dpi ≠ reloaded.dpi then some "dpi"
  else if initial.preferences ≠ reloaded.preferences then some "preferences"
  else if initial.buttons ≠ reloaded.buttons then some "buttons"
  else if initialRate ≠ reloadedRate then some "polling rate"
  else none

/-- A section read twice, and what that proves. -/
def verifiedOutcome {T : Type} (initial reloaded : T) (persistence : PersistenceVerification) : WriteOutcome T :=
  ⟨initial, some reloaded, ⟨.readbackVerified, persistence⟩⟩

/-- **The end of a verification**: the second image is recorded, with a claim when it is the first again. -/
def finishVerification (device : DeviceId) (target : ProfileId) (initial reloaded : ProfileSnapshot × PollingRate)
    (claim : Timestamp → PersistenceVerification) : Manager ProfileVerificationOutcome := do
  let mismatch := firstMismatch initial.1 initial.2 reloaded.1 reloaded.2
  let verifiedAt ← Manager.now
  let persistence := if mismatch.isNone then some (claim verifiedAt) else none
  let _ ← Manager.commit (.persistObservation device target reloaded.1 reloaded.2 persistence verifiedAt)
  match mismatch with
  | some resource => throw (.verificationMismatch resource (some target))
  | none => return {
    profile := target
    dpi := verifiedOutcome initial.1.dpi reloaded.1.dpi (claim verifiedAt)
    preferences := verifiedOutcome initial.1.preferences reloaded.1.preferences (claim verifiedAt)
    buttons := verifiedOutcome initial.1.buttons reloaded.1.buttons (claim verifiedAt)
    pollingRate := verifiedOutcome initial.2 reloaded.2 (claim verifiedAt) }

/-! ## Profile reload -/

/-- Another enabled profile: the current one, unless it is the target. -/
def alternateProfile (original : ProfileMetadata) (target : ProfileId) : Option ProfileId :=
  if original.current ≠ target then some original.current
  else (ProfileId.upTo original.maximum).find? (· ≠ target)

/-- Leaves for another profile; where that fails the original metadata is put back first. -/
def switchAway (session : Session) (away original : ProfileMetadata) : Manager Unit := do
  match ← Manager.attempt (writeExactMetadata session away) with
  | .ok _ => return ()
  | .error e => do
    let _ ← writeExactMetadata session original
    throw e

/-- Makes the target current and reads it. -/
def reloadProfile (session : Session) (target : ProfileId) (metadata : ProfileMetadata) :
    Manager (ProfileSnapshot × PollingRate) := do
  let _ ← writeExactMetadata session metadata
  readCompleteProfile session target

variable [Crc32fast]

/-- **Verifies that a profile survives being loaded again.**  The original metadata is back before anything is answered,
and an error of putting it back comes first. -/
def verifyProfileReload (device : DeviceId) (target : ProfileId) : Manager ProfileVerificationOutcome := do
  let (_, session) ← openLocked device "verify_profile_reload"
  Fallible.ensure (session.transport ≠ .ble) (.unsupportedOperation "profile-reload-verification" session.transport)
  let original ← session.readProfileMetadata
  Fallible.ensure (target.get ≤ original.maximum.get) (.noAlternateProfile target original.maximum)
  let away ← Fallible.ofOption (.noAlternateProfile target original.maximum) (alternateProfile original target)
  let initial ← readCompleteProfile session target
  let awayMetadata ← newMetadata away original.maximum
  switchAway session awayMetadata original
  let targetMetadata ← newMetadata target original.maximum
  let reloadedResult ← Manager.attempt (reloadProfile session target targetMetadata)
  let _ ← writeExactMetadata session original
  let reloaded ← Fallible.ofExcept id reloadedResult
  finishVerification device target initial reloaded .profileReloadVerified

/-! ## Power cycle -/

omit [Crc32fast] in
/-- The mouse is still listed where it was. -/
def stillPresent (transport : TransportKind) (oldEndpoint : DeviceEndpoint) : Manager Bool := do
  let discovered ← Manager.list (.exact transport)
  return discovered.any fun candidate => candidate.connected && candidate.endpoint.locator = oldEndpoint.locator

def waitForDisappearance (device : DeviceId) (transport : TransportKind) (oldEndpoint : DeviceEndpoint) :
    (patience : Nat) → Manager Unit
  | 0 => do
    let present ← stillPresent transport oldEndpoint
    Fallible.ensure (present = false) (.powerCycleDisappearanceTimeout device POWER_CYCLE_TIMEOUT)
  | patience + 1 => do
    let present ← stillPresent transport oldEndpoint
    if present then waitForDisappearance device transport oldEndpoint patience else return ()

/-- `Ord` of a locator: paths before platform identifiers, each by its text. -/
def DeviceLocator.le : DeviceLocator → DeviceLocator → Bool
  | usbPath a, usbPath b => a ≤ b
  | usbPath _, blePlatformId _ => true
  | blePlatformId _, usbPath _ => false
  | blePlatformId a, blePlatformId b => a ≤ b

/-- The rest of a list after `last`, an entry at the locator of the one before it dropped. -/
def dedupAfter (last : DeviceEndpoint) : List DeviceEndpoint → List DeviceEndpoint
  | [] => []
  | endpoint :: rest =>
    if endpoint.locator = last.locator then dedupAfter last rest else endpoint :: dedupAfter endpoint rest

/-- Endpoints by locator, one for each. -/
def sortedByLocator (endpoints : List DeviceEndpoint) : List DeviceEndpoint :=
  match endpoints.mergeSort fun a b => a.locator.le b.locator with
  | [] => []
  | first :: rest => first :: dedupAfter first rest

def legacyRebindCandidates (discovered : List DiscoveredEndpoint) (transport : TransportKind) (stored : DeviceEndpoint) :
    List DeviceEndpoint :=
  sortedByLocator ((discovered.filter fun candidate => candidate.connected && candidate.endpoint.transport = transport &&
    candidate.endpoint.vendorId = stored.vendorId && candidate.endpoint.productId = stored.productId).map (·.endpoint))

/-- The watermark of a candidate; one that cannot be opened or read is none. -/
def candidateWatermark (endpoint : DeviceEndpoint) : Manager (Option WatermarkDecode) := do
  match ← Manager.attempt (Manager.open_ endpoint) with
  | .error _ => return none
  | .ok session =>
    match ← Manager.attempt (currentWatermark session) with
    | .ok (_, decode) => return some decode
    | .error (.unsupportedOperation ..) => return some .absent
    | .error _ => return none

/-- The connected candidates that carry the token. -/
def authenticatedCandidates (token : PhysicalId) : List DiscoveredEndpoint → Manager (List DeviceEndpoint)
  | [] => return []
  | candidate :: rest =>
    if candidate.connected then do
      let decode ← candidateWatermark candidate.endpoint
      let carriers ← authenticatedCandidates token rest
      return if decode = some (.valid token) then candidate.endpoint :: carriers else carriers
    else authenticatedCandidates token rest

/-- The one candidate that carries the token. -/
def authenticatedCandidate (discovered : List DiscoveredEndpoint) (token : PhysicalId) : Manager (Option DeviceEndpoint) := do
  let carriers ← authenticatedCandidates token discovered
  match sortedByLocator carriers with
  | [found] => return some found
  | _ => return none

omit [Crc32fast] in
/-- A mouse found at a new place, and the place stored. -/
def rebind (device : DeviceId) (found : DeviceEndpoint) : Manager (Option DeviceEndpoint) := do
  let _ ← Manager.commit (.updateLocator device found)
  return some found

/-- One poll for the mouse: by its token, or without one by its place or its model. -/
def reappeared (device : DeviceId) (transport : TransportKind) (oldEndpoint : DeviceEndpoint)
    (physicalId : Option PhysicalId) : Manager (Option DeviceEndpoint) := do
  let discovered ← Manager.list (.exact transport)
  match physicalId with
  | some token =>
    match ← authenticatedCandidate discovered token with
    | some found => rebind device found
    | none => return none
  | none =>
    match discovered.find? fun candidate => candidate.connected && candidate.endpoint.locator = oldEndpoint.locator with
    | some found => return some found.endpoint
    | none =>
      match legacyRebindCandidates discovered transport oldEndpoint with
      | [newEndpoint] => rebind device newEndpoint
      | _ => return none

def waitForReappearance (device : DeviceId) (transport : TransportKind) (oldEndpoint : DeviceEndpoint)
    (physicalId : Option PhysicalId) : (patience : Nat) → Manager DeviceEndpoint
  | 0 => do
    let found ← reappeared device transport oldEndpoint physicalId
    Fallible.ofOption (.powerCycleReappearanceTimeout device POWER_CYCLE_TIMEOUT) found
  | patience + 1 => do
    match ← reappeared device transport oldEndpoint physicalId with
    | some found => return found
    | none => waitForReappearance device transport oldEndpoint physicalId patience

/-- **Verifies that a profile survives a power cycle.**  The session and its lock are released while the mouse is away. -/
def verifyPowerCycle (device : DeviceId) (target : ProfileId) (patienceGone patienceBack : Nat) :
    Manager PowerCycleVerificationOutcome := do
  let (_, session) ← openLocked device "verify_power_cycle"
  Fallible.ensure (session.transport ≠ .ble) (.unsupportedOperation "power-cycle-verification" session.transport)
  let initial ← readCompleteProfile session target
  let state ← Manager.load
  let deviceState ← Fallible.ofOption (.deviceNotFound device) state.devices[device]?
  let oldEndpoint ← Fallible.ofOption (.deviceNotFound device) (deviceState.identity.endpoint session.transport)
  waitForDisappearance device session.transport oldEndpoint patienceGone
  let _ ← waitForReappearance device session.transport oldEndpoint deviceState.identity.physicalId patienceBack
  let (_, reopened) ← openLocked device "verify_power_cycle_reopen"
  Fallible.ensure (reopened.transport = session.transport) (.verificationMismatch "device identity" (some target))
  let reloaded ← readCompleteProfile reopened target
  finishVerification device target initial reloaded .powerCycleVerified

end AttackSharkX3
