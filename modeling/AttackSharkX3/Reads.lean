import AttackSharkX3.Capture
import AttackSharkX3.Open
/-!
# Reads — what is read of a mouse, and its profile numbers

A read over USB is recorded as a fresh observation of what was read.  Reading every profile writes the profile numbers on
its way, and puts them back.
-/
namespace AttackSharkX3

open Effects (Fallible)

/-- Fresh observations recorded, and the mouse's record with them. -/
def recordReads (device : DeviceId) (metadata : Option ProfileMetadata) (profiles : List (ProfileId × ProfileReads)) :
    Manager DeviceState := do
  let now ← Manager.now
  Manager.commit (.reconcile device metadata profiles now)

/-- The battery of a session that has one. -/
def readBatteryIfAny (session : Session) : Manager (Option UInt8) := do
  match ← Manager.attempt session.readBattery with
  | .ok level => return some level
  | .error (.unsupportedOperation ..) => return none
  | .error e => throw e

/-- What a profile read found of each section. -/
def ProfileSnapshot.reads (snapshot : ProfileSnapshot) : ProfileReads where
  dpi := some snapshot.dpi
  preferences := some snapshot.preferences
  buttons := some snapshot.buttons

/-- One complete read of the profile in use, or of another. -/
structure LiveProfileSnapshot where
  identity : DeviceIdentity
  battery : Option UInt8
  profileMetadata : ProfileMetadata
  profile : ProfileSnapshot
  pollingRate : PollingRate

structure DeviceStatus where
  identity : DeviceIdentity
  battery : Option UInt8
  profileMetadata : Option (ResourceState ProfileMetadata)
  pollingRate : Option (ResourceState PollingRate)

/-- The sections of a profile, as a refresh names them. -/
inductive ProfileResourceKind where
  | dpi
  | preferences
  | buttons
  | pollingRate
deriving DecidableEq

structure FullProfileRefreshOutcome where
  originalMetadata : ProfileMetadata
  restoredMetadata : ProfileMetadata
  temporarilyExpanded : Bool
  profiles : BTreeMap ProfileId RefreshedProfile
  drift : BTreeMap ProfileId (List ProfileResourceKind)
  profileMetadataDrift : Bool

/-- A fresh observation does not confirm the desired value. -/
def ResourceState.drifted {T : Type} (resource : ResourceState T) : Bool :=
  resource.desired.any (·.verification.application = .mismatch)

/-- The sections a fresh observation does not confirm. -/
def ProfileState.drift (profile : ProfileState) : List ProfileResourceKind :=
  (if profile.dpi.drifted then [.dpi] else []) ++ (if profile.preferences.drifted then [.preferences] else []) ++
    (if profile.buttons.drifted then [.buttons] else []) ++ if profile.pollingRate.drifted then [.pollingRate] else []

def RefreshedProfile.reads (refreshed : RefreshedProfile) : ProfileReads :=
  ⟨some refreshed.dpi, some refreshed.preferences, some refreshed.buttons, some refreshed.pollingRate⟩

/-- The profiles of a refresh whose sections drifted. -/
def refreshDrift (recorded : DeviceState) (profiles : BTreeMap ProfileId RefreshedProfile) :
    BTreeMap ProfileId (List ProfileResourceKind) :=
  profiles.keys.foldl (fun drift profile =>
    match (recorded.profiles[profile]?.getD .empty).drift with
    | [] => drift
    | mismatches => drift.insert profile mismatches) ∅

variable [Crc32fast]

/-! ## Reads -/

def readBattery (device : DeviceId) : Manager UInt8 := do
  let (_, session) ← openLocked device "read_battery"
  session.readBattery

/-- **Reads one profile's DPI image.** -/
def readDpi (device : DeviceId) (profile : ProfileId) : Manager (ResourceState DpiState) := do
  let (_, session) ← openLocked device "read_dpi"
  Fallible.ensure (session.transport ≠ .ble) (.unsupportedOperation "read_dpi" session.transport)
  let value ← session.readDpi profile
  let recorded ← recordReads device none [(profile, { dpi := some value })]
  return (recorded.profiles[profile]?.getD .empty).dpi

/-- **Reads one profile's preferences.** -/
def readPreferences (device : DeviceId) (profile : ProfileId) : Manager (ResourceState PreferencesState) := do
  let (_, session) ← openLocked device "read_preferences"
  Fallible.ensure (session.transport ≠ .ble) (.unsupportedOperation "read_preferences" session.transport)
  let value ← session.readPreferences profile
  let recorded ← recordReads device none [(profile, { preferences := some value })]
  return (recorded.profiles[profile]?.getD .empty).preferences

/-- **Reads one profile's buttons**, which must name the profile. -/
def readButtons (device : DeviceId) (profile : ProfileId) : Manager (ResourceState ButtonsState) := do
  let (_, session) ← openLocked device "read_buttons"
  Fallible.ensure (session.transport ≠ .ble) (.unsupportedOperation "read_buttons" session.transport)
  let value ← session.readButtons profile
  Fallible.ensure (value.profile = profile) (.invalidUpdate
    s!"mouse-reported button settings target profile {value.profile.get} instead of requested profile {profile.get}")
  let recorded ← recordReads device none [(profile, { buttons := some value })]
  return (recorded.profiles[profile]?.getD .empty).buttons

/-- **Reads the live polling rate**, once the profile is loaded. -/
def readPollingRate (device : DeviceId) (profile : ProfileId) : Manager (ResourceState PollingRate) := do
  let (_, session) ← openLocked device "read_polling_rate"
  Fallible.ensure (session.transport ≠ .ble) (.unsupportedOperation "read_live_polling_rate" session.transport)
  let _ ← session.readProfile profile
  let value ← session.readLivePollingRate profile
  let recorded ← recordReads device none [(profile, { pollingRate := some value })]
  return (recorded.profiles[profile]?.getD .empty).pollingRate

/-- **Reads one profile.** -/
def readProfile (device : DeviceId) (profile : ProfileId) : Manager ProfileSnapshot := do
  let (_, session) ← openLocked device "read_profile"
  let snapshot ← session.readProfile profile
  if isUsbTransport session.transport then
    let _ ← recordReads device none [(profile, snapshot.reads)]
  return snapshot

/-- **Reads the profile in use**, or an enabled one that is asked for, with the battery and the live rate. -/
def readLiveProfile (device : DeviceId) (requested : Option ProfileId) : Manager LiveProfileSnapshot := do
  let (identity, session) ← openLocked device "read_live_profile"
  Fallible.ensure (isUsbTransport session.transport) (.unsupportedOperation "read-live-profile" session.transport)
  let battery ← if session.transport = .receiver then readBatteryIfAny session else pure none
  let profileMetadata ← session.readProfileMetadata
  let target := (requested.filter (·.get ≤ profileMetadata.maximum.get)).getD profileMetadata.current
  let profile ← session.readProfile target
  let pollingRate ← session.readLivePollingRate target
  let _ ← recordReads device (some profileMetadata) [(target, { profile.reads with pollingRate := some pollingRate })]
  return { identity, battery, profileMetadata, profile, pollingRate }

/-- The live rate under the current profile, where the mouse can be asked. -/
def readStatusRate (device : DeviceId) (session : Session) (profile : ProfileId) :
    Manager (Option (ResourceState PollingRate)) := do
  match ← Manager.attempt (session.readProfile profile) with
  | .ok _ =>
    match ← Manager.attempt (session.readLivePollingRate profile) with
    | .ok rate => do
      let recorded ← recordReads device none [(profile, { pollingRate := some rate })]
      return some (recorded.profiles[profile]?.getD .empty).pollingRate
    | .error (.unsupportedOperation ..) => return none
    | .error e => throw e
  | .error (.unsupportedOperation ..) => return none
  | .error e => throw e

/-- The profile numbers, recorded where they were read over USB. -/
def readStatusMetadata (device : DeviceId) (session : Session) : Manager (Option (ResourceState ProfileMetadata)) := do
  match ← Manager.attempt session.readProfileMetadata with
  | .ok metadata =>
    if isUsbTransport session.transport then
      let recorded ← recordReads device (some metadata) []
      return some recorded.profileMetadata
    else return none
  | .error (.unsupportedOperation ..) => return none
  | .error e => throw e

/-- **Reads the status of a mouse.** -/
def readStatus (device : DeviceId) : Manager DeviceStatus := do
  let (identity, session) ← openLocked device "read_status"
  let battery ← if session.transport = .wired then pure none else readBatteryIfAny session
  let profileMetadata ← readStatusMetadata device session
  let current := profileMetadata.bind fun resource => resource.observed.map (·.value.current)
  let pollingRate ← match current, isUsbTransport session.transport with
    | some profile, true => readStatusRate device session profile
    | _, _ => pure none
  return { identity, battery, profileMetadata, pollingRate }

/-- **Reads every profile.** -/
def refreshAllProfiles (device : DeviceId) : Manager FullProfileRefreshOutcome := do
  let (_, session) ← openLocked device "refresh_all_profiles"
  Fallible.ensure (session.transport ≠ .ble) (.unsupportedOperation "refresh-all-profiles" session.transport)
  let capture ← captureAllProfiles session
  let recorded ← recordReads device (some capture.restoredMetadata)
    (capture.profiles.toList.map fun entry => (entry.1, entry.2.reads))
  return {
    originalMetadata := capture.originalMetadata
    restoredMetadata := capture.restoredMetadata
    temporarilyExpanded := capture.temporarilyExpanded
    profiles := capture.profiles
    drift := refreshDrift recorded capture.profiles
    profileMetadataDrift := recorded.profileMetadata.drifted }

/-! ## Profile numbers -/

omit [Crc32fast] in
/-- The profile numbers of a request; numbers out of order are the driver's error. -/
def requestedMetadata (current maximum : ProfileId) : Manager ProfileMetadata :=
  Fallible.ofExcept (fun _ => .driver
    s!"invalid profile metadata: expected 1 <= current <= maximum <= {ProfileId.MAX_ID.get}, got {current.get}/{maximum.get}")
    (ProfileMetadata.new current maximum)

omit [Crc32fast] in
/-- Writes profile numbers and records what the mouse answered, before a difference is an error. -/
def writeProfileMetadataWithSession (device : DeviceId) (session : Session) (target : ProfileMetadata) :
    Manager ProfileMetadata := do
  let usb := isUsbTransport session.transport
  let write ← session.writeProfileMetadata target
  let (actual, observed) := match write with
    | .readbackVerified actual => (actual, if usb then some actual else none)
    | .acknowledged => (target, none)
  let now ← Manager.now
  let _ ← Manager.commit (.persistMetadata device target observed now)
  Fallible.ensure (¬ (usb = true ∧ actual ≠ target)) (.verificationMismatch "profile metadata" (some target.current))
  return actual

/-- **Makes a profile current.** -/
def activateProfile (device : DeviceId) (profile : ProfileId) : Manager ProfileMetadata := do
  let (_, session) ← openLocked device "activate_profile"
  let maximum ← if isUsbTransport session.transport then do
      let metadata ← session.readProfileMetadata
      pure (if metadata.maximum.get ≤ profile.get then profile else metadata.maximum)
    else pure .MAX_ID
  let target ← requestedMetadata profile maximum
  writeProfileMetadataWithSession device session target

def setProfileMetadata (device : DeviceId) (current maximum : ProfileId) : Manager ProfileMetadata := do
  let (_, session) ← openLocked device "set_profile_metadata"
  let target ← requestedMetadata current maximum
  writeProfileMetadataWithSession device session target

end AttackSharkX3
