import AttackSharkX3.Device
/-!
# State — the durable state of an installation

Every resource carries evidence: the value that was asked for, with what is known of its application, and the last value
read back.  A running ceremony is part of the state, as a journal of the mice it has captured and how far their profiles
are stamped, so that it resumes after an interruption.
-/
namespace AttackSharkX3

def SCHEMA_VERSION : Nat := 5
def MAX_PROFILE_NAME_CHARS : Nat := 64

/-! ## Evidence -/

structure Timestamp where
  unixSeconds : Int
deriving DecidableEq

inductive DesiredSource where
  | userWrite
  | imported
  | explicitDefaults
  | capturedBaseline
deriving DecidableEq

inductive ObservationSource where
  | usbReadback
deriving DecidableEq

inductive ApplicationVerification where
  | notSent
  | acknowledged
  | readbackVerified
  | mismatch
deriving DecidableEq

inductive PersistenceVerification where
  | unknown
  | profileReloadVerified (verifiedAt : Timestamp)
  | powerCycleVerified (verifiedAt : Timestamp)
deriving DecidableEq

/-- When a persistence claim was verified. -/
def PersistenceVerification.verifiedAt : PersistenceVerification → Option Timestamp
  | .unknown => none
  | .profileReloadVerified at_ | .powerCycleVerified at_ => some at_

structure Verification where
  application : ApplicationVerification
  persistence : PersistenceVerification
deriving DecidableEq

structure DesiredState (T : Type) where
  value : T
  source : DesiredSource
  verification : Verification
  updatedAt : Timestamp
deriving DecidableEq

structure ObservedState (T : Type) where
  value : T
  source : ObservationSource
  observedAt : Timestamp
deriving DecidableEq

/-- **What is known of one resource.** -/
structure ResourceState (T : Type) where
  desired : Option (DesiredState T)
  observed : Option (ObservedState T)
deriving DecidableEq

namespace ResourceState

variable {T : Type}

def empty : ResourceState T := ⟨none, none⟩

/-- An acknowledged write: the observation stays, as history. -/
def recordAckWrite (_resource : ResourceState T) (value : T) (source : DesiredSource) (now : Timestamp) :
    ResourceState T :=
  { _resource with desired := some ⟨value, source, ⟨.acknowledged, .unknown⟩, now⟩ }

/-- A write that was read back at once. -/
def recordReadbackWrite [DecidableEq T] (_resource : ResourceState T) (desiredValue observedValue : T)
    (source : DesiredSource) (now : Timestamp) : ResourceState T where
  desired := some ⟨desiredValue, source,
    ⟨if desiredValue = observedValue then .readbackVerified else .mismatch, .unknown⟩, now⟩
  observed := some ⟨observedValue, .usbReadback, now⟩

/-- A fresh observation: it confirms the desired value or contradicts it, and stands in for a missing one. -/
def reconcileObservation [DecidableEq T] (resource : ResourceState T) (value : T) (now : Timestamp) : ResourceState T where
  desired := some <| match resource.desired with
    | some desired =>
      let isMatch := desired.value = value ∧ desired.updatedAt.unixSeconds ≤ now.unixSeconds
      { desired with verification := ⟨if isMatch then .readbackVerified else .mismatch, .unknown⟩ }
    | none => ⟨value, .capturedBaseline, ⟨.readbackVerified, .unknown⟩, now⟩
  observed := some ⟨value, .usbReadback, now⟩

/-- An imported value, not sent to the mouse. -/
def setImported (resource : ResourceState T) (value : T) (now : Timestamp) : ResourceState T :=
  { resource with desired := some ⟨value, .imported, ⟨.notSent, .unknown⟩, now⟩ }

/-- The persistence claim dropped, the value and its application kept. -/
def invalidatePersistence (resource : ResourceState T) : ResourceState T :=
  { resource with desired := resource.desired.map fun desired =>
      { desired with verification := { desired.verification with persistence := .unknown } } }

/-- **A persistence claim on a current matching readback**, and whether it was made. -/
def tryMarkPersistence [DecidableEq T] (resource : ResourceState T) (persistence : PersistenceVerification) :
    ResourceState T × Bool :=
  match resource.desired, resource.observed with
  | some desired, some observed =>
    if desired.verification.application ≠ .readbackVerified then (resource, false)
    else if desired.value ≠ observed.value then (resource, false)
    else if observed.observedAt.unixSeconds < desired.updatedAt.unixSeconds then (resource, false)
    -- A verification does not predate the observation it certifies.
    else if ∃ at_ ∈ persistence.verifiedAt, at_.unixSeconds < observed.observedAt.unixSeconds then (resource, false)
    else ({ resource with
      desired := some { desired with verification := { desired.verification with persistence } } }, true)
  | _, _ => (resource, false)

def tryMarkProfileReloadVerified [DecidableEq T] (resource : ResourceState T) (verifiedAt : Timestamp) :
    ResourceState T × Bool :=
  resource.tryMarkPersistence (.profileReloadVerified verifiedAt)

def tryMarkPowerCycleVerified [DecidableEq T] (resource : ResourceState T) (verifiedAt : Timestamp) :
    ResourceState T × Bool :=
  resource.tryMarkPersistence (.powerCycleVerified verifiedAt)

/-- One resource marked; a mark that is refused drops the resource's claim. -/
def markAllOrInvalidate (resource : ResourceState T) (verifiedAt : Timestamp)
    (mark : ResourceState T → Timestamp → ResourceState T × Bool) : ResourceState T :=
  match mark resource verifiedAt with
  | (marked, true) => marked
  | (unmarked, false) => unmarked.invalidatePersistence

end ResourceState

/-! ## Devices -/

/-- The four sections of one profile. -/
structure ProfileState where
  dpi : ResourceState DpiState
  preferences : ResourceState PreferencesState
  buttons : ResourceState ButtonsState
  pollingRate : ResourceState PollingRate
deriving DecidableEq

def ProfileState.empty : ProfileState := ⟨.empty, .empty, .empty, .empty⟩

def ProfileState.tryMarkProfileReloadVerified (profile : ProfileState) (verifiedAt : Timestamp) : ProfileState where
  dpi := profile.dpi.markAllOrInvalidate verifiedAt ResourceState.tryMarkProfileReloadVerified
  preferences := profile.preferences.markAllOrInvalidate verifiedAt ResourceState.tryMarkProfileReloadVerified
  buttons := profile.buttons.markAllOrInvalidate verifiedAt ResourceState.tryMarkProfileReloadVerified
  pollingRate := profile.pollingRate.markAllOrInvalidate verifiedAt ResourceState.tryMarkProfileReloadVerified

def ProfileState.tryMarkPowerCycleVerified (profile : ProfileState) (verifiedAt : Timestamp) : ProfileState where
  dpi := profile.dpi.markAllOrInvalidate verifiedAt ResourceState.tryMarkPowerCycleVerified
  preferences := profile.preferences.markAllOrInvalidate verifiedAt ResourceState.tryMarkPowerCycleVerified
  buttons := profile.buttons.markAllOrInvalidate verifiedAt ResourceState.tryMarkPowerCycleVerified
  pollingRate := profile.pollingRate.markAllOrInvalidate verifiedAt ResourceState.tryMarkPowerCycleVerified

structure DeviceState where
  identity : DeviceIdentity
  profileMetadata : ResourceState ProfileMetadata
  profiles : BTreeMap ProfileId ProfileState
  profileNames : BTreeMap ProfileId String
deriving DecidableEq

def DeviceState.new (identity : DeviceIdentity) : DeviceState := ⟨identity, .empty, ∅, ∅⟩

/-! ## Ceremonies -/

/-- Whether mice are told apart. -/
inductive IdentityMode where
  | legacy
  | persistent
deriving DecidableEq

inductive IdentitySetupPhase where
  | initialEnrollment
  | addMouse
  | restore
  | foreignAdoption
  | bleAssociation
deriving DecidableEq

inductive IdentitySetupStage where
  | awaitingCapture
  | stamping
  | finalizing
deriving DecidableEq

inductive IdentityStampProgress where
  | pending
  | captured
  | stamped
deriving DecidableEq

/-- The sections read off a presented mouse. -/
structure CapturedProfileImage where
  profileMetadata : ResourceState ProfileMetadata
  profiles : BTreeMap ProfileId ProfileState
deriving DecidableEq

/-- **One mouse of a ceremony**: where it was presented, the token it is to carry, what was captured from it and which
of its profiles carry the token already. -/
structure IdentitySetupSubject where
  endpoint : DeviceEndpoint
  deviceId : Option DeviceId
  token : Option PhysicalId
  oldToken : Option PhysicalId
  captured : Option CapturedProfileImage
  stampProgress : BTreeMap ProfileId IdentityStampProgress
deriving DecidableEq

namespace IdentitySetupSubject

/-- Every captured profile, and no other, is stamped. -/
def isFullyStamped (subject : IdentitySetupSubject) : Bool :=
  match subject.captured with
  | none => false
  | some captured =>
    subject.stampProgress.size = captured.profiles.size &&
      subject.stampProgress.keys.all captured.profiles.contains &&
      subject.stampProgress.values.all (· = .stamped)

/-- `Some(Stamped)` for the profile. -/
def isStamped (subject : IdentitySetupSubject) (profile : ProfileId) : Bool :=
  subject.stampProgress[profile]? = some .stamped

/-- The observed DPI section of a captured profile. -/
def capturedDpi (subject : IdentitySetupSubject) (profile : ProfileId) : Option DpiState :=
  subject.captured.bind fun captured =>
    captured.profiles[profile]?.bind fun state => state.dpi.observed.map (·.value)

/-- The subject with `profile` marked stamped. -/
def mark (subject : IdentitySetupSubject) (profile : ProfileId) : IdentitySetupSubject :=
  { subject with stampProgress := subject.stampProgress.insert profile .stamped }

end IdentitySetupSubject

/-- **The journal of a running ceremony.** -/
structure IdentitySetupJournal where
  phase : IdentitySetupPhase
  stage : IdentitySetupStage
  subjects : List IdentitySetupSubject
deriving DecidableEq

/-- Remembered answers to where an endpoint belongs, by fingerprint. -/
structure EndpointMapping where
  endpoints : BTreeMap String DeviceId
  lastSeenUnixSeconds : BTreeMap String Int
deriving DecidableEq

/-- **The state file.** -/
structure StateFile where
  schemaVersion : Nat
  nextDeviceNumber : Nat
  selectedDevice : Option DeviceId
  devices : BTreeMap DeviceId DeviceState
  identityMode : IdentityMode
  identitySetup : Option IdentitySetupJournal
  endpointMapping : EndpointMapping
deriving DecidableEq

namespace StateFile

def default : StateFile where
  schemaVersion := SCHEMA_VERSION
  nextDeviceNumber := 1
  selectedDevice := none
  devices := ∅
  identityMode := .legacy
  identitySetup := none
  endpointMapping := ⟨∅, ∅⟩

/-- The loop of `allocateDeviceId`, over at most `fuel` taken numbers. -/
def allocateFrom : Nat → StateFile → Except StateError DeviceId × StateFile
  | 0, state => (.error (.invalidState "nextDeviceNumber overflow"), state)
  | fuel + 1, state =>
    match DeviceId.fromNumber state.nextDeviceNumber with
    | .error e => (.error e, state)
    | .ok candidate =>
      if 2 ^ 64 ≤ state.nextDeviceNumber + 1 then (.error (.invalidState "nextDeviceNumber overflow"), state)
      else
        let state := { state with nextDeviceNumber := state.nextDeviceNumber + 1 }
        if state.devices.contains candidate then allocateFrom fuel state else (.ok candidate, state)

/-- **The next unused key.**  Each turn of the loop meets one more key of `devices`, so one turn more than there are
keys is enough. -/
def allocateDeviceId (state : StateFile) : Except StateError DeviceId × StateFile :=
  allocateFrom (state.devices.size + 1) state

end StateFile

/-- The stored token of a logical mouse. -/
def physicalIdOf (state : StateFile) (d : DeviceId) : Option PhysicalId :=
  state.devices[d]?.bind (·.identity.physicalId)

end AttackSharkX3
