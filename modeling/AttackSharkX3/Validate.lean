import AttackSharkX3.State
/-!
# Validate — what a stored state must satisfy

`StateFile.validate` is the gate of every load and every commit.  Its checks run in a fixed order and stop at the first
failure, whose text names what was checked.
-/
namespace AttackSharkX3

/-- Fails with `detail` unless `c`. -/
def check (c : Prop) [Decidable c] (detail : String) : Except StateError Unit :=
  if c then .ok () else .error (.invalidState detail)

@[simp] theorem check_ok (c : Prop) [Decidable c] (detail : String) : check c detail = .ok () ↔ c := by
  unfold check
  split <;> simp_all

section Evidence

variable {T : Type} [DecidableEq T]

/-- What an application claim needs of the observation next to it. -/
def validateResourceState (resource : ResourceState T) (ctx : String) : Except StateError Unit :=
  match resource.desired with
  | none => .ok ()
  | some desired =>
    match desired.verification.application with
    | .notSent | .acknowledged =>
      check (desired.verification.persistence = .unknown)
        s!"{ctx}: persistence claim requires ReadbackVerified application evidence"
    | .readbackVerified =>
      match resource.observed with
      | none => .error (.invalidState s!"{ctx}: ReadbackVerified requires an observed value")
      | some observed => do
        check (desired.value = observed.value) s!"{ctx}: ReadbackVerified requires equal desired and observed values"
        check (desired.updatedAt.unixSeconds ≤ observed.observedAt.unixSeconds)
          s!"{ctx}: ReadbackVerified observation is older than desired (stale)"
        check (∀ at_ ∈ desired.verification.persistence.verifiedAt, observed.observedAt.unixSeconds ≤ at_.unixSeconds)
          s!"{ctx}: persistence verification predates the supporting observation"
    | .mismatch =>
      match resource.observed with
      | none => .error (.invalidState s!"{ctx}: Mismatch requires an observed value")
      | some observed => do
        check (¬ (desired.value = observed.value ∧ desired.updatedAt.unixSeconds ≤ observed.observedAt.unixSeconds))
          s!"{ctx}: Mismatch requires a differing or stale observed value"
        check (desired.verification.persistence = .unknown) s!"{ctx}: Mismatch cannot carry persistence claims"

/-- A section stored under a profile names that profile. -/
def validateProfileResource (profileId : ProfileId) (resource : ResourceState T) (name : String)
    (profileOf : T → ProfileId) : Except StateError Unit := do
  check (¬ ((∃ desired ∈ resource.desired, profileOf desired.value ≠ profileId) ∨
      (∃ observed ∈ resource.observed, profileOf observed.value ≠ profileId)))
    s!"{name} resource targets profile {profileId.get} but is stored under another profile"
  validateResourceState resource s!"{name} for profile {profileId.get}"

end Evidence

/-- The checks of one stored profile, each text preceded by `ctx`. -/
def validateProfile (ctx rateCtx : String) (profileId : ProfileId) (profile : ProfileState) : Except StateError Unit := do
  validateProfileResource profileId profile.dpi s!"{ctx}dpi" (·.profile)
  validateProfileResource profileId profile.preferences s!"{ctx}preferences" (·.profile)
  validateProfileResource profileId profile.buttons s!"{ctx}buttons" (·.profile)
  validateResourceState profile.pollingRate s!"{rateCtx}pollingRate for profile {profileId.get}"

/-- A captured image is checked like a device's own evidence. -/
def validateCapturedProfileImage (image : CapturedProfileImage) (ctx : String) : Except StateError Unit := do
  validateResourceState image.profileMetadata s!"{ctx} profileMetadata"
  image.profiles.toList.forM fun entry => validateProfile s!"{ctx} " s!"{ctx} " entry.1 entry.2

/-- `{:?}` of a token. -/
def PhysicalId.debug (id : PhysicalId) : String :=
  "PhysicalId \x7b token: [" ++ ", ".intercalate (id.token.toList.map fun b => toString b.toNat) ++ "] \x7d"

def validateProfileName (deviceId : DeviceId) (profileId : ProfileId) (name : String) : Except StateError Unit := do
  check (isBlank name = false) s!"profile name for {profileId.get} on device {deviceId} is blank"
  check (name.toList.length ≤ MAX_PROFILE_NAME_CHARS)
    s!"profile name for {profileId.get} on device {deviceId} exceeds {MAX_PROFILE_NAME_CHARS} Unicode scalar values"

def validateDevice (deviceId : DeviceId) (device : DeviceState) : Except StateError Unit := do
  check (device.identity.id = deviceId) s!"device identity {device.identity.id} is stored under key {deviceId}"
  device.identity.validate
  validateResourceState device.profileMetadata s!"profileMetadata for device {deviceId}"
  device.profiles.toList.forM fun entry => validateProfile "" "" entry.1 entry.2
  device.profileNames.toList.forM fun entry => validateProfileName deviceId entry.1 entry.2

/-- Present tokens are pairwise distinct: the walk over the devices, with the tokens already seen. -/
def validatePhysicalIds : List (DeviceId × DeviceState) → List PhysicalId → Except StateError Unit
  | [], _ => .ok ()
  | (deviceId, device) :: rest, seen =>
    match device.identity.physicalId with
    | none => .error (.invalidState s!"persistent identity mode requires a physical id for device {deviceId}")
    | some physicalId =>
      if physicalId ∈ seen then .error (.invalidState
        s!"physical id {physicalId.debug} is assigned to more than one logical mouse (duplicate on device {deviceId})")
      else validatePhysicalIds rest (physicalId :: seen)

namespace IdentitySetupJournal

/-- The identity mode a ceremony runs in. -/
def validateMode (journal : IdentitySetupJournal) (mode : IdentityMode) : Except StateError Unit :=
  match journal.phase with
  | .initialEnrollment => check (mode = .legacy) "initial enrollment setup requires legacy identity mode"
  | _ => check (mode = .persistent) "this identity setup requires persistent identity mode"

def validateCounts (journal : IdentitySetupJournal) : Except StateError Unit :=
  match journal.phase with
  | .initialEnrollment =>
    check (journal.subjects.length ≤ 2) "initial enrollment setup cannot enroll more than two mice"
  | _ => check (journal.subjects.length ≤ 1) "this identity setup ceremony cannot enroll more than one mouse"

/-- The stage fits how far the subjects are. -/
def validateStage (journal : IdentitySetupJournal) : Except StateError Unit :=
  match journal.stage with
  | .awaitingCapture =>
    match journal.phase with
    | .initialEnrollment => do
      check (journal.subjects.length ≤ 1) "initial enrollment cannot await capture with more than one subject"
      check (∀ subject ∈ journal.subjects.head?, subject.token.isSome ∧ subject.isFullyStamped)
        "initial enrollment awaits the second mouse with an unfinished first subject"
    | _ => check (journal.subjects = []) "awaiting capture while a subject is already captured"
  | .stamping => do
    check (journal.phase ≠ .bleAssociation) "BLE association never stamps profiles"
    match journal.subjects.getLast? with
    | none => .error (.invalidState "stamping requires a captured subject")
    | some subject =>
      match subject.captured with
      | none => .error (.invalidState "stamping requires a captured profile image")
      | some captured => do
        check (captured.profiles.isEmpty = false) "stamping requires at least one captured profile"
        check (subject.isFullyStamped = false) "stamping stage requires an incompletely stamped subject"
  | .finalizing => do
    check (journal.subjects ≠ []) "finalizing requires captured subjects"
    match journal.phase with
    | .initialEnrollment => check (journal.subjects.length = 2) "initial enrollment finalizing requires both mice"
    | _ => check (journal.subjects.length = 1) "finalizing requires exactly one subject for this ceremony"
    if journal.phase ≠ .bleAssociation then
      journal.subjects.forM fun subject => do
        check subject.token.isSome "finalizing requires every subject to have a reserved token"
        check subject.isFullyStamped "finalizing requires every subject to be fully stamped"

/-- What the rotated-away token of a restored mouse must be. -/
def validateOldToken (devices : BTreeMap DeviceId DeviceState) (subject : IdentitySetupSubject)
    (reserved : List PhysicalId) (oldToken : PhysicalId) : Except StateError Unit := do
  check (oldToken ∉ reserved) "identity setup rotates a token also reserved by another subject"
  match subject.deviceId with
  | none => .error (.invalidState "restore rotation requires a bound device")
  | some deviceId =>
    match devices[deviceId]? with
    | none => .error (.invalidState s!"restore rotation references unknown device {deviceId}")
    | some device =>
      match device.identity.physicalId with
      | none => .error (.invalidState s!"restore rotation requires device {deviceId} to have a physical id")
      | some current => do
        check (current = oldToken) s!"restore old token does not match device {deviceId} physical id"
        check (subject.token ≠ some oldToken) "restore new token must differ from the rotated-away token"

/-- The checks of one subject, given the tokens the subjects before it reserve. -/
def validateSubject (devices : BTreeMap DeviceId DeviceState) (subject : IdentitySetupSubject)
    (reserved : List PhysicalId) : Except StateError Unit := do
  match subject.captured with
  | some captured =>
    validateCapturedProfileImage captured s!"identity setup subject {subject.endpoint.locator.debug}"
  | none => .ok ()
  check (subject.stampProgress.isEmpty ∨ subject.captured.isSome) "profile stamping requires a captured profile image"
  check (∀ captured ∈ subject.captured, subject.stampProgress.isEmpty ∨
      (subject.stampProgress.size = captured.profiles.size ∧
        subject.stampProgress.keys.all captured.profiles.contains))
    "stamp progress must track exactly the captured profile keys"
  match subject.deviceId with
  | some deviceId =>
    check (devices.contains deviceId) s!"identity setup subject references unknown device {deviceId}"
  | none => .ok ()
  check (subject.stampProgress.values.any (· = .stamped) = false ∨ subject.token.isSome)
    "stamped profile progress requires a reserved token"
  match subject.token with
  | some token => do
    check (token ∉ reserved) "identity setup reserves the same token for more than one subject"
    devices.toList.forM fun entry => check (entry.2.identity.physicalId ≠ some token)
      s!"identity setup reserves token {token.debug} already assigned to device {entry.1}"
  | none => .ok ()
  match subject.oldToken with
  | some oldToken => validateOldToken devices subject (reserved ++ subject.token.toList) oldToken
  | none => .ok ()

def validateSubjects (devices : BTreeMap DeviceId DeviceState) :
    List IdentitySetupSubject → List PhysicalId → Except StateError Unit
  | [], _ => .ok ()
  | subject :: rest, reserved => do
    validateSubject devices subject reserved
    validateSubjects devices rest (reserved ++ subject.token.toList)

/-- What the phase asks of each subject. -/
def validateShape (devices : BTreeMap DeviceId DeviceState) (journal : IdentitySetupJournal) : Except StateError Unit :=
  match journal.phase with
  | .bleAssociation => journal.subjects.forM fun subject => do
    check (subject.token = none ∧ subject.oldToken = none) "BLE association must not reserve or rotate tokens"
    check subject.stampProgress.isEmpty "BLE association must not track profile stamps"
    check (subject.captured = none) "BLE association must not carry a captured profile image"
    check (subject.endpoint.transport = .ble) "BLE association endpoint must be a BLE endpoint"
    devices.toList.forM fun entry => check (some entry.1 = subject.deviceId ∨
        entry.2.identity.endpoints.values.any (·.locator = subject.endpoint.locator) = false)
      s!"BLE association endpoint already belongs to device {entry.1}"
  | .restore => journal.subjects.forM fun subject =>
    check subject.oldToken.isSome "restore requires the rotated-away old token"
  | .addMouse | .foreignAdoption | .initialEnrollment => journal.subjects.forM fun subject =>
    check (subject.oldToken = none) "old-token rotation is only valid for restore"

end IdentitySetupJournal

namespace StateFile

/-- The tokens an identity mode allows. -/
def validateIdentityMode (state : StateFile) : Except StateError Unit :=
  match state.identityMode with
  | .legacy => do
    check (state.devices.size ≤ 1)
      s!"legacy identity mode allows at most one logical mouse, found {state.devices.size}"
    state.devices.toList.forM fun entry => check (entry.2.identity.physicalId = none)
      s!"legacy identity mode must not carry a physical id for device {entry.1}"
  | .persistent => validatePhysicalIds state.devices.toList []

def validateIdentitySetup (state : StateFile) (journal : IdentitySetupJournal) : Except StateError Unit := do
  journal.validateMode state.identityMode
  journal.validateCounts
  journal.validateStage
  IdentitySetupJournal.validateSubjects state.devices journal.subjects []
  journal.validateShape state.devices

/-- Every remembered endpoint points at a saved mouse. -/
def validateEndpointMapping (state : StateFile) : Except StateError Unit := do
  state.endpointMapping.endpoints.toList.forM fun entry => do
    check (isBlank entry.1 = false) "endpoint mapping holds a blank endpoint fingerprint"
    check (state.devices.contains entry.2)
      s!"endpoint mapping points {debugString entry.1} at unknown device {entry.2}"
  state.endpointMapping.lastSeenUnixSeconds.toList.forM fun entry =>
    check (state.endpointMapping.endpoints.contains entry.1)
      s!"endpoint mapping records last-seen for unmapped endpoint {debugString entry.1}"

/-- The largest number in use, or 0. -/
def maxNumber (state : StateFile) : Nat := (state.devices.keys.filterMap DeviceId.number).foldl max 0

def validateSchema (state : StateFile) : Except StateError Unit :=
  if state.schemaVersion ≠ SCHEMA_VERSION then .error (.unsupportedSchema state.schemaVersion SCHEMA_VERSION) else .ok ()

def validateSelected (state : StateFile) : Except StateError Unit :=
  match state.selectedDevice with
  | some selected => check (state.devices.contains selected) s!"selected device {selected} is not present in devices"
  | none => .ok ()

/-- The running ceremony, if there is one. -/
def validateSetup (state : StateFile) : Except StateError Unit :=
  match state.identitySetup with
  | some journal => state.validateIdentitySetup journal
  | none => .ok ()

/-- **The checks of a state file.** -/
def validate (state : StateFile) : Except StateError Unit := do
  state.validateSchema
  check (state.nextDeviceNumber ≠ 0) "nextDeviceNumber must be >= 1"
  check (state.maxNumber < state.nextDeviceNumber)
    s!"nextDeviceNumber {state.nextDeviceNumber} must be greater than max device number {state.maxNumber}"
  state.validateSelected
  state.devices.toList.forM fun entry => validateDevice entry.1 entry.2
  state.validateIdentityMode
  state.validateSetup
  state.validateEndpointMapping

theorem then_ok {E : Type} {x y : Except E Unit} : (do x; y) = .ok () ↔ x = .ok () ∧ y = .ok () := by
  cases x with
  | error e => exact ⟨fun h => (nomatch h), fun h => (nomatch h.1)⟩
  | ok _ => exact ⟨fun h => ⟨rfl, h⟩, fun h => h.2⟩

theorem validate_ok {state : StateFile} : state.validate = .ok () ↔ state.validateSchema = .ok () ∧
    state.nextDeviceNumber ≠ 0 ∧ state.maxNumber < state.nextDeviceNumber ∧ state.validateSelected = .ok () ∧
    state.devices.toList.forM (fun entry => validateDevice entry.1 entry.2) = .ok () ∧
    state.validateIdentityMode = .ok () ∧ state.validateSetup = .ok () ∧ state.validateEndpointMapping = .ok () := by
  simp only [validate, then_ok, check_ok]

/-- A valid state is valid without its ceremony. -/
theorem validate_withoutSetup {state : StateFile} (h : state.validate = .ok ()) :
    { state with identitySetup := none }.validate = .ok () := by
  obtain ⟨hschema, hnext, hmax, hselected, hdevices, hmode, -, hmapping⟩ := validate_ok.1 h
  exact validate_ok.2 ⟨hschema, hnext, hmax, hselected, hdevices, hmode, rfl, hmapping⟩

end StateFile
end AttackSharkX3
