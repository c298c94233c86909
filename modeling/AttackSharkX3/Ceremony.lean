import AttackSharkX3.Update
/-!
# Ceremony — giving a mouse its physical identity

A ceremony is begun, captures a presented mouse, reserves a token for it, stamps the token on every captured profile and
is finalized.  Each call loads the journal, works on the hardware and commits what it did in separate transactions; a call
that is stopped leaves the journal for the next one.
-/
namespace AttackSharkX3

open Effects (Fallible)

/-- The journal of the running ceremony. -/
def requireJournal (state : StateFile) : Manager IdentitySetupJournal :=
  Fallible.ofOption .noIdentityCeremony state.identitySetup

/-! ## Begin and cancel -/

/-- The kind fits the installation's mode. -/
def requireMode (phase : IdentitySetupPhase) (mode : IdentityMode) : Manager Unit :=
  if phase = .initialEnrollment then
    Fallible.ensure (mode = .legacy) (.identityCeremonyRefused phase "already-persistent"
      "initial enrollment is the Legacy -> Persistent transition; this installation already has persistent physical identity")
  else
    Fallible.ensure (mode = .persistent) (.identityCeremonyRefused phase "requires-persistent"
      "this ceremony requires persistent physical identity")

/-- The logical mouse a restore or an association is about. -/
def requireTarget (state : StateFile) (phase : IdentitySetupPhase) (target : Option DeviceId) : Manager Unit :=
  if phase = .restore ∨ phase = .bleAssociation then do
    let targetId ← Fallible.ofOption (.identityCeremonyRefused phase "requires-target"
      "restore and BLE association require the logical mouse to operate on") target
    let device ← Fallible.ofOption (.deviceNotFound targetId) state.devices[targetId]?
    Fallible.ensure (¬ (phase = .restore ∧ device.identity.physicalId = none))
      (.identityCeremonyRefused phase "requires-physical-id" s!"{targetId} has no physical identity to restore")
  else pure ()

/-- The locators of the connected rows. -/
def connectedLocators (listed : List DiscoveredEndpoint) : List DeviceLocator :=
  (listed.filter (·.connected)).map (·.endpoint.locator)

/-- A restore waits until the old unit is gone. -/
def refuseConnected (state : StateFile) (phase : IdentitySetupPhase) (target : Option DeviceId) : Manager Unit :=
  if phase = .restore then do
    let targetId ← Manager.expect "validated above" target
    let device ← Manager.expect "validated above" state.devices[targetId]?
    let wired ← Manager.list (.exact .wired)
    let receiver ← Manager.list (.exact .receiver)
    Fallible.ensure (¬ ∃ locator ∈ connectedLocators wired ++ connectedLocators receiver,
        ∃ endpoint ∈ device.identity.endpoints.values, endpoint.locator = locator)
      (.identityCeremonyRefused phase "device-connected"
        "the saved mouse still has a connected USB endpoint; reconnect the physical mouse being assigned")
  else pure ()

/-- **Begins a ceremony** where none is running. -/
def beginIdentityCeremony (kind : IdentityCeremonyKind) (target : Option DeviceId) : Manager IdentityCeremonyProgress := do
  let phase := kind.phase
  let state ← Manager.load
  (match state.identitySetup with
    | some journal => throw (.identitySetupInProgress journal.phase)
    | none => pure () : Manager Unit)
  requireMode phase state.identityMode
  requireTarget state phase target
  refuseConnected state phase target
  Manager.commit (.beginCeremony phase)
  let state ← Manager.load
  let journal ← Manager.expect "journal just created" state.identitySetup
  return ceremonyProgressFromJournal journal

/-- A profile of the ceremony is stamped. -/
def IdentitySetupJournal.irreversible (journal : IdentitySetupJournal) : Bool :=
  journal.subjects.any fun subject => subject.stampProgress.values.any (· = .stamped)

/-- **Cancels the ceremony**, while no profile is stamped. -/
def ceremonyCancel : Manager IdentityCeremonyProgress := do
  let state ← Manager.load
  let journal ← requireJournal state
  Fallible.ensure (journal.irreversible = false) (.identityCeremonyRefused journal.phase "stamps-irreversible"
    "profiles have already been stamped; complete or resume the ceremony instead of cancelling")
  Manager.commit .cancelCeremony
  return { ceremonyProgressFromJournal journal with stage := .cancelled }

/-! ## Reconnected -/

/-- The stage and subjects a presented mouse is accepted at. -/
def requireAwaitingCapture (journal : IdentitySetupJournal) : Manager Unit :=
  Fallible.ensure (journal.stage = .awaitingCapture ∧
      ¬ (journal.phase ≠ .initialEnrollment ∧ journal.subjects ≠ []) ∧
      ¬ (journal.phase = .initialEnrollment ∧ 1 < journal.subjects.length))
    (.invalidCeremonyAction .reconnected journal.phase journal.stage)

/-- A saved mouse carries the token. -/
def knownToken (state : StateFile) (token : PhysicalId) : Bool :=
  state.devices.values.any (·.identity.physicalId = some token)

/-- What a presented valid token means for the ceremony: only an adoption goes on with it. -/
def eligibleToken (state : StateFile) (journal : IdentitySetupJournal) (endpoint : DeviceEndpoint) (token : PhysicalId) :
    Manager (Option PhysicalId) :=
  if isReservedToken token then throw (.reservedPhysicalId token)
  else match journal.phase with
    | .foreignAdoption => do
      Fallible.ensure (knownToken state token = false) (.identityCeremonyRefused journal.phase "already-registered"
        s!"token {token.debug} already identifies a logical mouse here")
      Fallible.ensure (journalReservesToken journal token = false)
        (.identityCeremonyRefused journal.phase "reserved-by-journal"
          "the presented token is reserved by an in-flight ceremony")
      return some token
    | .initialEnrollment => throw (.intactIdentityMarker endpoint
        s!"the presented mouse carries a valid watermark {token.debug}; enrollment would overwrite it — adopt or restore instead")
    | .addMouse | .restore => throw (.identityCeremonyRefused journal.phase
        (if knownToken state token then "already-registered" else "adopt-instead")
        s!"the presented mouse carries a valid watermark {token.debug}; a marked device is never re-stamped")
    | .bleAssociation => Manager.abort "BLE association never reconnects a USB mouse"

/-- **Whether the presented mouse may go on**, and the token an adoption keeps. -/
def eligibility (state : StateFile) (journal : IdentitySetupJournal) (endpoint : DeviceEndpoint) :
    WatermarkDecode → Manager (Option PhysicalId)
  | .valid token => eligibleToken state journal endpoint token
  | .unsupportedVersion version => throw (.intactIdentityMarker endpoint
      s!"unsupported future watermark version {version}; upgrade required and the marker must not be overwritten")
  | .absent | .malformed => pure none

/-- The mouse a restore is for and the token it gives up, checked again. -/
def restoreTarget (state : StateFile) (phase : IdentitySetupPhase) (target : Option DeviceId) :
    Manager (Option DeviceId × Option PhysicalId) :=
  if phase = .restore then do
    let targetId ← Fallible.ofOption (.identityCeremonyRefused phase "requires-target"
      "restore requires the logical mouse being restored") target
    let device ← Fallible.ofOption (.deviceNotFound targetId) state.devices[targetId]?
    let old ← Fallible.ofOption (.identityCeremonyRefused phase "requires-physical-id"
      s!"{targetId} has no physical identity to restore") device.identity.physicalId
    return (some targetId, some old)
  else return (none, none)

/-- What the captured tail of a profile decodes to. -/
def ProfileState.capturedDecode [Crc32fast] (profile : ProfileState) : Option WatermarkDecode :=
  profile.dpi.observed.map (·.value.physicalId)

/-- The plan of one profile of an adoption: nothing to write under the adopted token, a stamp under no token, and any
other marker is damage. -/
def adoptionStep [Crc32fast] (phase : IdentitySetupPhase) (adopted : PhysicalId) (profile : ProfileId)
    (state : ProfileState) : Except ManagerError IdentityStampProgress :=
  match state.capturedDecode with
  | some (.valid token) => if token = adopted then .ok .stamped else disagreement (some (.valid token))
  | some .absent | none => .ok .captured
  | other => disagreement other
where
  disagreement (other : Option WatermarkDecode) : Except ManagerError IdentityStampProgress :=
    .error (.identityCeremonyRefused phase "token-disagreement"
      s!"profile {profile.debug} carries {debugOption WatermarkDecode.debug other}; profiles disagree on the physical token — treat as damaged identity and re-enroll")

/-- The plan of an adoption, profile by profile. -/
def adoptionPlan [Crc32fast] (phase : IdentitySetupPhase) (adopted : PhysicalId) :
    List (ProfileId × ProfileState) → BTreeMap ProfileId IdentityStampProgress →
      Except ManagerError (BTreeMap ProfileId IdentityStampProgress)
  | [], plan => .ok plan
  | (profile, state) :: rest, plan => do
    let progress ← adoptionStep phase adopted profile state
    adoptionPlan phase adopted rest (plan.insert profile progress)

/-- **Which captured profiles are to be stamped.** -/
def stampPlan [Crc32fast] (phase : IdentitySetupPhase) (adoptedToken : Option PhysicalId)
    (evidence : CapturedProfileImage) : Manager (BTreeMap ProfileId IdentityStampProgress) :=
  if phase = .foreignAdoption then do
    let adopted ← Manager.expect "validated: adoption requires a valid token" adoptedToken
    Fallible.ofExcept id (adoptionPlan phase adopted evidence.profiles.toList ∅)
  else return evidence.profiles.map fun _ _ => .captured

variable [Crc32fast]

/-- **Accepts a presented mouse**: its watermark is looked at, its profiles captured, and the subject journalled. -/
def ceremonyReconnected (endpoint : DeviceEndpoint) (target : Option DeviceId) : Manager IdentityCeremonyProgress := do
  let state ← Manager.load
  let journal ← requireJournal state
  let phase := journal.phase
  requireAwaitingCapture journal
  Fallible.ensure (isUsbTransport endpoint.transport) (.identityCeremonyRefused phase "requires-usb"
    "physical enrollment and watermark verification require a wired or receiver USB connection")
  let session ← Manager.open_ endpoint
  let (_, decode) ← currentWatermark session
  let adoptedToken ← eligibility state journal endpoint decode
  let (deviceId, oldToken) ← restoreTarget state phase target
  let capture ← captureAllProfiles session
  let now ← Manager.now
  let evidence := capture.intoEvidence now
  let stampProgress ← stampPlan phase adoptedToken evidence
  let subject : IdentitySetupSubject := ⟨endpoint, deviceId, adoptedToken, oldToken, some evidence, stampProgress⟩
  let allValid := phase = .foreignAdoption && subject.isFullyStamped
  Manager.commit (.pushSubject phase subject allValid)
  if allValid then
    return { ceremonyProgressFromJournal ⟨phase, .finalizing, [subject]⟩ with stage := .complete }
  else do
    let state ← Manager.load
    let journal ← Manager.expect "journal persisted" state.identitySetup
    return ceremonyProgressFromJournal journal

/-! ## Stamp and adopt -/

/-- A fresh token collides with nothing. -/
def isFreshToken (state : StateFile) (oldToken : Option PhysicalId) (token : PhysicalId) : Bool :=
  !isReservedToken token && !knownToken state token && !state.identitySetup.any (journalReservesToken · token) &&
    oldToken ≠ some token

/-- At most `tries` random tokens. -/
def mintFrom (state : StateFile) (phase : IdentitySetupPhase) (oldToken : Option PhysicalId) : Nat → Manager PhysicalId
  | 0 => throw (.identityCeremonyRefused phase "token-generation" "could not mint a unique physical identity token")
  | tries + 1 => do
    let bytes ← Manager.random
    if isFreshToken state oldToken ⟨bytes⟩ then return ⟨bytes⟩ else mintFrom state phase oldToken tries

def mintUniqueToken (state : StateFile) (phase : IdentitySetupPhase) (oldToken : Option PhysicalId) :
    Manager PhysicalId :=
  mintFrom state phase oldToken 16

/-- The watermark a write left, read back if the write was only acknowledged. -/
def stampedIdentity (session : Session) (profile : ProfileId) : SessionWrite DpiState → Manager WatermarkDecode
  | .readbackVerified actual => pure actual.physicalId
  | .acknowledged => do
    let actual ← session.readDpi profile
    return actual.physicalId

/-- **Stamps one profile**: makes it current, writes its captured image under the token, and insists on reading the
token back. -/
def stampOneProfile (session : Session) (profile : ProfileId) (token : PhysicalId) (dpi : DpiState) : Manager Unit := do
  let actual ← session.readProfileMetadata
  let metadata ← newMetadata profile (actual.maximum.max profile)
  let _ ← writeExactMetadata session metadata
  let write ← session.writeDpi (withPhysicalWatermark dpi (some token)) .readback
  let decode ← stampedIdentity session profile write
  Fallible.ensure (decode = .valid token) (.verificationMismatch "physical identity watermark" (some profile))

/-- The image of a captured profile that is to be stamped. -/
def stampImage (subject : IdentitySetupSubject) (profile : ProfileId) : Manager DpiState :=
  Fallible.ofOption (.verificationMismatch "physical identity watermark capture" (some profile))
    (subject.capturedDpi profile)

/-- **Stamps the profiles in order**, marking each but the last in the journal. -/
def stampProfiles (session : Session) (subject : IdentitySetupSubject) (token : PhysicalId) :
    List ProfileId → Manager Unit
  | [] => pure ()
  | [profile] => do
    let dpi ← stampImage subject profile
    stampOneProfile session profile token dpi
  | profile :: rest => do
    let dpi ← stampImage subject profile
    stampOneProfile session profile token dpi
    Manager.commit (.markStamped profile)
    stampProfiles session subject token rest

/-- The captured profiles that are not stamped. -/
def pendingProfiles (subject : IdentitySetupSubject) (captured : CapturedProfileImage) : List ProfileId :=
  captured.profiles.keys.filter fun profile => !subject.isStamped profile

/-- The stage and subjects stamping needs. -/
def requireStamping (journal : IdentitySetupJournal) : Manager Unit :=
  Fallible.ensure (journal.stage = .stamping ∧ journal.phase ≠ .bleAssociation ∧ journal.subjects ≠ [])
    (.invalidCeremonyAction .stamp journal.phase journal.stage)

/-- A token for the last subject, journalled before anything is written. -/
def reserveToken (state : StateFile) (journal : IdentitySetupJournal) : Manager Unit :=
  if journal.subjects.getLast?.any (·.token.isNone) then do
    let token ← mintUniqueToken state journal.phase (journal.subjects.getLast?.bind (·.oldToken))
    Manager.commit (.reserveToken token)
  else pure ()

/-- The captured metadata put back after stamping. -/
def restoreMetadata (session : Session) (captured : CapturedProfileImage) : Manager Unit :=
  match captured.profileMetadata.observed with
  | none => pure ()
  | some original => do
    match ← Manager.attempt (writeExactMetadata session original.value) with
    | .ok _ => return ()
    | .error restore => throw (.refreshRestorationFailed restore.display)

/-- **Stamps the last subject** and moves the ceremony on. -/
def ceremonyStamp : Manager IdentityCeremonyProgress := do
  let state ← Manager.load
  let journal ← requireJournal state
  requireStamping journal
  let phase := journal.phase
  reserveToken state journal
  let state ← Manager.load
  let journal ← requireJournal state
  let subject ← Manager.expect "validated: a subject exists" journal.subjects.getLast?
  let token ← Manager.expect "persisted above" subject.token
  let captured ← Manager.expect "validated: stamping requires a captured image" subject.captured
  let pending := pendingProfiles subject captured
  let session ← Manager.open_ subject.endpoint
  stampProfiles session subject token pending
  restoreMetadata session captured
  let awaitSecond := phase = .initialEnrollment && journal.subjects.length = 1
  Manager.commit (.finishStamping phase awaitSecond pending.getLast?)
  let state ← Manager.load
  match state.identitySetup with
  | some journal => return ceremonyProgressFromJournal journal
  | none => return { ceremonyProgressFromJournal journal with stage := .complete }

/-- **Confirms an adoption** and stamps what it must. -/
def ceremonyAdopt : Manager IdentityCeremonyProgress := do
  let state ← Manager.load
  let journal ← requireJournal state
  Fallible.ensure (journal.phase = .foreignAdoption) (.invalidCeremonyAction .adopt journal.phase journal.stage)
  ceremonyStamp

/-! ## The other actions -/

/-- **Finishes first-time setup** with the decision about the old configuration. -/
def ceremonyFinalizeMigration (action : IdentityCeremonyAction) : Manager IdentityCeremonyProgress := do
  let state ← Manager.load
  let journal ← requireJournal state
  Fallible.ensure (journal.phase = .initialEnrollment ∧ journal.stage = .finalizing ∧ journal.subjects.length = 2 ∧
      journal.subjects.all (·.isFullyStamped))
    (.invalidCeremonyAction action journal.phase journal.stage)
  Manager.commit (.finalizeMigration (action = .skipMigration))
  return { ceremonyProgressFromJournal journal with stage := .complete }

/-- **Associates a BLE endpoint**, in one transaction. -/
def ceremonyAssociate (endpoint : DeviceEndpoint) (target : Option DeviceId) : Manager IdentityCeremonyProgress := do
  Fallible.ensure (endpoint.transport = .ble) (.identityCeremonyRefused .bleAssociation "requires-ble"
    "BLE association requires a BLE endpoint")
  let deviceId ← Fallible.ofOption (.identityCeremonyRefused .bleAssociation "requires-target"
    "BLE association requires the logical mouse to associate") target
  Manager.commit (.associate endpoint deviceId)

/-- **One action of a ceremony.** -/
def identityCeremonyAction (action : IdentityCeremonyAction) (endpoint : Option DeviceEndpoint)
    (target : Option DeviceId) : Manager IdentityCeremonyProgress :=
  match action with
  | .begin kind => beginIdentityCeremony kind target
  | .reconnected | .capture => do
    let endpoint ← Fallible.ofOption (.invalidUpdate s!"{action.debug} requires the presented endpoint") endpoint
    ceremonyReconnected endpoint target
  | .stamp => ceremonyStamp
  | .adopt => ceremonyAdopt
  | .associate => do
    let endpoint ← Fallible.ofOption (.invalidUpdate "associate requires the BLE endpoint") endpoint
    ceremonyAssociate endpoint target
  | .acceptMigration | .skipMigration => ceremonyFinalizeMigration action
  | .cancel => ceremonyCancel

end AttackSharkX3
