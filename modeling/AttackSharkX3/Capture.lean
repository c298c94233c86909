import AttackSharkX3.Backend
/-!
# Capture — reading every profile of a mouse

Only the current profile can be read, so a capture enables all five profiles, makes each current in turn and puts the
original metadata back, whether or not the reading succeeded.
-/
namespace AttackSharkX3

open Effects (Fallible)

/-- Writes the metadata and insists on reading exactly it back. -/
def writeExactMetadata (session : Session) (expected : ProfileMetadata) : Manager ProfileMetadata := do
  match ← session.writeProfileMetadata expected with
  | .readbackVerified actual =>
    if actual = expected then return actual
    else throw (.verificationMismatch "profile metadata" (some expected.current))
  | .acknowledged => throw (.verificationMismatch "profile metadata" (some expected.current))

/-- The sections of one profile, as captured. -/
structure RefreshedProfile where
  dpi : DpiState
  preferences : PreferencesState
  buttons : ButtonsState
  pollingRate : PollingRate
deriving DecidableEq

structure ProfileCapture where
  originalMetadata : ProfileMetadata
  restoredMetadata : ProfileMetadata
  temporarilyExpanded : Bool
  profiles : BTreeMap ProfileId RefreshedProfile
deriving DecidableEq

/-- A fresh observation and nothing else. -/
def observed {T : Type} (value : T) (now : Timestamp) : ResourceState T := ⟨none, some ⟨value, .usbReadback, now⟩⟩

def RefreshedProfile.evidence (refreshed : RefreshedProfile) (now : Timestamp) : ProfileState where
  dpi := observed refreshed.dpi now
  preferences := observed refreshed.preferences now
  buttons := observed refreshed.buttons now
  pollingRate := observed refreshed.pollingRate now

/-- **A capture as the evidence a journal keeps.** -/
def ProfileCapture.intoEvidence (capture : ProfileCapture) (now : Timestamp) : CapturedProfileImage where
  profileMetadata := observed capture.restoredMetadata now
  profiles := capture.profiles.map fun _ refreshed => refreshed.evidence now

def newMetadata (current maximum : ProfileId) : Manager ProfileMetadata :=
  Fallible.ofExcept (.protocol "profile metadata") (ProfileMetadata.new current maximum)

/-- The order of a capture: the current profile, then the others. -/
def captureOrder (originalCurrent : ProfileId) : List ProfileId :=
  originalCurrent :: (ProfileId.upTo .MAX_ID).filter (· ≠ originalCurrent)

/-- Makes the profile current, unless it is: the profile that is then current. -/
def activateFor (session : Session) (current target maximum : ProfileId) : Manager ProfileId :=
  if current = target then pure current
  else do
    let metadata ← newMetadata target maximum
    let written ← writeExactMetadata session metadata
    return written.current

/-- Reads the profiles of the list, each made current first. -/
def captureImages (session : Session) (maximum : ProfileId) :
    List ProfileId → ProfileId → BTreeMap ProfileId RefreshedProfile → Manager (BTreeMap ProfileId RefreshedProfile)
  | [], _, profiles => pure profiles
  | target :: order, current, profiles => do
    let current ← activateFor session current target maximum
    let snapshot ← session.readProfile target
    Fallible.ensure (snapshot.persistentMetadata.current = target ∧ snapshot.persistentMetadata.maximum = maximum)
      (.verificationMismatch "complete profile refresh" (some target))
    let pollingRate ← session.readLivePollingRate target
    captureImages session maximum order current
      (profiles.insert target ⟨snapshot.dpi, snapshot.preferences, snapshot.buttons, pollingRate⟩)

def captureAllProfileImages (session : Session) (originalCurrent maximum : ProfileId) :
    Manager (BTreeMap ProfileId RefreshedProfile) :=
  captureImages session maximum (captureOrder originalCurrent) originalCurrent ∅

/-- Enables all profiles if they are not, and reads them. -/
def captureExpanded (session : Session) (originalMetadata expandedMetadata : ProfileMetadata) :
    Manager (BTreeMap ProfileId RefreshedProfile) :=
  if originalMetadata.maximum ≠ .MAX_ID then do
    let _ ← writeExactMetadata session expandedMetadata
    captureAllProfileImages session originalMetadata.current .MAX_ID
  else captureAllProfileImages session originalMetadata.current .MAX_ID

/-- The end of a capture: what was read, once the original metadata is back. -/
def finishCapture (originalMetadata : ProfileMetadata)
    (captureResult : Except ManagerError (BTreeMap ProfileId RefreshedProfile))
    (restoreResult : Except ManagerError ProfileMetadata) : Except ManagerError ProfileCapture :=
  match captureResult, restoreResult with
  | .ok profiles, .ok restored =>
    .ok ⟨originalMetadata, restored, originalMetadata.maximum ≠ .MAX_ID, profiles⟩
  | .error refresh, .ok _ => .error refresh
  | .ok _, .error restore => .error (.refreshRestorationFailed restore.display)
  | .error refresh, .error restore => .error (.refreshRestoreFailed refresh.display restore.display)

/-- **The capture of a USB mouse**, its metadata restored in every case. -/
def captureAllProfiles (session : Session) : Manager ProfileCapture := do
  Fallible.ensure (session.transport ≠ .ble) (.unsupportedOperation "capture-all-profiles" session.transport)
  let originalMetadata ← session.readProfileMetadata
  let expandedMetadata ← newMetadata originalMetadata.current .MAX_ID
  let captureResult ← Manager.attempt (captureExpanded session originalMetadata expandedMetadata)
  let restoreResult ← Manager.attempt (writeExactMetadata session originalMetadata)
  Fallible.ofExcept id (finishCapture originalMetadata captureResult restoreResult)

end AttackSharkX3
