import AttackSharkX3.Open
/-!
# Update — ordinary writes to one profile of a mouse

A sparse update is merged into a complete baseline: a live read, the image a draft was made from, or the stored evidence.
Every DPI image gets the mouse's own watermark as its tail before it is sent.
-/
namespace AttackSharkX3

open Effects (Fallible)

/-! ## Merging -/

/-- **The mouse's own watermark over a DPI image**; a mouse without a token keeps the image's tail. -/
def withPhysicalWatermark [Crc32fast] (state : DpiState) (physicalId : Option PhysicalId) : DpiState :=
  match physicalId with
  | some physicalId => { state with preservedTail := physicalId.toWatermarkBytes }
  | none => state

@[simp] theorem withPhysicalWatermark_some [Crc32fast] (state : DpiState) (token : PhysicalId) :
    (withPhysicalWatermark state (some token)).preservedTail = token.toWatermarkBytes := rfl

def SensorOptions.merge (sensor : SensorOptions) (delta : SensorOptionsDelta) : SensorOptions where
  liftOffDistance := delta.liftOffDistance.getD sensor.liftOffDistance
  rippleControl := delta.rippleControl.getD sensor.rippleControl
  angleSnap := delta.angleSnap.getD sensor.angleSnap
  motionSync := delta.motionSync.getD sensor.motionSync

def mergeDpiDelta (baseline : DpiState) (delta : DpiDelta) : Except ManagerError DpiState :=
  match DpiState.new baseline.profile (delta.stages.getD baseline.stages)
      (delta.activeStage.getD baseline.activeStage) baseline.preservedTail with
  | .ok merged => .ok (merged.withSensor (delta.sensor.elim baseline.sensor baseline.sensor.merge))
  | .error e => .error (.protocol "dpi state" e)

def mergePreferencesDelta (baseline : PreferencesState) (delta : PreferencesDelta) : PreferencesState where
  profile := baseline.profile
  lightMode := delta.lightMode.getD baseline.lightMode
  configuration := delta.configuration.getD baseline.configuration
  deepSleep := delta.deepSleep.getD baseline.deepSleep
  hostColor := delta.hostColor.getD baseline.hostColor
  sleepTimer := delta.sleepTimer.getD baseline.sleepTimer
  debounce := delta.debounce.getD baseline.debounce

/-- The table with the delta's slot reassigned. -/
def ButtonsState.assign (state : ButtonsState) (delta : ButtonSlotDelta) : ButtonsState where
  profile := state.profile
  slots := state.slots.set delta.slot.index delta.action.toAssignment
  slotCount := by rw [List.length_set, state.slotCount]

/-! ## Stored baselines -/

def CAPTURED_EVIDENCE_STAGE : DpiValue := ⟨800, by decide⟩

/-- The image of a stock empty profile 1, for any profile. -/
def capturedEvidenceDpi (profile : ProfileId) : Except ManagerError DpiState :=
  (do
    let captured ← DpiState.capturedEmptyProfileOne [CAPTURED_EVIDENCE_STAGE] ⟨1, by decide⟩
    DpiState.new profile captured.stages captured.activeStage captured.preservedTail).mapError (.protocol "dpi state")

def capturedEvidencePreferences (profile : ProfileId) : PreferencesState where
  profile
  lightMode := 0x02
  configuration := 0x01
  deepSleep := 0x00
  hostColor := ⟨[0xff, 0x00, 0x00], rfl⟩
  sleepTimer := 5
  debounce := 0x00

def DEFAULT_BUTTON_SLOTS : List ButtonAssignment :=
  [0x02, 0x03, 0x04, 0x0d, 0x3c, 0x0f, 0x06, 0x05, 0x3c, 0x01, 0x01, 0x01, 0x01, 0x01, 0x01, 0x01, 0x0a, 0x09].map
    fun action => ⟨action, 0x00, 0x00⟩

def ButtonsState.defaultForProfile (profile : ProfileId) : ButtonsState := ⟨profile, DEFAULT_BUTTON_SLOTS, rfl⟩

/-- The evidence on record for one section of one profile. -/
def StateFile.resource {T : Type} (state : StateFile) (sect : Section T) (device : DeviceId) (profile : ProfileId) :
    Option (ResourceState T) :=
  state.devices[device]?.bind fun deviceState => deviceState.profiles[profile]?.map sect.get

def hasDpiBaseline (state : StateFile) (device : DeviceId) (profile : ProfileId) : Bool :=
  (state.resource .dpi device profile).any (·.hasEvidence)

/-- The stored value a delta may be merged into: desired before observed, and explicit defaults only where allowed. -/
def storedBaseline {T : Type} (resource : Option (ResourceState T)) (allowExplicitDefaults : Bool) : Option T :=
  resource.bind fun resource =>
    ((resource.desired.filter fun desired => allowExplicitDefaults || desired.source ≠ .explicitDefaults).map
      (·.value)).or (resource.observed.map (·.value))

/-- **The baseline of one section without a live read**: what is stored, or the captured image where allowed. -/
def loadStoredBaseline {T : Type} (sect : Section T) (name : String) (captured : ProfileId → Except ManagerError T)
    (device : DeviceId) (profile : ProfileId) (allowExplicitDefaults : Bool) : Manager T := do
  let state ← Manager.load
  match storedBaseline (state.resource sect device profile) allowExplicitDefaults with
  | some value => return value
  | none =>
    if allowExplicitDefaults then Fallible.ofExcept id (captured profile)
    else throw (.missingBaseline name (some profile))

def loadStoredDpiBaseline : DeviceId → ProfileId → Bool → Manager DpiState :=
  loadStoredBaseline .dpi "DPI" capturedEvidenceDpi

def loadStoredPreferencesBaseline : DeviceId → ProfileId → Bool → Manager PreferencesState :=
  loadStoredBaseline .preferences "preferences" fun profile => .ok (capturedEvidencePreferences profile)

def loadStoredButtonsBaseline : DeviceId → ProfileId → Bool → Manager ButtonsState :=
  loadStoredBaseline .buttons "buttons" fun profile => .ok (.defaultForProfile profile)

/-- **The baseline a delta is merged into**: stored over BLE, on USB as the policy says. -/
def resolveBaseline {T : Type} (transport : TransportKind) (policy : UpdatePolicy) (stored : Bool → Manager T)
    (live : Manager T) : Manager T :=
  match transport, policy.baseline with
  | .ble, _ => stored policy.allowExplicitDefaults
  | _, .live => live
  | _, .stored => stored false

/-- What a polling-rate write must find on the mouse. -/
structure CompleteDesiredImage where
  dpi : DpiState
  preferences : PreferencesState
  buttons : ButtonsState
deriving DecidableEq

/-- The desired value of a section, or the error that names it. -/
def requireDesired {T : Type} (resource : Option (ResourceState T)) (name : String) (profile : ProfileId) : Manager T :=
  Fallible.ofOption (.missingBaseline name (some profile)) (resource.bind fun r => r.desired.map (·.value))

def requireCompleteDesiredImage (device : DeviceId) (profile : ProfileId) : Manager CompleteDesiredImage := do
  let state ← Manager.load
  let deviceState ← Fallible.ofOption (.deviceNotFound device) state.devices[device]?
  let dpi ← requireDesired (state.resource .dpi device profile) "DPI" profile
  let preferences ← requireDesired (state.resource .preferences device profile) "preferences" profile
  let buttons ← requireDesired (state.resource .buttons device profile) "buttons" profile
  let metadata ← Fallible.ofOption (.missingBaseline "profile metadata" none)
    ((deviceState.profileMetadata.observed.map (·.value)).or (deviceState.profileMetadata.desired.map (·.value)))
  Fallible.ensure (metadata.current = profile) (.missingBaseline "profile metadata" none)
  return ⟨dpi, preferences, buttons⟩

/-! ## DPI writes -/

variable [Crc32fast]

/-- Sends a DPI image under the mouse's watermark and records it. -/
def writeDpiWithSession (device : DeviceId) (profile : ProfileId) (desired : DpiState) (physicalId : Option PhysicalId)
    (verification : VerificationMethod) (session : Session) : Manager (WriteOutcome DpiState) := do
  let stamped := withPhysicalWatermark desired physicalId
  let write ← session.writeDpi stamped verification
  let now ← Manager.now
  let outcome ← Manager.commit (.persistDpi device profile stamped write now)
  Fallible.ofExcept id (finishWrite outcome "DPI" profile)

/-- Over BLE a write needs a stored image, or permission to do without. -/
def requireBleBaseline (transport : TransportKind) (policy : UpdatePolicy) (device : DeviceId) (profile : ProfileId) :
    Manager Unit :=
  if transport = .ble ∧ policy.allowExplicitDefaults = false then do
    let state ← Manager.load
    Fallible.ensure (hasDpiBaseline state device profile) (.missingBaseline "DPI" (some profile))
  else pure ()

/-- **Writes a complete DPI image.** -/
def updateDpi (device : DeviceId) (profile : ProfileId) (desired : DpiState) (policy : UpdatePolicy) :
    Manager (WriteOutcome DpiState) := do
  Fallible.ensure (desired.profile = profile) (.invalidUpdate "DPI state profile does not match requested profile")
  let (identity, session) ← openLocked device "update_dpi"
  requireBleBaseline session.transport policy device profile
  writeDpiWithSession device profile desired identity.physicalId policy.verification session

/-- **Applies a sparse DPI update.** -/
def updateDpiDelta (device : DeviceId) (profile : ProfileId) (delta : DpiDelta) (policy : UpdatePolicy) :
    Manager (WriteOutcome DpiState) := do
  Fallible.ensure (delta.isEmpty = false) (.invalidUpdate "DPI delta must provide at least one field")
  let (identity, session) ← openLocked device "update_dpi_delta"
  let baseline ← resolveBaseline session.transport policy (loadStoredDpiBaseline device profile) (session.readDpi profile)
  let desired ← Fallible.ofExcept id (mergeDpiDelta baseline delta)
  writeDpiWithSession device profile desired identity.physicalId policy.verification session

/-! ## Composite updates -/

/-- Where a live baseline comes from: the draft's own image when there is one. -/
def liveBaseline {T : Type} (provided : Option ProfileUpdateBaseline) (get : ProfileUpdateBaseline → T)
    (read : Manager T) : Manager T :=
  match provided with
  | some baseline => pure (get baseline)
  | none => read

/-- A polling rate, set only on a mouse whose whole image is the desired one. -/
def applyPollingRate (device : DeviceId) (profile : ProfileId) (desiredRate : PollingRate) (policy : UpdatePolicy)
    (session : Session) : Manager ProfileUpdateOutcome := do
  Fallible.ensure (session.transport ≠ .ble) (.explicitAuthorizationRequired "update_polling_rate" .ble)
  let image ← requireCompleteDesiredImage device profile
  let snapshot ← session.readProfile profile
  Fallible.ensure (snapshot.persistentMetadata.current = profile) (.verificationMismatch "profile metadata" (some profile))
  Fallible.ensure (snapshot.dpi = image.dpi) (.missingBaseline "DPI" (some profile))
  Fallible.ensure (snapshot.preferences = image.preferences) (.missingBaseline "preferences" (some profile))
  Fallible.ensure (snapshot.buttons = image.buttons) (.missingBaseline "buttons" (some profile))
  let current ← session.readLivePollingRate profile
  let write ← (if current = desiredRate then pure (.readbackVerified current)
    else session.writePollingRateUnchecked profile desiredRate policy.verification : Manager (SessionWrite PollingRate))
  let now ← Manager.now
  let outcome ← Manager.commit (.persistPollingRate device profile desiredRate write now)
  let finished ← Fallible.ofExcept id (finishWrite outcome "polling rate" profile)
  return { pollingRate := some finished }

def applyDpiPart (device : DeviceId) (profile : ProfileId) (delta : DpiDelta) (physicalId : Option PhysicalId)
    (policy : UpdatePolicy) (provided : Option ProfileUpdateBaseline) (session : Session) :
    Manager (DpiState × SessionWrite DpiState) := do
  let baseline ← resolveBaseline session.transport policy (loadStoredDpiBaseline device profile)
    (liveBaseline provided (·.dpi) (session.readDpi profile))
  let desired ← Fallible.ofExcept id (mergeDpiDelta baseline delta)
  let desired := withPhysicalWatermark desired physicalId
  let write ← session.writeDpi desired policy.verification
  return (desired, write)

def applyPreferencesPart (device : DeviceId) (profile : ProfileId) (delta : PreferencesDelta) (policy : UpdatePolicy)
    (provided : Option ProfileUpdateBaseline) (session : Session) :
    Manager (PreferencesState × SessionWrite PreferencesState) := do
  let baseline ← resolveBaseline session.transport policy (loadStoredPreferencesBaseline device profile)
    (liveBaseline provided (·.preferences) (session.readPreferences profile))
  let desired := mergePreferencesDelta baseline delta
  let write ← session.writePreferences desired policy.verification
  return (desired, write)

def applyButtonsPart (device : DeviceId) (profile : ProfileId) (deltas : List ButtonSlotDelta) (policy : UpdatePolicy)
    (provided : Option ProfileUpdateBaseline) (session : Session) :
    Manager (ButtonsState × SessionWrite ButtonsState) := do
  let baseline ← resolveBaseline session.transport policy (loadStoredButtonsBaseline device profile)
    (liveBaseline provided (·.buttons) (session.readButtons profile))
  let desired := deltas.foldl ButtonsState.assign baseline
  let write ← session.writeButtons desired policy.verification
  return (desired, write)

/-- A part an update may leave out. -/
def optionally {D A : Type} (part : Option D) (apply : D → Manager A) : Manager (Option A) :=
  match part with
  | some d => return some (← apply d)
  | none => return none

/-- DPI, preferences and buttons over one session, recorded together. -/
def applyParts (device : DeviceId) (profile : ProfileId) (update : ProfileUpdate) (policy : UpdatePolicy)
    (provided : Option ProfileUpdateBaseline) (physicalId : Option PhysicalId) (session : Session) :
    Manager ProfileUpdateOutcome := do
  let dpi ← optionally update.dpi (applyDpiPart device profile · physicalId policy provided session)
  let preferences ← optionally update.preferences (applyPreferencesPart device profile · policy provided session)
  let buttons ← optionally (if update.buttons.isEmpty then none else some update.buttons)
    (applyButtonsPart device profile · policy provided session)
  let now ← Manager.now
  let outcome ← Manager.commit (.persistProfile device profile ⟨dpi, preferences, buttons⟩ now)
  let dpi ← optionally outcome.dpi fun out => Fallible.ofExcept id (finishWrite out "DPI" profile)
  let preferences ← optionally outcome.preferences fun out =>
    Fallible.ofExcept id (finishWrite out "preferences" profile)
  let buttons ← optionally outcome.buttons fun out => Fallible.ofExcept id (finishWrite out "buttons" profile)
  return { dpi, preferences, buttons }

def applyProfileUpdateInner (device : DeviceId) (profile : ProfileId) (update : ProfileUpdate) (policy : UpdatePolicy)
    (provided : Option ProfileUpdateBaseline) : Manager ProfileUpdateOutcome := do
  Fallible.ensure (update.isEmpty = false) (.invalidUpdate "profile update must provide at least one field")
  Fallible.ensure (¬ (update.hasPolling ∧ update.hasNonRate)) (.invalidUpdate
    "polling rate cannot be combined with DPI/preferences/buttons; it must be set on its own")
  Fallible.ensure (update.dpi.all (!·.isEmpty)) (.invalidUpdate "DPI delta must provide at least one field")
  Fallible.ensure (update.preferences.all (!·.isEmpty))
    (.invalidUpdate "preferences delta must provide at least one field")
  let (identity, session) ← openLocked device "apply_profile_update"
  match update.pollingRate with
  | some desiredRate => applyPollingRate device profile desiredRate policy session
  | none => applyParts device profile update policy provided identity.physicalId session

/-- **Applies a composite update.** -/
def applyProfileUpdate (device : DeviceId) (profile : ProfileId) (update : ProfileUpdate) (policy : UpdatePolicy) :
    Manager ProfileUpdateOutcome :=
  applyProfileUpdateInner device profile update policy none

/-- **Applies a draft against the image it was made from.** -/
def applyProfileUpdateFromSnapshot (device : DeviceId) (profile : ProfileId) (update : ProfileUpdate)
    (policy : UpdatePolicy) (baseline : ProfileUpdateBaseline) : Manager ProfileUpdateOutcome := do
  Fallible.ensure (baseline.dpi.profile = profile ∧ baseline.preferences.profile = profile ∧
      baseline.buttons.profile = profile)
    (.invalidUpdate s!"provided stored/profile copy does not target profile {profile.get}")
  applyProfileUpdateInner device profile update policy (some baseline)

end AttackSharkX3
