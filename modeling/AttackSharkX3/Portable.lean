import AttackSharkX3.Records
/-!
# Portable — configurations that travel without their mouse

An export carries values only.  The tail of a DPI image stays behind, since it is the watermark of one physical mouse, and
an import takes it from the evidence of the mouse it is for.  Imports and the other calls of a caller's own are explicit
transactions: one that fails is dropped.
-/
namespace AttackSharkX3

/-! ## Explicit transactions -/

/-- **What a caller's own transaction may answer, and the state it leaves.**  The closure works on a copy, which is dropped
when the closure fails. -/
inductive Transacts {A : Type} (body : StateFile → Except ManagerError (A × StateFile)) (state : StateFile) :
    Except ManagerError A → StateFile → Prop where
  | dropped {e} (fails : body state = .error e) : Transacts body state (.error e) state
  | unchanged {a} (same : body state = .ok (a, state)) : Transacts body state (.ok a) state
  | stored {a after} (gives : body state = .ok (a, after)) (valid : after.validate = .ok ()) :
      Transacts body state (.ok a) after
  | rejected {a after e} (gives : body state = .ok (a, after)) (invalid : after.validate = .error e) :
      Transacts body state (.error (.state e)) state
  /-- The lock was busy, or reading or writing failed before the replacement. -/
  | failed (e : StateError) : Transacts body state (.error (.state e)) state
  /-- The replacement happened, and syncing its directory failed. -/
  | unsynced {a after} (e : StateError) (gives : body state = .ok (a, after)) (valid : after.validate = .ok ()) :
      Transacts body state (.error (.state e)) after

/-- **A transaction leaves the state as it was, or as its closure left it and checked.** -/
theorem Transacts.cases {A : Type} {body : StateFile → Except ManagerError (A × StateFile)} {state state' : StateFile}
    {r : Except ManagerError A} (h : Transacts body state r state') :
    state' = state ∨ ∃ a, body state = .ok (a, state') ∧ state'.validate = .ok () := by
  cases h with
  | dropped _ | unchanged _ | rejected _ _ | failed _ => exact .inl rfl
  | stored gives valid | unsynced _ gives valid => exact .inr ⟨_, gives, valid⟩

/-- One that was answered left what its closure leaves. -/
theorem Transacts.of_ok {A : Type} {body : StateFile → Except ManagerError (A × StateFile)} {state state' : StateFile}
    {a : A} (h : Transacts body state (.ok a) state') : body state = .ok (a, state') := by
  cases h with
  | unchanged same => exact same
  | stored gives _ => exact gives

/-! ## Documents -/

/-- A DPI image without its tail. -/
structure PortableDpi where
  profile : ProfileId
  stages : List DpiValue
  activeStage : StageIndex
  sensor : SensorOptions
deriving DecidableEq

def PortableDpi.fromDpiState (state : DpiState) : PortableDpi := ⟨state.profile, state.stages, state.activeStage, state.sensor⟩

/-- The values of one profile. -/
structure ProfileConfiguration where
  dpi : Option PortableDpi := none
  preferences : Option PreferencesState := none
  buttons : Option ButtonsState := none
  pollingRate : Option PollingRate := none
deriving DecidableEq

/-- **A portable configuration**: values by profile, and the names of profile slots. -/
structure ConfigurationExport where
  profiles : BTreeMap ProfileId ProfileConfiguration
  profileNames : BTreeMap ProfileId String
deriving DecidableEq

/-- A profile without any value. -/
def ProfileConfiguration.isEmpty (configuration : ProfileConfiguration) : Bool :=
  configuration.dpi.isNone && configuration.preferences.isNone && configuration.buttons.isNone &&
    configuration.pollingRate.isNone

/-- The values for one profile, if there are any. -/
def ConfigurationExport.configured (configuration : ConfigurationExport) (profile : ProfileId) : ProfileConfiguration :=
  configuration.profiles[profile]?.getD {}

/-! ## Export -/

/-- The desired value, or the observed one where nothing is desired. -/
def valueForExport {T : Type} (resource : ResourceState T) : Option T :=
  (resource.desired.map (·.value)).or (resource.observed.map (·.value))

/-- What is exported of one profile. -/
def ProfileState.configuration (profile : ProfileState) : ProfileConfiguration where
  dpi := (valueForExport profile.dpi).map .fromDpiState
  preferences := valueForExport profile.preferences
  buttons := valueForExport profile.buttons
  pollingRate := valueForExport profile.pollingRate

/-- **Exports the values of a mouse**; profiles without any are left out. -/
def exportConfiguration (device : DeviceId) (state : StateFile) : Except ManagerError ConfigurationExport :=
  match state.devices[device]? with
  | none => .error (.deviceNotFound device)
  | some deviceState => .ok {
    profiles := deviceState.profiles.filterMap fun _ profile =>
      if profile.configuration.isEmpty then none else some profile.configuration
    profileNames := deviceState.profileNames }

/-! ## Import -/

/-- The portable values over the tail of the mouse's own image. -/
def mergePortableDpi (portable : PortableDpi) (baseline : DpiState) : Except ManagerError DpiState :=
  match DpiState.new portable.profile portable.stages portable.activeStage baseline.preservedTail with
  | .ok state => .ok (state.withSensor portable.sensor)
  | .error e => .error (.protocol "dpi state" e)

/-- The name as it is stored, if it is not blank. -/
def normalizeProfileName (name : String) : Except ManagerError (Option String) :=
  if trim name = "" then .ok none
  else if MAX_PROFILE_NAME_CHARS < (trim name).toList.length then
    .error (.invalidUpdate s!"profile name exceeds {MAX_PROFILE_NAME_CHARS} Unicode scalar values")
  else .ok (some (trim name))

def invalidProfileValue (resource : String) (profile : ProfileId) : ManagerError :=
  .invalidUpdate s!"{resource} configuration targets a different profile than {profile.get}"

/-- Stages are checked with any tail. -/
def validatePortableDpi (dpi : PortableDpi) : Except ManagerError Unit :=
  match DpiState.new dpi.profile dpi.stages dpi.activeStage ⟨List.replicate 25 0, rfl⟩ with
  | .ok _ => .ok ()
  | .error e => .error (.protocol "dpi state" e)

def validateProfileConfiguration (profile : ProfileId) (values : ProfileConfiguration) : Except ManagerError Unit := do
  values.dpi.toList.forM fun dpi => do
    if dpi.profile ≠ profile then throw (invalidProfileValue "DPI" profile)
    validatePortableDpi dpi
  if values.preferences.any (·.profile ≠ profile) then throw (invalidProfileValue "preferences" profile)
  if values.buttons.any (·.profile ≠ profile) then throw (invalidProfileValue "buttons" profile)

/-- What an import checks of the document alone. -/
def validateConfiguration (configuration : ConfigurationExport) : Except ManagerError Unit := do
  configuration.profiles.toList.forM fun entry => validateProfileConfiguration entry.1 entry.2
  configuration.profileNames.values.forM fun name => do
    let _ ← normalizeProfileName name

/-- A section with a value imported, if there is one. -/
def ResourceState.imported {T : Type} (resource : ResourceState T) (value : Option T) (now : Timestamp) : ResourceState T :=
  match value with
  | some value => resource.setImported value now
  | none => resource

/-- **One profile imported.**  The document has no tail to give, so an image needs one on record. -/
def importProfile (profile : ProfileId) (values : ProfileConfiguration) (now : Timestamp) (profileState : ProfileState) :
    Except ManagerError ProfileState := do
  let dpi ← values.dpi.mapM fun portable =>
    match valueForExport profileState.dpi with
    | none => .error (.missingBaseline "DPI" (some profile))
    | some baseline => mergePortableDpi portable baseline
  return {
    dpi := profileState.dpi.imported dpi now
    preferences := profileState.preferences.imported values.preferences now
    buttons := profileState.buttons.imported values.buttons now
    pollingRate := profileState.pollingRate.imported values.pollingRate now }

/-- Each profile of the document in turn. -/
def importProfiles (now : Timestamp) : List (ProfileId × ProfileConfiguration) → BTreeMap ProfileId ProfileState →
    Except ManagerError (BTreeMap ProfileId ProfileState)
  | [], profiles => .ok profiles
  | (profile, values) :: rest, profiles => do
    let profileState ← importProfile profile values now (profiles[profile]?.getD .empty)
    importProfiles now rest (profiles.insert profile profileState)

/-- Each name of the document in turn; a blank one clears its slot. -/
def importNames : List (ProfileId × String) → BTreeMap ProfileId String → Except ManagerError (BTreeMap ProfileId String)
  | [], names => .ok names
  | (profile, name) :: rest, names => do
    match ← normalizeProfileName name with
    | some name => importNames rest (names.insert profile name)
    | none => importNames rest (names.erase profile)

/-- **The counter past a key that is brought in from outside.** -/
def StateFile.reserveNumber (state : StateFile) (id : DeviceId) : Except ManagerError StateFile :=
  match id.number with
  | some num =>
    if state.nextDeviceNumber ≤ num then
      if num + 1 < 2 ^ 64 then .ok { state with nextDeviceNumber := num + 1 }
      else .error (.state (.invalidState "nextDeviceNumber overflow"))
    else .ok state
  | none => .ok state

/-- The body of an import. -/
def importInto (identity : DeviceIdentity) (configuration : ConfigurationExport) (now : Timestamp) (state : StateFile) :
    Except ManagerError (Unit × StateFile) := do
  let state ← state.reserveNumber identity.id
  let deviceState := { state.devices[identity.id]?.getD (.new identity) with identity }
  let profiles ← importProfiles now configuration.profiles.toList deviceState.profiles
  let profileNames ← importNames configuration.profileNames.toList deviceState.profileNames
  return ((), { state with
    devices := state.devices.insert identity.id { deviceState with profiles, profileNames }
    selectedDevice := state.selectedDevice.or (some identity.id) })

/-- **Imports a configuration** for a mouse the caller names. -/
def importConfiguration (identity : DeviceIdentity) (configuration : ConfigurationExport) (now : Timestamp)
    (state : StateFile) (result : Except ManagerError Unit) (state' : StateFile) : Prop :=
  match validateConfiguration configuration with
  | .error e => result = .error e ∧ state' = state
  | .ok () => Transacts (importInto identity configuration now) state result state'

end AttackSharkX3
