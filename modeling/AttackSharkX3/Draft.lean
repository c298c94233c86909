import AttackSharkX3.Reads
import AttackSharkX3.Report.Dpi
import AttackSharkX3.Surface
import AttackSharkX3.Update
/-!
# Draft — what a frontend loads of a mouse, and what it applies

The worker loads one profile: live over USB, and over BLE what is stored, or the stock image.  A draft holds the values that
are shown; applying it sends what differs from the loaded image, section by section, and the polling rate by itself.
-/
namespace AttackSharkX3

open Effects (Fallible)

/-! ## Values -/

def ProfileId.new (value : UInt8) : Option ProfileId := if h : 1 ≤ value ∧ value ≤ 5 then some ⟨value, h⟩ else none

def StageIndex.new (value : UInt8) : Option StageIndex := if h : 1 ≤ value ∧ value ≤ 8 then some ⟨value, h⟩ else none

namespace PollingRate

def new : UInt16 → Option PollingRate
  | 125 => some .hz125
  | 250 => some .hz250
  | 500 => some .hz500
  | 1000 => some .hz1000
  | _ => none

def hz : PollingRate → UInt16
  | hz125 => 125
  | hz250 => 250
  | hz500 => 500
  | hz1000 => 1000

end PollingRate

/-- The stages the stock application's reset writes. -/
def CAPTURED_STOCK_RESET_STAGES : List DpiValue :=
  [⟨800, DpiValue.range_800⟩, ⟨1600, DpiValue.range_1600⟩, ⟨2400, by decide⟩, ⟨3200, by decide⟩, ⟨5000, by decide⟩, ⟨26000, by decide⟩]

def DpiState.capturedStockReset (profile : ProfileId) : Except ProtocolError DpiState :=
  DpiState.new profile CAPTURED_STOCK_RESET_STAGES ⟨2, StageIndex.two_range⟩ CAPTURED_EMPTY_PROFILE_TAIL

def PreferencesState.capturedStockReset (profile : ProfileId) : PreferencesState where
  profile
  lightMode := 0x00
  configuration := 0x03
  deepSleep := 0xa8
  hostColor := ⟨[0x00, 0x00, 0xff], rfl⟩
  sleepTimer := 0x01
  debounce := 0x04

/-! ## What is shown -/

def SAFE_BUTTON_SLOTS : List SafeButtonSlot := [.left, .right, .middle, .dpi, .forward, .backward]

def MAX_DPI_STAGES : Nat := 8

def isBleIdentity (identity : DeviceIdentity) : Bool := identity.selectedTransport = some .ble

def liftOffChoiceValue (choice : UInt8) : LiftOffDistance := if choice = 0 then .oneMillimeter else .twoMillimeters

def SHORTCUT_PRESETS : List (ButtonAssignment × String) :=
  [(⟨0x11, 0x03, 0x12⟩, "browser favorites"), (⟨0x11, 0x01, 0x1b⟩, "cut"), (⟨0x11, 0x01, 0x06⟩, "copy"),
    (⟨0x11, 0x01, 0x19⟩, "paste"), (⟨0x11, 0x01, 0x12⟩, "open"), (⟨0x11, 0x01, 0x16⟩, "save"),
    (⟨0x11, 0x01, 0x09⟩, "find"), (⟨0x11, 0x01, 0x1c⟩, "redo"), (⟨0x11, 0x01, 0x04⟩, "select all"),
    (⟨0x11, 0x01, 0x13⟩, "print"), (⟨0x11, 0x04, 0x3d⟩, "close window"), (⟨0x11, 0x04, 0x2b⟩, "swap windows"),
    (⟨0x11, 0x08, 0x07⟩, "show desktop"), (⟨0x11, 0x08, 0x15⟩, "run command"), (⟨0x11, 0x08, 0x0f⟩, "lock pc"),
    (⟨0x11, 0x0a, 0x16⟩, "screen capture")]

def shortcutPresetName (assignment : ButtonAssignment) : Option String :=
  (SHORTCUT_PRESETS.find? (·.1 = assignment)).map (·.2)

def ACTION_NAMES : List (UInt8 × String) :=
  [(0x01, "disabled"), (0x02, "left click"), (0x03, "right click"), (0x04, "middle click"), (0x05, "backward"),
    (0x06, "forward"), (0x07, "double click"), (0x08, "fire button"), (0x09, "scroll up"), (0x0a, "scroll down"),
    (0x0d, "dpi cycle"), (0x0e, "dpi plus"), (0x0f, "dpi minus"), (0x15, "media player"), (0x16, "previous track"),
    (0x17, "next track"), (0x18, "play/pause"), (0x19, "stop"), (0x1a, "mute"), (0x1b, "volume up"),
    (0x1c, "volume down"), (0x1d, "calculator"), (0x1e, "email"), (0x20, "browser forward"), (0x21, "browser backward"),
    (0x22, "browser stop"), (0x23, "my computer"), (0x24, "browser refresh"), (0x25, "browser home"),
    (0x26, "browser search"), (0x34, "profile cycle"), (0x35, "profile plus"), (0x36, "profile minus")]

/-- **The name of an assignment**, one for all that have none of their own. -/
def buttonActionName (assignment : ButtonAssignment) : String :=
  match shortcutPresetName assignment with
  | some name => name
  | none =>
    if assignment.modifier ≠ 0 ∨ assignment.keyCode ≠ 0 then "unsupported assignment"
    else ((ACTION_NAMES.find? (·.1 = assignment.action)).map (·.2)).getD "unsupported assignment"

def SAFE_ACTIONS : List (String × SafeButtonAction) :=
  [("disabled", .disable), ("left click", .leftClick), ("right click", .rightClick), ("middle click", .middleClick),
    ("backward", .backward), ("forward", .forward), ("double click", .doubleClick), ("dpi cycle", .dpiCycle),
    ("dpi plus", .dpiPlus), ("dpi minus", .dpiMinus), ("profile cycle", .profileCycle), ("profile plus", .profilePlus),
    ("profile minus", .profileMinus), ("fire button", .fireButton), ("scroll up", .scrollUp), ("scroll down", .scrollDown),
    ("media player", .mediaPlayer), ("previous track", .previousTrack), ("next track", .nextTrack),
    ("play/pause", .playPause), ("stop", .stop), ("mute", .mute), ("volume up", .volumeUp), ("volume down", .volumeDown),
    ("calculator", .calculator), ("email", .email), ("browser forward", .browserForward),
    ("browser backward", .browserBackward), ("browser stop", .browserStop), ("my computer", .myComputer),
    ("browser refresh", .browserRefresh), ("browser home", .browserHome), ("browser search", .browserSearch),
    ("browser favorites", .browserFavorites), ("cut", .cut), ("copy", .copy), ("paste", .paste), ("open", .open_),
    ("save", .save), ("find", .find), ("redo", .redo), ("select all", .selectAll), ("print", .print),
    ("close window", .closeWindow), ("swap windows", .swapWindows), ("show desktop", .showDesktop),
    ("run command", .runCommand), ("lock pc", .lockPc), ("screen capture", .screenCapture)]

def safeButtonAction (name : String) : Option SafeButtonAction := (SAFE_ACTIONS.find? (·.1 = name)).map (·.2)

/-- An action that can be named is shown under that name. -/
theorem buttonActionName_toAssignment {name : String} {action : SafeButtonAction} (h : safeButtonAction name = some action) :
    buttonActionName action.toAssignment = name := by
  have hall : ∀ entry ∈ SAFE_ACTIONS, buttonActionName entry.2.toAssignment = entry.1 := by decide +kernel
  obtain ⟨entry, hfind, rfl⟩ := Option.map_eq_some_iff.1 h
  rw [hall entry (List.mem_of_find?_eq_some hfind)]
  have hname := List.find?_some hfind
  exact of_decide_eq_true hname

/-- **The nearest DPI the sensor supports.**  The source divides and rounds in `f32`, which is exact enough for 16 bits. -/
def roundDpiStep (value : UInt16) : UInt16 := .ofNat (max 1 (min 520 ((value.toNat + 25) / 50)) * 50)

/-- A DPI the sensor supports is not rounded. -/
theorem roundDpiStep_get (value : DpiValue) : roundDpiStep value.get = value.get := by
  obtain ⟨get, hlow, hhigh, hstep⟩ := value
  apply UInt16.toNat.inj
  have hlow' : 50 ≤ get.toNat := UInt16.le_iff_toNat_le.1 hlow
  have hhigh' : get.toNat ≤ 26000 := UInt16.le_iff_toNat_le.1 hhigh
  have hstep' : get.toNat % 50 = 0 := by
    have h := congrArg UInt16.toNat hstep
    rwa [UInt16.toNat_mod] at h
  simp only [roundDpiStep, UInt16.toNat_ofNat']
  omega

/-! ## Loading -/

structure ProfileData where
  dpi : DpiState
  preferences : PreferencesState
  buttons : ButtonsState
deriving DecidableEq

/-- **What the worker holds of a mouse.** -/
structure LoadedDevice where
  device : DeviceId
  identity : DeviceIdentity
  metadata : ProfileMetadata
  profile : ProfileData
  pollingRate : PollingRate
  battery : Option UInt8
  pollingRateReady : Bool
  allProfilesObserved : Bool
  hasStoredPreferences : Bool
  profileNames : BTreeMap ProfileId String

/-- The stored desired value, or the observed one. -/
def storedValue {T : Type} (resource : ResourceState T) : Option T :=
  (resource.desired.map (·.value)).or (resource.observed.map (·.value))

def profileNamesOf (device : DeviceId) : Manager (BTreeMap ProfileId String) := do
  let state ← Manager.load
  let deviceState ← Fallible.ofOption (.deviceNotFound device) state.devices[device]?
  return deviceState.profileNames

def deviceIdentityOf (device : DeviceId) : Manager DeviceIdentity := do
  let state ← Manager.load
  let deviceState ← Fallible.ofOption (.deviceNotFound device) state.devices[device]?
  return deviceState.identity

/-- What is shown of a profile over BLE: what is stored, or the stock image. -/
def storedProfileData (profileState : Option ProfileState) (working : ProfileId) (stockDpi : DpiState) : ProfileData where
  dpi := (profileState.bind fun profile => storedValue profile.dpi).getD stockDpi
  preferences := (profileState.bind fun profile => storedValue profile.preferences).getD (.capturedStockReset working)
  buttons := (profileState.bind fun profile => storedValue profile.buttons).getD (.defaultForProfile working)

/-- **The BLE view of a mouse**, which is never read back. -/
def readBleLoaded (status : DeviceStatus) (requested : Option ProfileId) : Manager LoadedDevice := do
  let identity := status.identity
  let working := requested.getD .MIN_ID
  let state ← Manager.load
  let profileState := state.devices[identity.id]?.bind fun device => device.profiles[working]?
  let stockDpi ← Manager.expect "captured stock DPI must be valid" (DpiState.capturedStockReset working).toOption
  let metadata ← Manager.expect "valid metadata" (ProfileMetadata.new working .MAX_ID).toOption
  let names ← Manager.attempt (profileNamesOf identity.id)
  return {
    device := identity.id
    identity
    metadata
    profile := storedProfileData profileState working stockDpi
    pollingRate := (profileState.bind fun profile => storedValue profile.pollingRate).getD .hz1000
    battery := status.battery
    pollingRateReady := false
    allProfilesObserved := false
    hasStoredPreferences := profileState.any fun profile =>
      profile.preferences.desired.isSome || profile.preferences.observed.isSome
    profileNames := names.toOption.getD ∅ }

def hasCompleteProfileObservations (state : StateFile) (device : DeviceId) : Bool :=
  match state.devices[device]? with
  | none => false
  | some deviceState => (ProfileId.upTo .MAX_ID).all fun profile => deviceState.profiles[profile]?.any fun profileState =>
      profileState.dpi.observed.isSome && profileState.preferences.observed.isSome &&
        profileState.buttons.observed.isSome && profileState.pollingRate.observed.isSome

variable [Crc32fast]

/-- **Loads a profile of a mouse.** -/
def readLoaded (device : DeviceId) (requested : Option ProfileId) : Manager LoadedDevice := do
  let identity ← deviceIdentityOf device
  if isBleIdentity identity then
    let status ← readStatus device
    readBleLoaded status requested
  else
    let live ← readLiveProfile device requested
    let target := live.profile.targetProfile
    let state ← Manager.load
    let names ← Manager.attempt (profileNamesOf device)
    return {
      device
      identity := live.identity
      metadata := live.profileMetadata
      profile := ⟨live.profile.dpi, live.profile.preferences, live.profile.buttons⟩
      pollingRate := live.pollingRate
      battery := live.battery
      pollingRateReady := (state.devices[device]?.bind fun deviceState => deviceState.profiles[target]?).any fun profile =>
        profile.dpi.desired.isSome && profile.preferences.desired.isSome && profile.buttons.desired.isSome
      allProfilesObserved := hasCompleteProfileObservations state device
      hasStoredPreferences := true
      profileNames := names.toOption.getD ∅ }

/-! ## Drafts -/

inductive VerificationChoice where
  | transport
  | readback
deriving DecidableEq

inductive BaselineChoice where
  | live
  | stored
deriving DecidableEq

/-- **The values a frontend shows**, as the user left them. -/
structure Draft where
  profile : UInt8
  dpiValues : List UInt16
  activeStage : UInt8
  buttons : List String
  liftOffChoice : UInt8
  rippleControl : Bool
  angleSnap : Bool
  motionSync : Bool
  rawConfiguration : UInt8
  rawDeepSleep : UInt8
  rawSleepTimer : UInt8
  rawDebounce : UInt8
  pollingRateHz : UInt16
  verification : VerificationChoice
  baseline : BaselineChoice
  allowExplicitDefaults : Bool
deriving DecidableEq

namespace Draft

def policy (draft : Draft) (isBle : Bool) : UpdatePolicy where
  allowExplicitDefaults := draft.allowExplicitDefaults
  verification := if isBle then .transport else match draft.verification with
    | .transport => .transport
    | .readback => .readback
  baseline := if isBle then .stored else match draft.baseline with
    | .live => .live
    | .stored => .stored

/-- The shown sensor options. -/
def sensor (draft : Draft) : SensorOptions :=
  ⟨liftOffChoiceValue draft.liftOffChoice, draft.rippleControl, draft.angleSnap, draft.motionSync⟩

def sensorDelta (draft : Draft) (sensor : SensorOptions) : SensorOptionsDelta where
  liftOffDistance := if sensor.liftOffDistance ≠ liftOffChoiceValue draft.liftOffChoice then
    some (liftOffChoiceValue draft.liftOffChoice) else none
  rippleControl := if sensor.rippleControl ≠ draft.rippleControl then some draft.rippleControl else none
  angleSnap := if sensor.angleSnap ≠ draft.angleSnap then some draft.angleSnap else none
  motionSync := if sensor.motionSync ≠ draft.motionSync then some draft.motionSync else none

/-- The shown stages, on the sensor's steps. -/
def requestedDpi (draft : Draft) : List UInt16 := draft.dpiValues.map roundDpiStep

def dpiChanged (draft : Draft) (dpi : DpiState) : Bool :=
  dpi.stages.map (·.get) ≠ draft.requestedDpi || dpi.activeStage.get ≠ draft.activeStage

def validDpi (value : UInt16) : Except String DpiValue :=
  match DpiValue.new value with
  | some value => .ok value
  | none => .error s!"invalid DPI value {value}"

/-- What differs from the loaded DPI image. -/
def dpiDelta (draft : Draft) (dpi : DpiState) : Except String (Option DpiDelta) := do
  let sensorDelta := draft.sensorDelta dpi.sensor
  if !draft.dpiChanged dpi && sensorDelta.isEmpty then return none
  else
    let stages ← (if draft.dpiChanged dpi then do
        let stages ← draft.requestedDpi.mapM validDpi
        .ok (some stages)
      else .ok none : Except String (Option (List DpiValue)))
    let activeStage ← (if draft.dpiChanged dpi then
        match StageIndex.new draft.activeStage with
        | some stage => .ok (some stage)
        | none => .error "invalid active DPI stage"
      else .ok none : Except String (Option StageIndex))
    let delta : DpiDelta := ⟨stages, activeStage, if sensorDelta.isEmpty then none else some sensorDelta⟩
    return if delta.isEmpty then none else some delta

def changedPreferences (draft : Draft) (preferences : PreferencesState) : PreferencesDelta where
  configuration := if preferences.configuration ≠ draft.rawConfiguration then some draft.rawConfiguration else none
  deepSleep := if preferences.deepSleep ≠ draft.rawDeepSleep then some draft.rawDeepSleep else none
  sleepTimer := if preferences.sleepTimer ≠ draft.rawSleepTimer then some draft.rawSleepTimer else none
  debounce := if preferences.debounce ≠ draft.rawDebounce then some draft.rawDebounce else none

/-- What differs from the loaded preferences. -/
def preferencesDelta (draft : Draft) (preferences : PreferencesState) : Option PreferencesDelta :=
  if (draft.changedPreferences preferences).isEmpty then none else some (draft.changedPreferences preferences)

/-- The name a slot of the loaded table is shown under. -/
def shownAction (buttons : ButtonsState) (slot : SafeButtonSlot) : String :=
  buttonActionName (buttons.slots.get ⟨slot.index, by rw [buttons.slotCount]; exact slot.index_lt⟩)

/-- The slots whose name was changed, each with its new action. -/
def buttonDeltas (buttons : ButtonsState) : List SafeButtonSlot → List String → Except String (List ButtonSlotDelta)
  | slot :: slots, requested :: rest =>
    if shownAction buttons slot ≠ requested then
      match safeButtonAction requested with
      | some action => do
        let deltas ← buttonDeltas buttons slots rest
        return ⟨slot, action⟩ :: deltas
      | none => .error s!"unsupported button action {debugString requested}; nothing was changed"
    else buttonDeltas buttons slots rest
  | _, _ => return []

/-- The stages that are shown can be those of a mouse. -/
def checkStages (draft : Draft) : Except String Unit :=
  if draft.dpiValues.isEmpty ∨ MAX_DPI_STAGES < draft.dpiValues.length then
    .error s!"the draft has {draft.dpiValues.length} DPI stages; the mouse supports 1..={MAX_DPI_STAGES}; nothing was changed"
  else if draft.activeStage = 0 ∨ draft.dpiValues.length < draft.activeStage.toNat then
    .error "the active DPI stage isn't one of the configured stages; nothing was changed"
  else .ok ()

def requestedRate (draft : Draft) : Except String PollingRate :=
  match PollingRate.new draft.pollingRateHz with
  | some rate => .ok rate
  | none => .error "unsupported polling rate"

/-- **The updates a draft makes**: the sections together, and the polling rate by itself. -/
def updates (draft : Draft) (current : LoadedDevice) : Except String (ProfileUpdate × Option PollingRate) := do
  draft.checkStages
  let dpi ← draft.dpiDelta current.profile.dpi
  let preferences := draft.preferencesDelta current.profile.preferences
  let buttons ← buttonDeltas current.profile.buttons SAFE_BUTTON_SLOTS draft.buttons
  let requestedRate ← draft.requestedRate
  return ({ dpi, preferences, buttons }, if requestedRate ≠ current.pollingRate then some requestedRate else none)

end Draft

/-- The image a draft was made from. -/
def LoadedDevice.baseline (current : LoadedDevice) : ProfileUpdateBaseline :=
  ⟨current.profile.dpi, current.profile.preferences, current.profile.buttons⟩

/-- The result of a call, its error as the worker words it. -/
def wording {α : Type} (context : String) (call : Manager α) : Manager (Except String α) := do
  let result ← Manager.attempt call
  return result.mapError (formatErrorString context)

/-- **Applies a draft** against the image it was made from. -/
def applyDraft (current : LoadedDevice) (draft : Draft) : Manager (Except String (String × ProfileId)) :=
  match ProfileId.new draft.profile with
  | none => pure (.error "draft profile is outside the fixed device range")
  | some profile =>
    if profile ≠ current.metadata.current then
      pure (.error "draft targets a profile that is no longer current; reload before applying")
    else
      match draft.updates current with
      | .error e => pure (.error e)
      | .ok (nonRate, pollingRate) =>
        if !nonRate.hasNonRate && pollingRate.isNone then
          pure (.ok ("no changes to apply; the mouse is already up to date", profile))
        else do
          let policy := draft.policy (isBleIdentity current.identity)
          let applied ← (if nonRate.hasNonRate then wording "apply failed" (applyProfileUpdateFromSnapshot current.device
              profile nonRate policy current.baseline)
            else pure (.ok {}) : Manager (Except String ProfileUpdateOutcome))
          match applied, pollingRate with
          | .error e, _ => return .error e
          | .ok _, none => return .ok ("Saved.", profile)
          | .ok _, some rate => do
            let applied ← wording "polling-rate apply failed"
              (applyProfileUpdate current.device profile { pollingRate := some rate } policy)
            return applied.map fun _ => ("Saved.", profile)

end AttackSharkX3
