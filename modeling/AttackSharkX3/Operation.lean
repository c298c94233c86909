import AttackSharkX3.Validate
/-!
# Operation — what the manager's calls take and answer

Update policies and deltas, discovery rows and their resolution, and ceremonies as a frontend sees them.
`resolveEndpoint` is the decision tree for a connection no token resolves.
-/
namespace AttackSharkX3

/-! ## Updates -/

inductive VerificationMethod where
  | transport
  | readback
deriving DecidableEq

inductive BaselineSource where
  | live
  | stored
deriving DecidableEq

structure UpdatePolicy where
  allowExplicitDefaults : Bool := false
  verification : VerificationMethod := .transport
  baseline : BaselineSource := .live
deriving DecidableEq

/-- The requested value and the evidence its write produced. -/
structure WriteOutcome (T : Type) where
  desired : T
  observed : Option T
  verification : Verification
deriving DecidableEq

structure SensorOptionsDelta where
  liftOffDistance : Option LiftOffDistance := none
  rippleControl : Option Bool := none
  angleSnap : Option Bool := none
  motionSync : Option Bool := none
deriving DecidableEq

def SensorOptionsDelta.isEmpty (delta : SensorOptionsDelta) : Bool :=
  delta.liftOffDistance.isNone && delta.rippleControl.isNone && delta.angleSnap.isNone && delta.motionSync.isNone

/-- A sparse DPI update. -/
structure DpiDelta where
  stages : Option (List DpiValue) := none
  activeStage : Option StageIndex := none
  sensor : Option SensorOptionsDelta := none
deriving DecidableEq

def DpiDelta.isEmpty (delta : DpiDelta) : Bool :=
  delta.stages.isNone && delta.activeStage.isNone && delta.sensor.all (·.isEmpty)

/-- A sparse preferences update. -/
structure PreferencesDelta where
  lightMode : Option UInt8 := none
  configuration : Option UInt8 := none
  deepSleep : Option UInt8 := none
  hostColor : Option (Bytes 3) := none
  sleepTimer : Option UInt8 := none
  debounce : Option UInt8 := none
deriving DecidableEq

def PreferencesDelta.isEmpty (delta : PreferencesDelta) : Bool :=
  delta.lightMode.isNone && delta.configuration.isNone && delta.deepSleep.isNone && delta.hostColor.isNone &&
    delta.sleepTimer.isNone && delta.debounce.isNone

/-- The button slots an update may name. -/
inductive SafeButtonSlot where
  | left
  | right
  | middle
  | dpi
  | forward
  | backward
deriving DecidableEq

def SafeButtonSlot.index : SafeButtonSlot → Nat
  | left => 0
  | right => 1
  | middle => 2
  | dpi => 3
  | forward => 6
  | backward => 7

theorem SafeButtonSlot.index_lt (slot : SafeButtonSlot) : slot.index < BUTTON_SLOT_COUNT := by
  cases slot <;> decide

/-- The actions an update may bind. -/
inductive SafeButtonAction where
  | disable | leftClick | rightClick | middleClick | backward | forward | doubleClick | fireButton | scrollUp | scrollDown
  | dpiCycle | dpiPlus | dpiMinus | profileCycle | profilePlus | profileMinus | mediaPlayer | previousTrack | nextTrack
  | playPause | stop | mute | volumeUp | volumeDown | calculator | email | browserForward | browserBackward | browserStop
  | myComputer | browserRefresh | browserHome | browserSearch | browserFavorites | cut | copy | paste | open_ | save
  | find | redo | selectAll | print | closeWindow | swapWindows | showDesktop | runCommand | lockPc | screenCapture
deriving DecidableEq

namespace SafeButtonAction

/-- The firmware byte of an action; the shortcut presets share one. -/
def firmwareByte : SafeButtonAction → UInt8
  | disable => 0x01 | leftClick => 0x02 | rightClick => 0x03 | middleClick => 0x04 | backward => 0x05
  | forward => 0x06 | doubleClick => 0x07 | fireButton => 0x08 | scrollUp => 0x09 | scrollDown => 0x0a
  | dpiCycle => 0x0d | dpiPlus => 0x0e | dpiMinus => 0x0f | profileCycle => 0x34 | profilePlus => 0x35
  | profileMinus => 0x36 | mediaPlayer => 0x15 | previousTrack => 0x16 | nextTrack => 0x17 | playPause => 0x18
  | stop => 0x19 | mute => 0x1a | volumeUp => 0x1b | volumeDown => 0x1c | calculator => 0x1d | email => 0x1e
  | browserForward => 0x20 | browserBackward => 0x21 | browserStop => 0x22 | myComputer => 0x23
  | browserRefresh => 0x24 | browserHome => 0x25 | browserSearch => 0x26
  | browserFavorites | cut | copy | paste | open_ | save | find | redo | selectAll | print | closeWindow | swapWindows
  | showDesktop | runCommand | lockPc | screenCapture => 0x11

def toAssignment : SafeButtonAction → ButtonAssignment
  | cut => ⟨0x11, 0x01, 0x1b⟩
  | copy => ⟨0x11, 0x01, 0x06⟩
  | paste => ⟨0x11, 0x01, 0x19⟩
  | open_ => ⟨0x11, 0x01, 0x12⟩
  | save => ⟨0x11, 0x01, 0x16⟩
  | find => ⟨0x11, 0x01, 0x09⟩
  | redo => ⟨0x11, 0x01, 0x1c⟩
  | selectAll => ⟨0x11, 0x01, 0x04⟩
  | print => ⟨0x11, 0x01, 0x13⟩
  | closeWindow => ⟨0x11, 0x04, 0x3d⟩
  | swapWindows => ⟨0x11, 0x04, 0x2b⟩
  | showDesktop => ⟨0x11, 0x08, 0x07⟩
  | runCommand => ⟨0x11, 0x08, 0x15⟩
  | lockPc => ⟨0x11, 0x08, 0x0f⟩
  | screenCapture => ⟨0x11, 0x0a, 0x16⟩
  | browserFavorites => ⟨0x11, 0x03, 0x12⟩
  | action => ⟨action.firmwareByte, 0, 0⟩

end SafeButtonAction

structure ButtonSlotDelta where
  slot : SafeButtonSlot
  action : SafeButtonAction
deriving DecidableEq

/-- A composite update of one profile. -/
structure ProfileUpdate where
  dpi : Option DpiDelta := none
  preferences : Option PreferencesDelta := none
  buttons : List ButtonSlotDelta := []
  pollingRate : Option PollingRate := none
deriving DecidableEq

namespace ProfileUpdate

def isEmpty (update : ProfileUpdate) : Bool :=
  update.dpi.isNone && update.preferences.isNone && update.buttons.isEmpty && update.pollingRate.isNone

def hasNonRate (update : ProfileUpdate) : Bool :=
  update.dpi.isSome || update.preferences.isSome || !update.buttons.isEmpty

def hasPolling (update : ProfileUpdate) : Bool := update.pollingRate.isSome

end ProfileUpdate

/-- The image a frontend's draft was made from. -/
structure ProfileUpdateBaseline where
  dpi : DpiState
  preferences : PreferencesState
  buttons : ButtonsState
deriving DecidableEq

structure ProfileUpdateOutcome where
  dpi : Option (WriteOutcome DpiState) := none
  preferences : Option (WriteOutcome PreferencesState) := none
  buttons : Option (WriteOutcome ButtonsState) := none
  pollingRate : Option (WriteOutcome PollingRate) := none
deriving DecidableEq

/-! ## Discovery -/

/-- A listed connection, before any association. -/
structure DiscoveredEndpoint where
  endpoint : DeviceEndpoint
  connected : Bool
deriving DecidableEq

structure DiscoveredDevice where
  identity : DeviceIdentity
  connected : Bool
  transports : List TransportKind
deriving DecidableEq

/-- Why a connection belongs to no logical mouse. -/
inductive UnassociatedReason where
  | absent
  | malformed
  | unsupported (version : UInt8)
  | unknown
  | duplicate
  | reserved
  | reservedByJournal
deriving DecidableEq

inductive IdentityResolution where
  | resolved (identity : DeviceId)
  | unassociated (reason : UnassociatedReason) (physicalId : Option PhysicalId)
deriving DecidableEq

structure ResolvedConnection where
  endpoint : DeviceEndpoint
  connected : Bool
  resolution : IdentityResolution
deriving DecidableEq

structure DiscoveryView where
  mode : IdentityMode
  devices : List DiscoveredDevice
  connections : List ResolvedConnection
deriving DecidableEq

/-- A saved mouse an unknown connection may belong to. -/
structure Candidate where
  identity : DeviceId
  displayName : Option String
  lastTransport : Option TransportKind
  lastSeenUnixSeconds : Option Int
  hasStoredState : Bool
deriving DecidableEq

/-- What to do with a connection no token resolves. -/
inductive Resolution where
  | silentAttach (attachTo : DeviceId) (keepStoredSettings : Bool)
  | askNewOrMine (candidate : Candidate)
  | askWhich (candidates : List Candidate)
  | setupFirst
deriving DecidableEq

/-- **The decision tree for one connection.**  A known fingerprint attaches to the first candidate. -/
def resolveEndpoint (fingerprintKnown : Bool) (simultaneousCount : Nat) (transport : TransportKind)
    (candidates : List Candidate) (hasStoredState : Bool) : Resolution :=
  if fingerprintKnown then
    match candidates with
    | only :: _ => .silentAttach only.identity hasStoredState
    | [] => .setupFirst
  else if 2 ≤ simultaneousCount then
    match transport, candidates with
    | .ble, [only] =>
      if !hasStoredState && !only.hasStoredState then .askNewOrMine only else .askWhich candidates
    | _, [] => .setupFirst
    | _, _ => .askWhich candidates
  else
    match transport with
    | .wired | .receiver =>
      match candidates with
      | [] => .setupFirst
      | [only] => .silentAttach only.identity (hasStoredState || only.hasStoredState)
      | _ => .askWhich candidates
    | .ble =>
      match candidates with
      | [] => .setupFirst
      | [only] => if hasStoredState || only.hasStoredState then .silentAttach only.identity true else .askNewOrMine only
      | _ => .askWhich candidates

/-! ## Ceremonies -/

inductive IdentityCeremonyKind where
  | initialEnrollment
  | addMouse
  | restore
  | foreignAdoption
  | bleAssociation
deriving DecidableEq

inductive IdentityCeremonyStage where
  | ready
  | awaitingReconnect
  | capturing
  | stamping
  | verified
  | complete
  | cancelled
  | failed (error : String)
deriving DecidableEq

/-- What a frontend shows of a running ceremony. -/
structure IdentityCeremonyProgress where
  kind : IdentityCeremonyKind
  stage : IdentityCeremonyStage
  step : Option Nat
  totalSteps : Option Nat
  identity : Option DeviceId
  physicalId : Option PhysicalId
  endpoint : Option DeviceEndpoint
deriving DecidableEq

inductive IdentityCeremonyAction where
  | begin (kind : IdentityCeremonyKind)
  | reconnected
  | capture
  | stamp
  | adopt
  | associate
  | acceptMigration
  | skipMigration
  | cancel
deriving DecidableEq

end AttackSharkX3
