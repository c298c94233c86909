import AttackSharkX3.Forget
import AttackSharkX3.Portable
/-!
# Managed — the calls that only change the store

Registering, naming and selecting a mouse are transactions of the caller's own, as imports are.  None of them opens a
session.
-/
namespace AttackSharkX3

/-- A mouse that is saved is changed. -/
def changeDevice (device : DeviceId) (change : DeviceState → DeviceState) (state : StateFile) :
    Except ManagerError (Unit × StateFile) :=
  match state.devices[device]? with
  | none => .error (.deviceNotFound device)
  | some deviceState => .ok ((), { state with devices := state.devices.insert device (change deviceState) })

/-- **Registers a mouse**; one that is saved already stays as it is. -/
def registerDevice (identity : DeviceIdentity) (state : StateFile) : Except ManagerError (Unit × StateFile) := do
  let state ← state.reserveNumber identity.id
  return ((), { state with
    devices := state.devices.insertIfNew identity.id (.new identity)
    selectedDevice := state.selectedDevice.or (some identity.id) })

/-- A removal, as a transaction: a mouse with evidence is left, unless forced. -/
def removeDevice (device : DeviceId) (force : Bool) (state : StateFile) : Except ManagerError (Bool × StateFile) :=
  match state.devices[device]? with
  | none => .error (.deviceNotFound device)
  | some deviceState =>
    if deviceHasEvidence deviceState && !force then .ok (false, state) else .ok (true, state.withoutDevice device)

/-- On a store that never fails this is the removal. -/
theorem transacts_forgetDevice (device : DeviceId) (force : Bool) (state : StateFile) :
    Transacts (removeDevice device force) state (forgetDevice device force state).1 (forgetDevice device force state).2 := by
  cases hdevice : state.devices[device]? with
  | none =>
    have hforget : forgetDevice device force state = (.error (.deviceNotFound device), state) := by simp [forgetDevice, hdevice]
    rw [hforget]
    exact .dropped (by simp [removeDevice, hdevice])
  | some deviceState =>
    by_cases hkept : (deviceHasEvidence deviceState && !force) = true
    · have hforget : forgetDevice device force state = (.ok false, state) := by simp [forgetDevice, hdevice, hkept]
      rw [hforget]
      exact .unchanged (by simp [removeDevice, hdevice, hkept])
    · have hforget : forgetDevice device force state =
          ((state.commit (state.withoutDevice device)).1.map (fun _ => true) |>.mapError .state,
            (state.commit (state.withoutDevice device)).2) := by simp [forgetDevice, hdevice, hkept]
      have hbody : removeDevice device force state = .ok (true, state.withoutDevice device) := by
        simp [removeDevice, hdevice, hkept]
      rw [hforget]
      unfold StateFile.commit
      by_cases hsame : state.withoutDevice device = state
      · rw [if_pos hsame]
        exact .unchanged (hbody.trans (by rw [hsame]))
      · rw [if_neg hsame]
        cases hvalid : (state.withoutDevice device).validate with
        | ok _ => exact .stored hbody hvalid
        | error e => exact .rejected hbody hvalid

/-- Sets the display name; a blank name clears it. -/
def renameDevice (device : DeviceId) (name : String) : StateFile → Except ManagerError (Unit × StateFile) :=
  changeDevice device fun deviceState => { deviceState with identity := { deviceState.identity with
    displayName := if trim name = "" then none else some (trim name) } }

def removeProfileName (device : DeviceId) (profile : ProfileId) : StateFile → Except ManagerError (Unit × StateFile) :=
  changeDevice device fun deviceState => { deviceState with profileNames := deviceState.profileNames.erase profile }

/-- Names a profile slot; a blank name clears it. -/
def setProfileName (device : DeviceId) (profile : ProfileId) (name : String) (state : StateFile) :
    Except ManagerError (Unit × StateFile) :=
  match normalizeProfileName name with
  | .error e => .error e
  | .ok none => removeProfileName device profile state
  | .ok (some name) => changeDevice device
      (fun deviceState => { deviceState with profileNames := deviceState.profileNames.insert profile name }) state

/-- Drops the persistence claims of a profile. -/
def ProfileState.invalidatePersistence (profile : ProfileState) : ProfileState where
  dpi := profile.dpi.invalidatePersistence
  preferences := profile.preferences.invalidatePersistence
  buttons := profile.buttons.invalidatePersistence
  pollingRate := profile.pollingRate.invalidatePersistence

/-- Drops the persistence claims of a mouse. -/
def invalidateState (device : DeviceId) : StateFile → Except ManagerError (Unit × StateFile) :=
  changeDevice device fun deviceState => { deviceState with
    profileMetadata := deviceState.profileMetadata.invalidatePersistence
    profiles := deviceState.profiles.map fun _ profile => profile.invalidatePersistence }

/-- Selects a saved mouse. -/
def selectDevice (device : DeviceId) (state : StateFile) : Except ManagerError (Unit × StateFile) :=
  if state.devices.contains device then .ok ((), { state with selectedDevice := some device })
  else .error (.deviceNotFound device)

/-- Prefers a transport for a saved mouse. -/
def setPreferredTransport (device : DeviceId) (transport : TransportKind) :
    StateFile → Except ManagerError (Unit × StateFile) :=
  changeDevice device fun deviceState => { deviceState with identity := { deviceState.identity with
    preferredTransport := some transport } }

end AttackSharkX3
