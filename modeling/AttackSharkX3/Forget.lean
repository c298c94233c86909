import AttackSharkX3.Rig
import AttackSharkX3.Valid
/-!
# Forget — removing a saved mouse

A mouse is removed from the devices and from the selection.  The remembered endpoints are left as they are, and the
validator wants every one of them to point at a saved mouse, so a mouse one of them points at cannot be removed.
-/
namespace AttackSharkX3

/-- A transaction of a caller that holds the state lock, on a store that never fails. -/
def StateFile.commit (original state : StateFile) : Except StateError Unit × StateFile :=
  if state = original then (.ok (), original)
  else match state.validate with
    | .ok () => (.ok (), state)
    | .error e => (.error e, original)

/-- The state without a mouse, and without its selection. -/
def StateFile.withoutDevice (state : StateFile) (device : DeviceId) : StateFile :=
  { state with
    devices := state.devices.erase device
    selectedDevice := if state.selectedDevice = some device then none else state.selectedDevice }

/-- **Removes a mouse**; one that carries evidence only when forced. -/
def forgetDevice (device : DeviceId) (force : Bool) (state : StateFile) : Except ManagerError Bool × StateFile :=
  match state.devices[device]? with
  | none => (.error (.deviceNotFound device), state)
  | some deviceState =>
    if deviceHasEvidence deviceState && !force then (.ok false, state)
    else
      let (result, after) := state.commit (state.withoutDevice device)
      (result.map (fun _ => true) |>.mapError .state, after)

/-- **The mouse is gone**: from the devices, the selection and the remembered endpoints, every other mouse as it was, and
the state valid. -/
structure Forgotten (state : StateFile) (device : DeviceId) (after : StateFile) : Prop where
  valid : after.validate = .ok ()
  gone : after.devices[device]? = none
  deselected : after.selectedDevice ≠ some device
  unmapped : ∀ key : String, after.endpointMapping.endpoints[key]? ≠ some device
  others : ∀ d, d ≠ device → after.devices[d]? = state.devices[d]?

namespace StateFile

variable {state : StateFile} {device : DeviceId}

theorem withoutDevice_of_ne {d : DeviceId} (h : d ≠ device) : (state.withoutDevice device).devices[d]? = state.devices[d]? := by
  have hne : compare device d ≠ .eq := fun heq => h (Std.compare_eq_iff_eq.1 heq).symm
  simp [withoutDevice, Std.ExtTreeMap.getElem?_erase, hne]

theorem withoutDevice_self : (state.withoutDevice device).devices[device]? = none := by
  simp [withoutDevice]

/-- What is left of the mice was there before. -/
theorem of_withoutDevice {d : DeviceId} {deviceState : DeviceState}
    (h : (state.withoutDevice device).devices[d]? = some deviceState) :
    d ≠ device ∧ state.devices[d]? = some deviceState := by
  by_cases hd : d = device
  · subst hd
    rw [withoutDevice_self] at h
    cases h
  · rw [withoutDevice_of_ne hd] at h
    exact ⟨hd, h⟩

theorem contains_withoutDevice {d : DeviceId} (h : d ≠ device) :
    (state.withoutDevice device).devices.contains d = state.devices.contains d := by
  rw [Std.ExtTreeMap.contains_eq_isSome_getElem?, Std.ExtTreeMap.contains_eq_isSome_getElem?, withoutDevice_of_ne h]

theorem validateIdentityMode_withoutDevice (h : state.validateIdentityMode = .ok ()) :
    (state.withoutDevice device).validateIdentityMode = .ok () := by
  cases hmode : state.identityMode with
  | legacy =>
    have hafter : (state.withoutDevice device).identityMode = .legacy := hmode
    unfold validateIdentityMode at h ⊢
    simp only [hmode, hafter, then_ok, check_ok, forM_toList_ok] at h ⊢
    obtain ⟨hsize, htokens⟩ := h
    refine ⟨Nat.le_trans Std.ExtTreeMap.size_erase_le hsize, ?_⟩
    intro d deviceState hd
    exact htokens d deviceState (of_withoutDevice hd).2
  | persistent =>
    have hafter : (state.withoutDevice device).identityMode = .persistent := hmode
    rw [validateIdentityMode_persistent hmode] at h
    rw [validateIdentityMode_persistent hafter]
    obtain ⟨htokens, hone⟩ := h
    have hkept : ∀ {d A}, physicalIdOf (state.withoutDevice device) d = some A → physicalIdOf state d = some A := by
      intro d A hA
      obtain ⟨deviceState, hd, hA⟩ := of_physicalIdOf hA
      rw [physicalIdOf_eq (of_withoutDevice hd).2, hA]
    refine ⟨?_, ?_⟩
    · intro d deviceState hd
      have hsome := htokens d deviceState (of_withoutDevice hd).2
      rw [physicalIdOf_eq (of_withoutDevice hd).2] at hsome
      rw [physicalIdOf_eq hd]
      exact hsome
    · intro d d' A hA hA'
      exact hone d d' A (hkept hA) (hkept hA')

/-- **A valid state is valid without a mouse** when no ceremony runs and no remembered endpoint points at the mouse. -/
theorem validate_withoutDevice (hv : state.validate = .ok ()) (hsetup : state.identitySetup = none)
    (hmapped : ∀ key : String, state.endpointMapping.endpoints[key]? ≠ some device) :
    (state.withoutDevice device).validate = .ok () := by
  obtain ⟨hschema, hnext, hmax, hselected, hdevices, hmode, -, hmapping⟩ := validate_ok.1 hv
  refine validate_ok.2 ⟨hschema, hnext, ?_, ?_, ?_, validateIdentityMode_withoutDevice hmode, ?_, ?_⟩
  · rw [maxNumber_lt] at hmax ⊢
    refine ⟨hmax.1, ?_⟩
    intro d deviceState hd k hk
    exact hmax.2 d deviceState (of_withoutDevice hd).2 k hk
  · rw [validateSelected_ok] at hselected ⊢
    intro d hd
    have hd' : (if state.selectedDevice = some device then none else state.selectedDevice) = some d := hd
    split at hd'
    · cases hd'
    · next hother =>
      have hne : d ≠ device := fun heq => hother (heq ▸ hd')
      rw [contains_withoutDevice hne]
      exact hselected d hd'
  · rw [forM_toList_ok] at hdevices ⊢
    intro d deviceState hd
    exact hdevices d deviceState (of_withoutDevice hd).2
  · have hafter : (state.withoutDevice device).identitySetup = none := hsetup
    unfold validateSetup
    rw [hafter]
  · rw [validateEndpointMapping_ok] at hmapping ⊢
    refine ⟨?_, hmapping.2⟩
    intro key d hd
    have hne : d ≠ device := fun heq => hmapped key (heq ▸ hd)
    rw [contains_withoutDevice hne]
    exact hmapping.1 key d hd

end StateFile

/-- **A forced removal succeeds exactly when no remembered endpoint points at the mouse.** -/
theorem forgets_iff {state : StateFile} {device : DeviceId} {deviceState : DeviceState}
    (hv : state.validate = .ok ()) (hsetup : state.identitySetup = none) (hd : state.devices[device]? = some deviceState) :
    ((forgetDevice device true state).1 = .ok true ∧ Forgotten state device (forgetDevice device true state).2) ↔
      ∀ key : String, state.endpointMapping.endpoints[key]? ≠ some device := by
  have hchanged : state.withoutDevice device ≠ state := by
    intro heq
    have hgone := @StateFile.withoutDevice_self state device
    rw [heq, hd] at hgone
    cases hgone
  have hforget : forgetDevice device true state =
      ((state.commit (state.withoutDevice device)).1.map (fun _ => true) |>.mapError .state,
        (state.commit (state.withoutDevice device)).2) := by
    unfold forgetDevice
    simp [hd]
  constructor
  · rintro ⟨hok, hforgotten⟩ key hkey
    -- The mapping is untouched, so an entry for the mouse is still there.
    have hmapping : (forgetDevice device true state).2.endpointMapping = state.endpointMapping := by
      rw [hforget]
      unfold StateFile.commit
      rw [if_neg hchanged]
      split <;> rfl
    have hunmapped := hforgotten.unmapped key
    rw [hmapping] at hunmapped
    exact hunmapped hkey
  · intro hmapped
    have hvalid := StateFile.validate_withoutDevice hv hsetup hmapped
    have hcommit : state.commit (state.withoutDevice device) = (.ok (), state.withoutDevice device) := by
      unfold StateFile.commit
      rw [if_neg hchanged, hvalid]
    rw [hforget, hcommit]
    refine ⟨rfl, hvalid, StateFile.withoutDevice_self, ?_, hmapped, fun d hne => StateFile.withoutDevice_of_ne hne⟩
    intro hselected
    have hselected : (if state.selectedDevice = some device then none else state.selectedDevice) = some device := hselected
    split at hselected
    · cases hselected
    · next hother => exact hother hselected

namespace Rig

/-- A saved mouse no endpoint is remembered for. -/
def keeping : StateFile := saved [(mouse1, token 1, wired "a")]

/-- The mouse after its endpoint was answered for. -/
def answered : StateFile := (Txn.rememberResolution (wired "a") mouse1 ⟨0⟩).after keeping

theorem forgets_keeping :
    keeping.validate = .ok () ∧ (forgetDevice mouse1 true keeping).1 = .ok true ∧
      Forgotten keeping mouse1 (forgetDevice mouse1 true keeping).2 := by
  have hv : keeping.validate = .ok () := by decide
  have hd : keeping.devices[mouse1]?.isSome := by decide
  obtain ⟨deviceState, hd⟩ := Option.isSome_iff_exists.1 hd
  have hmapped : ∀ key : String, keeping.endpointMapping.endpoints[key]? ≠ some mouse1 := by
    intro key
    simp [keeping, saved, StateFile.default]
  exact ⟨hv, (forgets_iff hv rfl hd).2 hmapped⟩

/-- Once its endpoint is remembered, a mouse is not removed. -/
theorem forgets_not_answered :
    answered.validate = .ok () ∧ answered.identitySetup = none ∧ answered.devices.contains mouse1 = true ∧
      (forgetDevice mouse1 true answered).1 ≠ .ok true ∧ (forgetDevice mouse1 true answered).2 = answered := by
  decide

end Rig
end AttackSharkX3
