import Mathlib.Data.List.Pairwise
import AttackSharkX3.Validate
/-!
# Valid — what a valid state has

The validator walks the document and stops at the first failure, so its success is the conjunction of its checks.
-/
namespace AttackSharkX3

theorem forM_ok {E α : Type} {f : α → Except E Unit} : ∀ {l : List α}, l.forM f = .ok () ↔ ∀ a ∈ l, f a = .ok ()
  | [] => by simp [List.forM, pure, Except.pure]
  | a :: l => by
    have hcons : (a :: l).forM f = (do f a; l.forM f) := rfl
    rw [hcons, StateFile.then_ok, forM_ok]
    simp

theorem forM_toList_ok {E K V : Type} [Ord K] [Std.TransOrd K] [Std.LawfulEqOrd K] {m : BTreeMap K V}
    {f : K × V → Except E Unit} : m.toList.forM f = .ok () ↔ ∀ k v, m[k]? = some v → f (k, v) = .ok () := by
  rw [forM_ok]
  constructor
  · intro h k v hkv
    exact h (k, v) (Std.ExtTreeMap.mem_toList_iff_getElem?_eq_some.2 hkv)
  · rintro h ⟨k, v⟩ hkv
    exact h k v (Std.ExtTreeMap.mem_toList_iff_getElem?_eq_some.1 hkv)

section Evidence

variable {T : Type}

/-- **What a claim about a desired value rests on.** -/
def ResourceState.Supported (resource : ResourceState T) : Prop :=
  ∀ desired, resource.desired = some desired → match desired.verification.application with
    | .notSent | .acknowledged => desired.verification.persistence = .unknown
    | .readbackVerified => ∃ observed, resource.observed = some observed ∧ desired.value = observed.value ∧
        desired.updatedAt.unixSeconds ≤ observed.observedAt.unixSeconds ∧
        ∀ at_ ∈ desired.verification.persistence.verifiedAt, observed.observedAt.unixSeconds ≤ at_.unixSeconds
    | .mismatch => ∃ observed, resource.observed = some observed ∧
        ¬ (desired.value = observed.value ∧ desired.updatedAt.unixSeconds ≤ observed.observedAt.unixSeconds) ∧
        desired.verification.persistence = .unknown

theorem validateResourceState_ok [DecidableEq T] {resource : ResourceState T} {ctx : String} :
    validateResourceState resource ctx = .ok () ↔ resource.Supported := by
  unfold validateResourceState ResourceState.Supported
  cases hdesired : resource.desired with
  | none => simp
  | some desired =>
    simp only [Option.some.injEq, forall_eq']
    cases happlication : desired.verification.application with
    | notSent | acknowledged => exact check_ok ..
    | readbackVerified | mismatch =>
      cases hobserved : resource.observed with
      | none => simp
      | some observed => simp [StateFile.then_ok]

/-- A section stored under a profile names it, and its claims are supported. -/
def ResourceState.Under (resource : ResourceState T) (profileOf : T → ProfileId) (p : ProfileId) : Prop :=
  (∀ desired, resource.desired = some desired → profileOf desired.value = p) ∧
    (∀ observed, resource.observed = some observed → profileOf observed.value = p) ∧ resource.Supported

theorem validateProfileResource_ok [DecidableEq T] {p : ProfileId} {resource : ResourceState T} {name : String}
    {profileOf : T → ProfileId} :
    validateProfileResource p resource name profileOf = .ok () ↔ resource.Under profileOf p := by
  unfold validateProfileResource ResourceState.Under
  rw [StateFile.then_ok, check_ok, validateResourceState_ok]
  simp [and_assoc]

/-- **A stored profile names itself in every section**, and its claims are supported. -/
structure ProfileState.Under (profile : ProfileState) (p : ProfileId) : Prop where
  dpi : profile.dpi.Under (·.profile) p
  preferences : profile.preferences.Under (·.profile) p
  buttons : profile.buttons.Under (·.profile) p
  pollingRate : profile.pollingRate.Supported

theorem validateProfile_ok {ctx rateCtx : String} {p : ProfileId} {profile : ProfileState} :
    validateProfile ctx rateCtx p profile = .ok () ↔ profile.Under p := by
  unfold validateProfile
  simp only [StateFile.then_ok, validateProfileResource_ok, validateResourceState_ok]
  exact ⟨fun ⟨hdpi, hpreferences, hbuttons, hrate⟩ => ⟨hdpi, hpreferences, hbuttons, hrate⟩,
    fun h => ⟨h.dpi, h.preferences, h.buttons, h.pollingRate⟩⟩

theorem validateCapturedProfileImage_ok {image : CapturedProfileImage} {ctx : String} :
    validateCapturedProfileImage image ctx = .ok () ↔
      image.profileMetadata.Supported ∧ ∀ (p : ProfileId) (profile : ProfileState), image.profiles[p]? = some profile → profile.Under p := by
  unfold validateCapturedProfileImage
  rw [StateFile.then_ok, validateResourceState_ok, forM_toList_ok]
  simp only [validateProfile_ok]

theorem validateDevice_ok {d : DeviceId} {device : DeviceState} : validateDevice d device = .ok () ↔
    device.identity.id = d ∧ device.identity.validate = .ok () ∧ device.profileMetadata.Supported ∧
      (∀ (p : ProfileId) (profile : ProfileState), device.profiles[p]? = some profile → profile.Under p) ∧
      ∀ (p : ProfileId) (name : String), device.profileNames[p]? = some name → validateProfileName d p name = .ok () := by
  unfold validateDevice
  simp only [StateFile.then_ok, check_ok, validateResourceState_ok, forM_toList_ok, validateProfile_ok]

end Evidence

theorem foldl_max_lt {n : Nat} : ∀ {l : List Nat} {a : Nat}, l.foldl max a < n ↔ a < n ∧ ∀ x ∈ l, x < n
  | [], a => by simp
  | x :: l, a => by
    rw [List.foldl_cons, foldl_max_lt, Nat.max_lt]
    simp [and_assoc]

/-- Every device has a token, and no two the same, nor one seen before. -/
theorem validatePhysicalIds_ok : ∀ {l : List (DeviceId × DeviceState)} {seen : List PhysicalId},
    validatePhysicalIds l seen = .ok () ↔
      (∀ e ∈ l, ∃ A, e.2.identity.physicalId = some A ∧ A ∉ seen) ∧
        l.Pairwise fun a b => a.2.identity.physicalId ≠ b.2.identity.physicalId
  | [], _ => by simp [validatePhysicalIds]
  | (d, device) :: l, seen => by
    unfold validatePhysicalIds
    cases hA : device.identity.physicalId with
    | none => simp [hA]
    | some A =>
      by_cases hseen : A ∈ seen
      · simp [hA, hseen]
      · simp only [hseen, if_false]
        rw [validatePhysicalIds_ok, List.pairwise_cons]
        constructor
        · rintro ⟨hall, hdistinct⟩
          refine ⟨?_, ?_, hdistinct⟩
          · intro e he
            rcases List.mem_cons.1 he with rfl | he
            · exact ⟨A, hA, hseen⟩
            · obtain ⟨B, hB, hnot⟩ := hall e he
              exact ⟨B, hB, fun h => hnot (List.mem_cons_of_mem _ h)⟩
          · intro e he heq
            obtain ⟨B, hB, hnot⟩ := hall e he
            have hAB : A = B := by simpa [hA, hB] using heq
            exact hnot (hAB ▸ List.mem_cons_self ..)
        · rintro ⟨hall, hfirst, hdistinct⟩
          refine ⟨?_, hdistinct⟩
          intro e he
          obtain ⟨B, hB, hnot⟩ := hall e (List.mem_cons_of_mem _ he)
          refine ⟨B, hB, ?_⟩
          intro hmem
          rcases List.mem_cons.1 hmem with rfl | hmem
          · exact hfirst e he (hA.trans hB.symm)
          · exact hnot hmem

namespace StateFile

variable {state : StateFile} {d d' : DeviceId} {device : DeviceState} {A : PhysicalId}

theorem valid_device (hv : state.validate = .ok ()) (hd : state.devices[d]? = some device) :
    validateDevice d device = .ok () :=
  forM_toList_ok.1 (validate_ok.1 hv).2.2.2.2.1 d device hd

theorem valid_identity (hv : state.validate = .ok ()) (hd : state.devices[d]? = some device) :
    device.identity.id = d :=
  (validateDevice_ok.1 (valid_device hv hd)).1

/-- The next number is past every number in use. -/
theorem maxNumber_lt {n : Nat} : state.maxNumber < n ↔
    0 < n ∧ ∀ (d : DeviceId) (device : DeviceState), state.devices[d]? = some device → ∀ k, d.number = some k → k < n := by
  unfold maxNumber
  rw [foldl_max_lt]
  refine and_congr_right fun _ => ⟨?_, ?_⟩
  · intro h d device hd k hk
    exact h k (List.mem_filterMap.2 ⟨d, BTreeMap.mem_keys_iff.2 ⟨device, hd⟩, hk⟩)
  · intro h k hk
    obtain ⟨d, hd, hk⟩ := List.mem_filterMap.1 hk
    obtain ⟨device, hd⟩ := BTreeMap.mem_keys_iff.1 hd
    exact h d device hd k hk

theorem validateSelected_ok : state.validateSelected = .ok () ↔
    ∀ d, state.selectedDevice = some d → state.devices.contains d = true := by
  unfold validateSelected
  cases state.selectedDevice <;> simp

/-- **Every remembered endpoint points at a saved mouse.** -/
theorem validateEndpointMapping_ok : state.validateEndpointMapping = .ok () ↔
    (∀ (key : String) (d : DeviceId), state.endpointMapping.endpoints[key]? = some d →
      isBlank key = false ∧ state.devices.contains d = true) ∧
    ∀ (key : String) seen, state.endpointMapping.lastSeenUnixSeconds[key]? = some seen →
      state.endpointMapping.endpoints.contains key = true := by
  unfold validateEndpointMapping
  simp only [then_ok, forM_toList_ok, check_ok]

theorem of_physicalIdOf (h : physicalIdOf state d = some A) :
    ∃ device, state.devices[d]? = some device ∧ device.identity.physicalId = some A :=
  Option.bind_eq_some_iff.1 h

theorem physicalIdOf_eq (h : state.devices[d]? = some device) : physicalIdOf state d = device.identity.physicalId := by
  simp [physicalIdOf, h]

/-- **In persistent mode every mouse has a token, and one token belongs to one mouse.** -/
theorem validateIdentityMode_persistent (hmode : state.identityMode = .persistent) :
    state.validateIdentityMode = .ok () ↔ (∀ d device, state.devices[d]? = some device → (physicalIdOf state d).isSome) ∧
      ∀ d d' A, physicalIdOf state d = some A → physicalIdOf state d' = some A → d = d' := by
  have hsymm : Std.Symm fun a b : DeviceId × DeviceState => a.2.identity.physicalId ≠ b.2.identity.physicalId :=
    ⟨fun _ _ h => h.symm⟩
  unfold validateIdentityMode
  simp only [hmode]
  rw [validatePhysicalIds_ok]
  constructor
  · rintro ⟨hall, hdistinct⟩
    refine ⟨?_, ?_⟩
    · intro d device hd
      obtain ⟨A, hA, -⟩ := hall (d, device) (Std.ExtTreeMap.mem_toList_iff_getElem?_eq_some.2 hd)
      rw [physicalIdOf_eq hd]
      exact Option.isSome_iff_exists.2 ⟨A, hA⟩
    · intro d d' A hA hA'
      obtain ⟨device, hd, hdA⟩ := of_physicalIdOf hA
      obtain ⟨device', hd', hdA'⟩ := of_physicalIdOf hA'
      by_contra hne
      have hmem := Std.ExtTreeMap.mem_toList_iff_getElem?_eq_some.2 hd
      have hmem' := Std.ExtTreeMap.mem_toList_iff_getElem?_eq_some.2 hd'
      exact hdistinct.forall hmem hmem' (fun heq => hne (Prod.mk.inj heq).1) (hdA.trans hdA'.symm)
  · rintro ⟨hall, hone⟩
    refine ⟨?_, ?_⟩
    · rintro ⟨d, device⟩ he
      have hd := Std.ExtTreeMap.mem_toList_iff_getElem?_eq_some.1 he
      obtain ⟨A, hA⟩ := Option.isSome_iff_exists.1 (hall d device hd)
      exact ⟨A, physicalIdOf_eq hd ▸ hA, List.not_mem_nil⟩
    · refine (BTreeMap.distinct_toList state.devices).imp_of_mem ?_
      rintro ⟨d, device⟩ ⟨d', device'⟩ he he' hne heq
      have hd := Std.ExtTreeMap.mem_toList_iff_getElem?_eq_some.1 he
      have hd' := Std.ExtTreeMap.mem_toList_iff_getElem?_eq_some.1 he'
      obtain ⟨A, hA⟩ := Option.isSome_iff_exists.1 (hall d device hd)
      refine hne (hone d d' A hA ?_)
      rw [physicalIdOf_eq hd', ← heq, ← physicalIdOf_eq hd, hA]

theorem valid_physicalId (hv : state.validate = .ok ()) (hmode : state.identityMode = .persistent)
    (hd : state.devices[d]? = some device) : ∃ A, physicalIdOf state d = some A :=
  Option.isSome_iff_exists.1 (((validateIdentityMode_persistent hmode).1 (validate_ok.1 hv).2.2.2.2.2.1).1 d device hd)

theorem physicalIdOf_inj (hv : state.validate = .ok ()) (hmode : state.identityMode = .persistent)
    (hA : physicalIdOf state d = some A) (hA' : physicalIdOf state d' = some A) : d = d' :=
  ((validateIdentityMode_persistent hmode).1 (validate_ok.1 hv).2.2.2.2.2.1).2 d d' A hA hA'

end StateFile
end AttackSharkX3
