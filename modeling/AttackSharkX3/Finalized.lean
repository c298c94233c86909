import AttackSharkX3.Journal
import AttackSharkX3.Numbers
import AttackSharkX3.Stages
/-!
# Finalized — the mice a finished ceremony leaves

Finalization makes one mouse of every subject, or rotates the bound one: it carries the subject's token and the captured
profiles.  The keys of an enrollment are distinct because each allocation moves the next number on.
-/
namespace AttackSharkX3

open Mutation (apply_bind apply_get apply_modify apply_lift apply_pure apply_orError_some)

/-! ## Keys -/

/-- An allocated key is named by a number not used yet, and the next number is past it. -/
theorem allocateFrom_number : ∀ (fuel : Nat) (state : StateFile) {id : DeviceId} {state' : StateFile},
    StateFile.allocateFrom fuel state = (.ok id, state') →
      ∃ number, DeviceId.fromNumber number = .ok id ∧ state.nextDeviceNumber ≤ number ∧ number < state'.nextDeviceNumber
  | 0, _, _, _, h => by cases h
  | fuel + 1, state, id, state', h => by
    unfold StateFile.allocateFrom at h
    split at h
    · cases h
    · next candidate hc =>
      dsimp only at h
      split at h
      · cases h
      split at h
      · obtain ⟨number, hn, hle, hlt⟩ := allocateFrom_number fuel _ h
        exact ⟨number, hn, Nat.le_of_succ_le hle, hlt⟩
      · cases h
        exact ⟨_, hc, Nat.le_refl _, Nat.lt_succ_self _⟩

/-- **The keys of an enrollment are as many as asked for, and distinct.** -/
theorem allocateDeviceIds_ok : ∀ (n : Nat) (state : StateFile) {ids : List DeviceId} {state' : StateFile},
    (allocateDeviceIds n).apply state = (.ok ids, state') → ids.length = n ∧ ids.Nodup ∧
      ∀ id ∈ ids, ∃ number, DeviceId.fromNumber number = .ok id ∧ state.nextDeviceNumber ≤ number
  | 0, _, _, _, h => by
    cases h
    exact ⟨rfl, List.nodup_nil, fun _ h => absurd h List.not_mem_nil⟩
  | n + 1, state, ids, state', h => by
    simp only [allocateDeviceIds, apply_bind, apply_lift, StateFile.allocateDeviceId] at h
    cases ha : StateFile.allocateFrom (state.devices.size + 1) state with
    | mk r state₁ =>
      rw [ha] at h
      cases r with
      | error e => cases h
      | ok id =>
        simp only [Except.mapError] at h
        cases hb : (allocateDeviceIds n).apply state₁ with
        | mk r' state₂ =>
          rw [hb] at h
          cases r' with
          | error e => cases h
          | ok rest =>
            cases h
            obtain ⟨number, hn, hle, hlt⟩ := allocateFrom_number _ _ ha
            obtain ⟨hlen, hnodup, hall⟩ := allocateDeviceIds_ok n state₁ hb
            refine ⟨by rw [List.length_cons, hlen], List.nodup_cons.2 ⟨fun hmem => ?_, hnodup⟩, fun id' hmem => ?_⟩
            · obtain ⟨number', hn', hle'⟩ := hall id hmem
              have := DeviceId.fromNumber_inj hn hn'
              omega
            · rcases List.mem_cons.1 hmem with rfl | hmem
              · exact ⟨number, hn, hle⟩
              · obtain ⟨number', hn', hle'⟩ := hall id' hmem
                exact ⟨number', hn', by omega⟩

/-! ## Mice -/

/-- A device of the state carries the subject's token and its captured profiles. -/
def Made (state : StateFile) (subject : IdentitySetupSubject) : Prop :=
  ∃ (id : DeviceId) (device : DeviceState), state.devices[id]? = some device ∧
    device.identity.physicalId = subject.token ∧
    ∀ captured, subject.captured = some captured → device.profiles = captured.profiles

theorem enrolledDevice_made (id : DeviceId) (name : Option String) (subject : IdentitySetupSubject)
    (token : Option PhysicalId) : (enrolledDevice id name subject token).identity.physicalId = token ∧
      ∀ captured, subject.captured = some captured → (enrolledDevice id name subject token).profiles = captured.profiles := by
  unfold enrolledDevice applyCapturedImage
  cases subject.captured with
  | none => exact ⟨rfl, fun _ h => absurd h (Option.some_ne_none _).symm⟩
  | some captured => exact ⟨rfl, fun _ h => by cases h; rfl⟩

theorem restoredDevice_made (device : DeviceState) (subject : IdentitySetupSubject) (token : PhysicalId) :
    (restoredDevice device subject token).identity.physicalId = some token ∧
      ∀ captured, subject.captured = some captured → (restoredDevice device subject token).profiles = captured.profiles := by
  unfold restoredDevice applyCapturedImage
  cases subject.captured with
  | none => exact ⟨rfl, fun _ h => absurd h (Option.some_ne_none _).symm⟩
  | some captured => exact ⟨rfl, fun _ h => by cases h; rfl⟩

/-- **The mouse is made of the subject**, or is the one it was bound to, restored. -/
def IdentitySetupSubject.Makes (subject : IdentitySetupSubject) (id : DeviceId) (device : DeviceState) : Prop :=
  (∃ name, device = enrolledDevice id name subject subject.token) ∨
    ∃ old token, subject.token = some token ∧ device = restoredDevice old subject token

theorem IdentitySetupSubject.Makes.made {subject : IdentitySetupSubject} {id : DeviceId} {device : DeviceState}
    (h : subject.Makes id device) : device.identity.physicalId = subject.token ∧
      ∀ captured, subject.captured = some captured → device.profiles = captured.profiles := by
  rcases h with ⟨name, rfl⟩ | ⟨old, token, htoken, rfl⟩
  · exact enrolledDevice_made id name subject subject.token
  · rw [htoken]
    exact restoredDevice_made old subject token

/-- It has the subject's endpoint alone, and prefers no transport. -/
theorem IdentitySetupSubject.Makes.placed {subject : IdentitySetupSubject} {id : DeviceId} {device : DeviceState}
    (h : subject.Makes id device) :
    device.identity.endpoints = (∅ : BTreeMap TransportKind DeviceEndpoint).insert subject.endpoint.transport subject.endpoint ∧
      device.identity.preferredTransport = none := by
  rcases h with ⟨name, rfl⟩ | ⟨old, token, -, rfl⟩
  · unfold enrolledDevice applyCapturedImage
    cases subject.captured with
    | none => exact ⟨rfl, rfl⟩
    | some captured => exact ⟨rfl, rfl⟩
  · unfold restoredDevice applyCapturedImage
    cases subject.captured with
    | none => exact ⟨rfl, rfl⟩
    | some captured => exact ⟨rfl, rfl⟩

/-- Every subject of an enrollment has its device. -/
theorem enrolledDevices_get (legacy : Option DeviceState) (matched : Option Nat) {subjects : List IdentitySetupSubject}
    {ids : List DeviceId} (hlen : ids.length = subjects.length) (hnodup : ids.Nodup) {subject : IdentitySetupSubject}
    (hmem : subject ∈ subjects) :
    ∃ id name, (enrolledDevices legacy matched subjects ids)[id]? = some (enrolledDevice id name subject subject.token) := by
  obtain ⟨k, hk, rfl⟩ := List.getElem_of_mem hmem
  have hentry : ((subjects[k], k), ids[k]) ∈ subjects.zipIdx.zip ids := by
    refine List.mem_iff_getElem.2 ⟨k, by simp [hlen, hk], ?_⟩
    simp
  refine ⟨ids[k], _, BTreeMap.get_foldl_insert (fun entry : (IdentitySetupSubject × Nat) × DeviceId => entry.2) _
    (subjects.zipIdx.zip ids) ∅ ?_ hentry⟩
  have hkeys : (subjects.zipIdx.zip ids).map (·.2) = ids := List.map_snd_zip (by simp [hlen])
  rw [← List.pairwise_map, hkeys]
  exact hnodup

/-- A mouse of the state is made of the subject. -/
abbrev HasMade (state : StateFile) (subject : IdentitySetupSubject) : Prop :=
  ∃ (id : DeviceId) (device : DeviceState), state.devices[id]? = some device ∧ subject.Makes id device

theorem finalizeInitialEnrollment_makes {state state' : StateFile} {final : IdentitySetupJournal} {skip : Bool}
    (hran : (finalizeInitialEnrollment final skip).apply state = (.ok (), state')) {subject : IdentitySetupSubject}
    (hmem : subject ∈ final.subjects) : HasMade state' subject := by
  simp only [finalizeInitialEnrollment, apply_bind, apply_get] at hran
  cases ha : (allocateDeviceIds final.subjects.length).apply state with
  | mk r state₁ =>
    rw [ha] at hran
    cases r with
    | error e => cases hran
    | ok ids =>
      cases hran
      obtain ⟨hlen, hnodup, -⟩ := allocateDeviceIds_ok _ _ ha
      obtain ⟨id, name, hget⟩ := enrolledDevices_get _ _ hlen hnodup hmem
      exact ⟨id, _, hget, .inl ⟨name, rfl⟩⟩

theorem finalizeNewMouse_makes {state state' : StateFile} {final : IdentitySetupJournal} {subject : IdentitySetupSubject}
    (hran : (finalizeNewMouse final).apply state = (.ok (), state')) (hhead : final.subjects.head? = some subject) :
    HasMade state' subject := by
  simp only [finalizeNewMouse, onlySubject, hhead, apply_bind, apply_orError_some] at hran
  cases htoken : subject.token with
  | none =>
    rw [htoken] at hran
    cases hran
  | some token =>
    rw [htoken] at hran
    simp only [apply_orError_some, apply_lift] at hran
    cases ha : StateFile.allocateDeviceId state with
    | mk r state₁ =>
      rw [ha] at hran
      cases r with
      | error e => cases hran
      | ok id =>
        cases hran
        refine ⟨id, enrolledDevice id none subject (some token), ?_, .inl ⟨none, by rw [htoken]⟩⟩
        simp

theorem finalizeRestore_makes {state state' : StateFile} {final : IdentitySetupJournal} {subject : IdentitySetupSubject}
    (hran : (finalizeRestore final).apply state = (.ok (), state')) (hhead : final.subjects.head? = some subject) :
    HasMade state' subject := by
  simp only [finalizeRestore, onlySubject, hhead, apply_bind, apply_get, apply_orError_some] at hran
  cases hdevice : subject.deviceId with
  | none =>
    rw [hdevice] at hran
    cases hran
  | some deviceId =>
    rw [hdevice] at hran
    simp only [apply_orError_some] at hran
    cases htoken : subject.token with
    | none =>
      rw [htoken] at hran
      cases hran
    | some token =>
      rw [htoken] at hran
      simp only [apply_orError_some] at hran
      cases hd : state.devices[deviceId]? with
      | none =>
        rw [hd] at hran
        cases hran
      | some device =>
        rw [hd] at hran
        simp only [apply_orError_some, apply_modify] at hran
        cases hran
        refine ⟨deviceId, restoredDevice device subject token, ?_, .inr ⟨device, token, htoken, rfl⟩⟩
        simp

/-- What finalization leaves of the mice is what its phase does to them. -/
theorem finalizeCeremony_phase {state state' : StateFile} {final : IdentitySetupJournal} {skip : Bool}
    (hj : state.identitySetup = some final) (hran : (finalizeCeremony skip).apply state = (.ok (), state')) :
    ∃ state₁, (finalizePhase final skip).apply state = (.ok (), state₁) ∧ state'.devices = state₁.devices := by
  simp only [finalizeCeremony, apply_bind, apply_get, hj, apply_orError_some] at hran
  cases hp : (finalizePhase final skip).apply state with
  | mk r state₁ =>
    rw [hp] at hran
    cases r with
    | error e => cases hran
    | ok _ =>
      cases hran
      exact ⟨state₁, rfl, rfl⟩

/-- **A finished ceremony leaves a mouse of every subject**, at its endpoint. -/
theorem finalizeCeremony_makes {state state' : StateFile} {final : IdentitySetupJournal} {skip : Bool}
    (hj : state.identitySetup = some final) (hran : (finalizeCeremony skip).apply state = (.ok (), state'))
    (hphase : final.phase ≠ .bleAssociation)
    (halone : final.phase ≠ .initialEnrollment → final.subjects.length ≤ 1) {subject : IdentitySetupSubject}
    (hmem : subject ∈ final.subjects) : HasMade state' subject := by
  obtain ⟨state₁, hp, hdevices⟩ := finalizeCeremony_phase hj hran
  have hhead : final.phase ≠ .initialEnrollment → final.subjects.head? = some subject := fun hne => by
    have hlen := halone hne
    match hsubjects : final.subjects with
    | [] => rw [hsubjects] at hmem; cases hmem
    | [only] => rw [hsubjects] at hmem; rw [List.mem_singleton.1 hmem]; rfl
    | _ :: _ :: _ => simp [hsubjects] at hlen
  have makes : HasMade state₁ subject := by
    unfold finalizePhase at hp
    split at hp
    · exact finalizeInitialEnrollment_makes hp hmem
    · next h => exact finalizeNewMouse_makes hp (hhead (by rw [h]; nofun))
    · next h => exact finalizeNewMouse_makes hp (hhead (by rw [h]; nofun))
    · next h => exact finalizeRestore_makes hp (hhead (by rw [h]; nofun))
    · next h => exact absurd h hphase
  obtain ⟨id, device, hget, hmakes⟩ := makes
  exact ⟨id, device, by rw [hdevices, hget], hmakes⟩

/-- **A finished ceremony made a mouse of every subject.** -/
theorem finalizeCeremony_made {state state' : StateFile} {final : IdentitySetupJournal} {skip : Bool}
    (hj : state.identitySetup = some final) (hran : (finalizeCeremony skip).apply state = (.ok (), state'))
    (hphase : final.phase ≠ .bleAssociation)
    (halone : final.phase ≠ .initialEnrollment → final.subjects.length ≤ 1) {subject : IdentitySetupSubject}
    (hmem : subject ∈ final.subjects) : Made state' subject := by
  obtain ⟨id, device, hget, hmakes⟩ := finalizeCeremony_makes hj hran hphase halone hmem
  exact ⟨id, device, hget, hmakes.made⟩

/-! ## The journal that was finalized -/

section Final

variable {t : Txn} {current final final' : IdentitySetupJournal}

/-- A transaction finalizes one journal. -/
theorem Finalizes.unique (h : Finalizes t current final) (h' : Finalizes t current final') : final = final' := by
  cases h with
  | pushed ht =>
    cases h' with
    | pushed ht' =>
      rw [ht] at ht'
      cases ht'
      rfl
    | finished ht' | migrated ht' | associated ht' =>
      rw [ht] at ht'
      cases ht'
  | finished ht _ hlast =>
    cases h' with
    | finished ht' _ hlast' =>
      rw [ht] at ht'
      cases ht'
      rw [hlast] at hlast'
      cases hlast'
      rfl
    | pushed ht' | migrated ht' | associated ht' =>
      rw [ht] at ht'
      cases ht'
  | migrated ht =>
    cases h' with
    | migrated ht' => rfl
    | pushed ht' | finished ht' | associated ht' =>
      rw [ht] at ht'
      cases ht'
  | associated ht =>
    cases h' with
    | associated ht' =>
      rw [ht] at ht'
      cases ht'
      rfl
    | pushed ht' | finished ht' | migrated ht' =>
      rw [ht] at ht'
      cases ht'

theorem Finalizes.phase_eq (h : Finalizes t current final) : final.phase = current.phase := by
  cases h <;> rfl

/-- **A transaction that ended a ceremony by finalizing it** left what finalization leaves. -/
theorem Finalizes.ran {state state' : StateFile} {r} (hfinal : Finalizes t current final) (h : Commits t state r state')
    (was : state.identitySetup = some current) (hended : state'.identitySetup = none) :
    ∃ skip, (finalizeCeremony skip).apply { state with identitySetup := some final } = (.ok (), state') := by
  cases h.journalStep with
  | finalized skip hwas hfinal' ran _ =>
    rw [was] at hwas
    cases hwas
    rw [hfinal.unique hfinal']
    exact ⟨skip, ran⟩
  | cancelled ht _ =>
    subst ht
    cases hfinal with
    | pushed ht | finished ht | migrated ht | associated ht => cases ht
  | same keeps =>
    rw [keeps, was] at hended
    cases hended
  | begun _ becomes | pushed _ _ _ becomes | reserved _ _ _ becomes | marked _ _ _ becomes | finished _ _ _ becomes
  | associated _ _ _ _ becomes =>
    rw [becomes] at hended
    cases hended

/-- But an enrollment, a ceremony is about one mouse. -/
theorem Finalizes.alone {state : StateFile} (h : Finalizes t current final) (hv : state.validate = .ok ())
    (was : state.identitySetup = some current) (hphase : final.phase ≠ .initialEnrollment) : final.subjects.length ≤ 1 := by
  rw [h.phase_eq] at hphase
  obtain ⟨-, hcounts, hstage, -⟩ := StateFile.validateIdentitySetup_ok.1 (StateFile.valid_setup hv was)
  rw [IdentitySetupJournal.validateCounts_ok, if_neg hphase] at hcounts
  cases h with
  | pushed ht awaiting =>
    have hempty := ((IdentitySetupJournal.validateStage_awaiting awaiting).1 hstage).2 hphase
    simp [IdentitySetupJournal.withStage, IdentitySetupJournal.push, hempty]
  | @finished subject _ _ ht _ last =>
    obtain ⟨init, hinit⟩ := List.getLast?_eq_some_iff.1 last
    simpa [IdentitySetupJournal.withStage, IdentitySetupJournal.withLast, hinit] using hcounts
  | migrated ht => exact hcounts
  | associated ht phase empty => simp [IdentitySetupJournal.withStage, IdentitySetupJournal.push, empty]

end Final

/-! ## Fully stamped -/

/-- As many entries as captured profiles, each for a captured profile, leave none out. -/
theorem IdentitySetupSubject.isStamped_of_isFullyStamped {subject : IdentitySetupSubject}
    {captured : CapturedProfileImage} (hfull : subject.isFullyStamped = true) (hcaptured : subject.captured = some captured)
    {p : ProfileId} {profile : ProfileState} (hp : captured.profiles[p]? = some profile) : subject.isStamped p = true := by
  simp only [isFullyStamped, hcaptured, Bool.and_eq_true, decide_eq_true_eq] at hfull
  obtain ⟨⟨hsize, hkeys⟩, hvalues⟩ := hfull
  have hcontains : captured.profiles.contains p = true := by
    rw [Std.ExtTreeMap.contains_eq_isSome_getElem?, hp]
    rfl
  have htracked := (BTreeMap.contains_eq hsize hkeys p).trans hcontains
  have hmem : p ∈ subject.stampProgress.keys := by simpa using htracked
  obtain ⟨progress, hprogress⟩ := BTreeMap.mem_keys_iff.1 hmem
  have := List.all_eq_true.1 hvalues progress (BTreeMap.mem_values.2 ⟨p, hprogress⟩)
  simp only [isStamped, hprogress]
  simpa using this

end AttackSharkX3
