import AttackSharkX3.Update
import AttackSharkX3.Valid
/-!
# Records — what the record of a write leaves of the store

The record of a write replaces the evidence of one section of one profile, and every other section keeps its own.
-/
namespace AttackSharkX3

/-- A section that is read back as it was set, and that an empty profile does not have. -/
structure Section.Lawful {T : Type} (sect : Section T) : Prop where
  get_set : ∀ profile resource, sect.get (sect.set profile resource) = resource
  get_empty : sect.get .empty = .empty

/-- Setting one section leaves the other. -/
def Section.Apart {T U : Type} (sect : Section T) (other : Section U) : Prop :=
  ∀ profile resource, other.get (sect.set profile resource) = other.get profile

theorem lawful_dpi : Section.dpi.Lawful := ⟨fun _ _ => rfl, rfl⟩
theorem lawful_preferences : Section.preferences.Lawful := ⟨fun _ _ => rfl, rfl⟩
theorem lawful_buttons : Section.buttons.Lawful := ⟨fun _ _ => rfl, rfl⟩
theorem lawful_pollingRate : Section.pollingRate.Lawful := ⟨fun _ _ => rfl, rfl⟩

/-- The evidence held for one section of one profile, empty where there is none. -/
def StateFile.held {T : Type} (state : StateFile) (sect : Section T) (device : DeviceId) (profile : ProfileId) :
    ResourceState T :=
  (state.resource sect device profile).getD .empty

/-- The state with a section's evidence replaced. -/
def StateFile.withEvidence {T : Type} (state : StateFile) (sect : Section T) (device : DeviceId)
    (deviceState : DeviceState) (profile : ProfileId) (resource : ResourceState T) : StateFile :=
  { state with devices := state.devices.insert device { deviceState with
      profiles := deviceState.profiles.insert profile
        (sect.set (deviceState.profiles[profile]?.getD .empty) resource) } }

section Evidence

variable {T U : Type} {state : StateFile} {sect : Section T} {other : Section U} {device : DeviceId}
  {deviceState : DeviceState} {profile : ProfileId}

theorem storedBaseline_held {allow : Bool} :
    storedBaseline (state.resource sect device profile) allow = storedBaseline (some (state.held sect device profile)) allow := by
  unfold StateFile.held
  cases state.resource sect device profile with
  | none => rfl
  | some resource => rfl

theorem held_eq (hs : sect.Lawful) (hd : state.devices[device]? = some deviceState) :
    state.held sect device profile = sect.get (deviceState.profiles[profile]?.getD .empty) := by
  unfold StateFile.held StateFile.resource
  rw [hd]
  cases hprofile : deviceState.profiles[profile]? with
  | none => simp [hprofile, hs.get_empty]
  | some profileState => simp [hprofile]

theorem held_withEvidence (hs : sect.Lawful) {resource : ResourceState T} :
    (state.withEvidence sect device deviceState profile resource).held sect device profile = resource := by
  have hd : (state.withEvidence sect device deviceState profile resource).devices[device]? = some { deviceState with
      profiles := deviceState.profiles.insert profile
        (sect.set (deviceState.profiles[profile]?.getD .empty) resource) } := BTreeMap.get_insert_self ..
  rw [held_eq hs hd]
  simp [hs.get_set]

/-- **Frame**: the evidence of another section, another profile or another mouse stays. -/
theorem held_withEvidence_other (ho : other.Lawful) (hd : state.devices[device]? = some deviceState)
    {resource : ResourceState T} {d : DeviceId} {p : ProfileId} (hne : device ≠ d ∨ profile ≠ p ∨ sect.Apart other) :
    (state.withEvidence sect device deviceState profile resource).held other d p = state.held other d p := by
  by_cases hdevice : device = d
  · subst hdevice
    have hd' : (state.withEvidence sect device deviceState profile resource).devices[device]? = some { deviceState with
        profiles := deviceState.profiles.insert profile
          (sect.set (deviceState.profiles[profile]?.getD .empty) resource) } := BTreeMap.get_insert_self ..
    rw [held_eq ho hd', held_eq ho hd]
    by_cases hprofile : profile = p
    · subst hprofile
      have hapart : sect.Apart other := by
        rcases hne with hne | hne | hapart
        · exact absurd rfl hne
        · exact absurd rfl hne
        · exact hapart
      simp [hapart _ _]
    · rw [BTreeMap.get_insert_of_ne _ hprofile]
  · unfold StateFile.held StateFile.resource StateFile.withEvidence
    rw [BTreeMap.get_insert_of_ne _ hdevice]

variable [DecidableEq T]

/-- **The record of a write**, on a saved mouse. -/
theorem persistWrite_apply (hs : sect.Lawful) (hd : state.devices[device]? = some deviceState) (desired : T)
    (write : SessionWrite T) (now : Timestamp) : (persistWrite sect device profile desired write now).apply state =
      (.ok (writeOutcome desired write), state.withEvidence sect device deviceState profile
        (recordWrite (state.held sect device profile) desired write now)) := by
  rw [held_eq hs hd]
  simp only [persistWrite, Mutation.apply_bind, Mutation.apply_get, hd, Mutation.apply_orError_some, Mutation.apply_set,
    Mutation.apply_pure]
  rfl

end Evidence

/-- **The record of a re-read**, on a saved mouse. -/
theorem observeProfile_apply {state : StateFile} {device : DeviceId} {deviceState : DeviceState}
    (hd : state.devices[device]? = some deviceState) (target : ProfileId) (snapshot : ProfileSnapshot)
    (pollingRate : PollingRate) (persistence : Option PersistenceVerification) (verifiedAt : Timestamp) :
    (Txn.observeProfile device target snapshot pollingRate persistence verifiedAt).apply state =
      (.ok ⟨⟩, { state with devices := state.devices.insert device { deviceState with
        profiles := deviceState.profiles.insert target ((deviceState.profiles[target]?.getD .empty).observe snapshot
          pollingRate persistence verifiedAt) } }) := by
  simp [Txn.observeProfile, Mutation.apply_bind, hd]

/-! ## Composite updates -/

/-- **A part of a composite update is on record**, and nothing else changed. -/
structure Adds {T : Type} [DecidableEq T] (state state' : StateFile) (sect : Section T) (device : DeviceId)
    (profileOf : T → ProfileId) (part : Option (T × SessionWrite T)) (now : Timestamp) : Prop where
  saved : ∃ deviceState, state'.devices[device]? = some deviceState
  recorded : ∀ desired write, part = some (desired, write) → state'.held sect device (profileOf desired) =
    recordWrite (state.held sect device (profileOf desired)) desired write now
  kept : ∀ {U : Type} (other : Section U), other.Lawful → sect.Apart other → ∀ p,
    state'.held other device p = state.held other device p

theorem adds_part {T : Type} [DecidableEq T] {sect : Section T} {device : DeviceId} (hs : sect.Lawful)
    (profileOf : T → ProfileId) (part : Option (T × SessionWrite T)) (now : Timestamp) {state : StateFile}
    (hsaved : ∃ deviceState, state.devices[device]? = some deviceState) :
    ∃ state', (part.mapM fun (desired, write) => persistWrite sect device (profileOf desired) desired write now).apply
        state = (.ok (part.map fun made => writeOutcome made.1 made.2), state') ∧
      Adds state state' sect device profileOf part now := by
  obtain ⟨deviceState, hd⟩ := hsaved
  cases part with
  | none => exact ⟨state, rfl, ⟨deviceState, hd⟩, nofun, fun _ _ _ _ => rfl⟩
  | some made =>
    obtain ⟨desired, write⟩ := made
    refine ⟨state.withEvidence sect device deviceState (profileOf desired)
      (recordWrite (state.held sect device (profileOf desired)) desired write now), ?_,
      ⟨_, BTreeMap.get_insert_self ..⟩, ?_, fun other ho hapart p => ?_⟩
    · rw [Option.mapM_some, Mutation.apply_map, persistWrite_apply hs hd]
      rfl
    · intro desired' write' heq
      cases heq
      exact held_withEvidence hs
    · exact held_withEvidence_other ho hd (.inr (.inr hapart))

/-- **What a composite update leaves on record.** -/
structure AddsParts (state state' : StateFile) (device : DeviceId) (profile : ProfileId) (writes : ProfileWrites)
    (now : Timestamp) : Prop where
  dpi : ∀ desired write, writes.dpi = some (desired, write) →
    state'.held .dpi device profile = recordWrite (state.held .dpi device profile) desired write now
  preferences : ∀ desired write, writes.preferences = some (desired, write) →
    state'.held .preferences device profile = recordWrite (state.held .preferences device profile) desired write now
  buttons : ∀ desired write, writes.buttons = some (desired, write) →
    state'.held .buttons device desired.profile = recordWrite (state.held .buttons device desired.profile) desired write now

/-- A composite update of a saved mouse is recorded as a whole. -/
theorem persistParts_apply {state : StateFile} {device : DeviceId} (profile : ProfileId) (writes : ProfileWrites)
    (now : Timestamp) (hsaved : ∃ deviceState, state.devices[device]? = some deviceState) :
    ∃ outcome state', (Txn.persistParts device profile writes now).apply state = (.ok outcome, state') ∧
      AddsParts state state' device profile writes now := by
  obtain ⟨state₁, hdpi, adds₁⟩ := adds_part lawful_dpi (fun _ => profile) writes.dpi now hsaved
  obtain ⟨state₂, hpreferences, adds₂⟩ := adds_part lawful_preferences (fun _ => profile) writes.preferences now adds₁.saved
  obtain ⟨state₃, hbuttons, adds₃⟩ := adds_part lawful_buttons ButtonsState.profile writes.buttons now adds₂.saved
  have happly : (Txn.persistParts device profile writes now).apply state = (.ok
      ⟨writes.dpi.map fun made => writeOutcome made.1 made.2, writes.preferences.map fun made => writeOutcome made.1 made.2,
        writes.buttons.map fun made => writeOutcome made.1 made.2, none⟩, state₃) := by
    simp only [Txn.persistParts, Mutation.apply_bind, hdpi, hpreferences, hbuttons, Mutation.apply_pure]
  refine ⟨_, state₃, happly, fun desired write h => ?_, fun desired write h => ?_, fun desired write h => ?_⟩
  · rw [adds₃.kept .dpi lawful_dpi (fun _ _ => rfl), adds₂.kept .dpi lawful_dpi (fun _ _ => rfl)]
    exact adds₁.recorded desired write h
  · rw [adds₃.kept .preferences lawful_preferences (fun _ _ => rfl), adds₂.recorded desired write h,
      adds₁.kept .preferences lawful_preferences (fun _ _ => rfl)]
  · rw [adds₃.recorded desired write h, adds₂.kept .buttons lawful_buttons (fun _ _ => rfl),
      adds₁.kept .buttons lawful_buttons (fun _ _ => rfl)]

end AttackSharkX3
