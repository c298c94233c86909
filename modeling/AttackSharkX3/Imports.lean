import AttackSharkX3.Portable
import AttackSharkX3.Rig
/-!
# Imports — what an import leaves of a mouse

An import that is answered replaces the desired values the document gives, each over the mouse's own evidence, and the
names it gives.  What is exported afterwards is what was exported before, overridden by the document.
-/
namespace AttackSharkX3

/-! ## Overriding -/

/-- The values of `values`, and those of `previous` where there are none. -/
def ProfileConfiguration.over (values previous : ProfileConfiguration) : ProfileConfiguration where
  dpi := values.dpi.or previous.dpi
  preferences := values.preferences.or previous.preferences
  buttons := values.buttons.or previous.buttons
  pollingRate := values.pollingRate.or previous.pollingRate

/-- A profile is listed when it has a value. -/
def ProfileConfiguration.listed (values : ProfileConfiguration) : Option ProfileConfiguration :=
  if values.isEmpty then none else some values

/-- The name as it is kept: trimmed, and none when blank. -/
def storedName (name : String) : Option String := if trim name = "" then none else some (trim name)

/-- **The export is the previous one, overridden exactly where the document has a value or a name.** -/
structure ConfigurationExport.Overrides (after document previous : ConfigurationExport) : Prop where
  values : ∀ p : ProfileId, after.profiles[p]? = ((document.configured p).over (previous.configured p)).listed
  names : ∀ p : ProfileId, after.profileNames[p]? = match document.profileNames[p]? with
    | some name => storedName name
    | none => previous.profileNames[p]?

section Profile

variable {profile : ProfileId} {values : ProfileConfiguration} {now : Timestamp} {before after : ProfileState}

/-- A portable image keeps its values over any tail, and takes the tail. -/
theorem mergePortableDpi_ok {portable : PortableDpi} {baseline merged : DpiState}
    (h : mergePortableDpi portable baseline = .ok merged) :
    PortableDpi.fromDpiState merged = portable ∧ merged.preservedTail = baseline.preservedTail := by
  unfold mergePortableDpi DpiState.new at h
  cases hv : validateStageSelection portable.stages.length portable.activeStage with
  | error e =>
    rw [hv] at h
    cases h
  | ok _ =>
    rw [hv] at h
    cases h
    exact ⟨rfl, rfl⟩

/-- The image a document gives is made over the tail of the image on record. -/
def TailKept (values : ProfileConfiguration) (before after : ResourceState DpiState) : Prop :=
  ∀ portable, values.dpi = some portable → ∃ baseline desired, valueForExport before = some baseline ∧
    after.desired = some desired ∧ desired.value.preservedTail = baseline.preservedTail

/-- The value of a section is an imported one that was not sent. -/
def NotSent {T : Type} (resource : ResourceState T) (now : Timestamp) : Prop :=
  ∃ value, resource.desired = some ⟨value, .imported, ⟨.notSent, .unknown⟩, now⟩

/-- **What an import does to one profile.** -/
structure ProfileImported (values : ProfileConfiguration) (now : Timestamp) (before after : ProfileState) : Prop where
  exports : after.configuration = values.over before.configuration
  dpi : ∃ value : Option DpiState, value.isSome = values.dpi.isSome ∧ after.dpi = before.dpi.imported value now
  preferences : after.preferences = before.preferences.imported values.preferences now
  buttons : after.buttons = before.buttons.imported values.buttons now
  pollingRate : after.pollingRate = before.pollingRate.imported values.pollingRate now
  tail : TailKept values before.dpi after.dpi

theorem valueForExport_imported {T : Type} (resource : ResourceState T) (value : Option T) :
    valueForExport (resource.imported value now) = value.or (valueForExport resource) := by
  cases value <;> rfl

theorem observed_imported {T : Type} (resource : ResourceState T) (value : Option T) :
    (resource.imported value now).observed = resource.observed := by
  cases value <;> rfl

theorem notSent_imported {T : Type} {resource imported : ResourceState T} {value : Option T}
    (himported : imported = resource.imported value now) (hgiven : value.isSome = true) : NotSent imported now := by
  subst himported
  cases value with
  | none => cases hgiven
  | some value => exact ⟨value, rfl⟩

theorem importProfile_ok (h : importProfile profile values now before = .ok after) :
    ProfileImported values now before after := by
  unfold importProfile at h
  cases hdpi : values.dpi with
  | none =>
    rw [hdpi] at h
    cases h
    refine ⟨?_, ⟨none, by simp [hdpi], rfl⟩, rfl, rfl, rfl, ?_⟩
    · simp only [ProfileState.configuration, ProfileConfiguration.over, hdpi, valueForExport_imported]
      rfl
    · intro portable hportable
      rw [hdpi] at hportable
      cases hportable
  | some portable =>
    rw [hdpi] at h
    cases hbaseline : valueForExport before.dpi with
    | none =>
      simp only [Option.mapM_some, hbaseline] at h
      cases h
    | some baseline =>
      cases hmerge : mergePortableDpi portable baseline with
      | error e =>
        simp only [Option.mapM_some, hbaseline, hmerge] at h
        cases h
      | ok merged =>
        simp only [Option.mapM_some, hbaseline, hmerge] at h
        cases h
        obtain ⟨hvalues, htail⟩ := mergePortableDpi_ok hmerge
        refine ⟨?_, ⟨some merged, by rw [hdpi]; rfl, rfl⟩, rfl, rfl, rfl, ?_⟩
        · simp only [ProfileState.configuration, ProfileConfiguration.over, hdpi, valueForExport_imported]
          simp [hvalues]
        · intro _ _
          exact ⟨baseline, _, hbaseline, rfl, htail⟩

/-- A document that gives nothing for a profile leaves it alone. -/
theorem importProfile_nothing (before : ProfileState) : importProfile profile {} now before = .ok before := rfl

end Profile

/-! ## The loops -/

/-- **Each profile is imported over what was there.** -/
theorem importProfiles_ok {now : Timestamp} : ∀ {entries : List (ProfileId × ProfileConfiguration)}
    {profiles after : BTreeMap ProfileId ProfileState}, importProfiles now entries profiles = .ok after →
      entries.Pairwise (fun a b => a.1 ≠ b.1) →
        (∀ entry ∈ entries, ∃ profileState, after[entry.1]? = some profileState ∧
          importProfile entry.1 entry.2 now (profiles[entry.1]?.getD .empty) = .ok profileState) ∧
        ∀ p : ProfileId, (∀ entry ∈ entries, entry.1 ≠ p) → after[p]? = profiles[p]?
  | [], _, _, h, _ => by
    cases h
    exact ⟨fun _ hmem => absurd hmem List.not_mem_nil, fun _ _ => rfl⟩
  | (profile, values) :: rest, profiles, after, h, hdistinct => by
    obtain ⟨hfirst, hrest⟩ := List.pairwise_cons.1 hdistinct
    unfold importProfiles at h
    cases himport : importProfile profile values now (profiles[profile]?.getD .empty) with
    | error e =>
      rw [himport] at h
      cases h
    | ok profileState =>
      rw [himport] at h
      obtain ⟨hmem, hother⟩ := importProfiles_ok h hrest
      refine ⟨fun entry hentry => ?_, fun p hp => ?_⟩
      · rcases List.mem_cons.1 hentry with rfl | hentry
        · refine ⟨profileState, ?_, himport⟩
          rw [hother profile fun e he heq => hfirst e he heq.symm]
          simp
        · obtain ⟨state, hstate, hgives⟩ := hmem entry hentry
          refine ⟨state, hstate, ?_⟩
          rw [BTreeMap.get_insert_of_ne _ (hfirst entry hentry)] at hgives
          exact hgives
      · rw [hother p fun e he => hp e (List.mem_cons_of_mem _ he)]
        exact BTreeMap.get_insert_of_ne _ (hp _ List.mem_cons_self) _

theorem importNames_ok : ∀ {entries : List (ProfileId × String)} {names after : BTreeMap ProfileId String},
    importNames entries names = .ok after → entries.Pairwise (fun a b => a.1 ≠ b.1) →
      (∀ entry ∈ entries, after[entry.1]? = storedName entry.2) ∧
      ∀ p : ProfileId, (∀ entry ∈ entries, entry.1 ≠ p) → after[p]? = names[p]?
  | [], _, _, h, _ => by
    cases h
    exact ⟨fun _ hmem => absurd hmem List.not_mem_nil, fun _ _ => rfl⟩
  | (profile, name) :: rest, names, after, h, hdistinct => by
    obtain ⟨hfirst, hrest⟩ := List.pairwise_cons.1 hdistinct
    have hlater : ∀ entry ∈ rest, entry.1 ≠ profile := fun e he heq => hfirst e he heq.symm
    have hstep : ∃ middle, importNames rest middle = .ok after ∧ middle[profile]? = storedName name ∧
        ∀ p : ProfileId, profile ≠ p → middle[p]? = names[p]? := by
      unfold importNames normalizeProfileName at h
      by_cases hblank : trim name = ""
      · simp only [hblank] at h
        refine ⟨names.erase profile, h, by simp [storedName, hblank], fun p hp => ?_⟩
        rw [Std.ExtTreeMap.getElem?_erase, if_neg]
        exact fun hc => hp (Std.compare_eq_iff_eq.1 hc)
      · by_cases hlong : MAX_PROFILE_NAME_CHARS < (trim name).toList.length
        · rw [if_neg hblank, if_pos hlong] at h
          cases h
        · rw [if_neg hblank, if_neg hlong] at h
          exact ⟨names.insert profile (trim name), h, by simp [storedName, hblank],
            fun p hp => BTreeMap.get_insert_of_ne _ hp _⟩
    obtain ⟨middle, hrun, hnamed, hkept⟩ := hstep
    obtain ⟨hmem, hother⟩ := importNames_ok hrun hrest
    refine ⟨fun entry hentry => ?_, fun p hp => ?_⟩
    · rcases List.mem_cons.1 hentry with rfl | hentry
      · rw [hother profile hlater, hnamed]
      · exact hmem entry hentry
    · rw [hother p fun e he => hp e (List.mem_cons_of_mem _ he)]
      exact hkept p (hp _ List.mem_cons_self)

/-! ## The mouse -/

section Device

variable {identity : DeviceIdentity} {configuration : ConfigurationExport} {now : Timestamp} {state state' : StateFile}
  {deviceState : DeviceState}

/-- The evidence of a profile, empty where there is none. -/
def DeviceState.profile (device : DeviceState) (p : ProfileId) : ProfileState := device.profiles[p]?.getD .empty

/-- The whole document, profile by profile. -/
theorem importProfiles_profile {profiles after : BTreeMap ProfileId ProfileState}
    (h : importProfiles now configuration.profiles.toList profiles = .ok after) (p : ProfileId) :
    ProfileImported (configuration.configured p) now (profiles[p]?.getD .empty) (after[p]?.getD .empty) := by
  obtain ⟨hmem, hother⟩ := importProfiles_ok h (BTreeMap.distinct_toList _)
  cases hvalues : configuration.profiles[p]? with
  | none =>
    have hmissing : ∀ entry ∈ configuration.profiles.toList, entry.1 ≠ p := by
      rintro ⟨q, values⟩ hentry rfl
      rw [Std.ExtTreeMap.mem_toList_iff_getElem?_eq_some, hvalues] at hentry
      cases hentry
    rw [hother p hmissing, ConfigurationExport.configured, hvalues]
    exact @importProfile_ok p _ now _ _ (importProfile_nothing _)
  | some values =>
    have hentry : (p, values) ∈ configuration.profiles.toList := Std.ExtTreeMap.mem_toList_iff_getElem?_eq_some.2 hvalues
    obtain ⟨profileState, hstate, himport⟩ := hmem _ hentry
    rw [hstate, ConfigurationExport.configured, hvalues]
    exact importProfile_ok himport

theorem importNames_names {names after : BTreeMap ProfileId String}
    (h : importNames configuration.profileNames.toList names = .ok after) (p : ProfileId) :
    after[p]? = match configuration.profileNames[p]? with
      | some name => storedName name
      | none => names[p]? := by
  obtain ⟨hmem, hother⟩ := importNames_ok h (BTreeMap.distinct_toList _)
  cases hname : configuration.profileNames[p]? with
  | none =>
    refine hother p ?_
    rintro ⟨q, name⟩ hentry rfl
    rw [Std.ExtTreeMap.mem_toList_iff_getElem?_eq_some, hname] at hentry
    cases hentry
  | some name =>
    have hentry : (p, name) ∈ configuration.profileNames.toList := Std.ExtTreeMap.mem_toList_iff_getElem?_eq_some.2 hname
    exact hmem _ hentry

/-- Values of an export, profile by profile. -/
theorem exportConfiguration_profiles {device : DeviceId} {exported : ConfigurationExport}
    (hd : state.devices[device]? = some deviceState) (h : exportConfiguration device state = .ok exported) (p : ProfileId) :
    exported.profiles[p]? = (deviceState.profile p).configuration.listed := by
  unfold exportConfiguration at h
  rw [hd] at h
  cases h
  unfold DeviceState.profile
  cases hp : deviceState.profiles[p]? with
  | none => simp [hp]; rfl
  | some profileState => simp [hp]; rfl

theorem configured_listed {exported : ConfigurationExport} {p : ProfileId} {values : ProfileConfiguration}
    (h : exported.profiles[p]? = values.listed) : exported.configured p = values := by
  unfold ConfigurationExport.configured
  rw [h]
  unfold ProfileConfiguration.listed
  split
  · next hempty =>
    unfold ProfileConfiguration.isEmpty at hempty
    cases values
    simp at hempty
    simp [hempty]
  · rfl

/-- **What an import does to the state.** -/
structure Imported (state state' : StateFile) (device : DeviceId) (configuration : ConfigurationExport) (now : Timestamp) :
    Prop where
  exports : ∃ previous exported, exportConfiguration device state = .ok previous ∧
    exportConfiguration device state' = .ok exported ∧ exported.Overrides configuration previous
  physicalId : physicalIdOf state' device = physicalIdOf state device
  metadata : (state'.devices[device]?.map (·.profileMetadata)) = state.devices[device]?.map (·.profileMetadata)
  observed : ∀ p, (state'.held .dpi device p).observed = (state.held .dpi device p).observed ∧
    (state'.held .preferences device p).observed = (state.held .preferences device p).observed ∧
    (state'.held .buttons device p).observed = (state.held .buttons device p).observed ∧
    (state'.held .pollingRate device p).observed = (state.held .pollingRate device p).observed
  others : ∀ d, d ≠ device → state'.devices[d]? = state.devices[d]?
  mode : state'.identityMode = state.identityMode
  journal : state'.identitySetup = state.identitySetup
  mapping : state'.endpointMapping = state.endpointMapping
  tails : ∀ p, TailKept (configuration.configured p) (state.held .dpi device p) (state'.held .dpi device p)
  notSent : ∀ p, ((configuration.configured p).dpi.isSome → NotSent (state'.held .dpi device p) now) ∧
    ((configuration.configured p).preferences.isSome → NotSent (state'.held .preferences device p) now) ∧
    ((configuration.configured p).buttons.isSome → NotSent (state'.held .buttons device p) now) ∧
    ((configuration.configured p).pollingRate.isSome → NotSent (state'.held .pollingRate device p) now)

/-- A reserved number moves the counter only. -/
theorem reserveNumber_ok {id : DeviceId} (h : state.reserveNumber id = .ok state') :
    ∃ n, state.nextDeviceNumber ≤ n ∧ state' = { state with nextDeviceNumber := n } ∧ ∀ num, id.number = some num → num < n := by
  unfold StateFile.reserveNumber at h
  cases hnumber : id.number with
  | none =>
    rw [hnumber] at h
    cases h
    exact ⟨_, Nat.le_refl _, rfl, nofun⟩
  | some num =>
    simp only [hnumber] at h
    split at h
    · next hle =>
      split at h
      · cases h
        exact ⟨num + 1, Nat.le_succ_of_le hle, rfl, fun _ heq => by cases heq; exact Nat.lt_succ_self _⟩
      · cases h
    · next hlt =>
      cases h
      exact ⟨_, Nat.le_refl _, rfl, fun _ heq => by cases heq; exact Nat.lt_of_not_le hlt⟩

/-- What a successful body leaves. -/
theorem importInto_ok (h : importInto identity configuration now state = .ok ((), state')) : ∃ n profiles profileNames,
    state.nextDeviceNumber ≤ n ∧ (∀ num, identity.id.number = some num → num < n) ∧
      importProfiles now configuration.profiles.toList ((state.devices[identity.id]?.getD (.new identity)).profiles) = .ok profiles ∧
      importNames configuration.profileNames.toList ((state.devices[identity.id]?.getD (.new identity)).profileNames) =
        .ok profileNames ∧
      state' = { state with
        nextDeviceNumber := n
        devices := state.devices.insert identity.id
          { state.devices[identity.id]?.getD (.new identity) with identity, profiles, profileNames }
        selectedDevice := state.selectedDevice.or (some identity.id) } := by
  unfold importInto at h
  cases hreserve : state.reserveNumber identity.id with
  | error e =>
    rw [hreserve] at h
    cases h
  | ok reserved =>
    obtain ⟨n, hle, rfl, hlt⟩ := reserveNumber_ok hreserve
    rw [hreserve] at h
    cases hprofiles : importProfiles now configuration.profiles.toList
        ((state.devices[identity.id]?.getD (.new identity)).profiles) with
    | error e =>
      simp only [bind, Except.bind, hprofiles] at h
      cases h
    | ok profiles =>
      cases hnames : importNames configuration.profileNames.toList
          ((state.devices[identity.id]?.getD (.new identity)).profileNames) with
      | error e =>
        simp only [bind, Except.bind, hprofiles, hnames] at h
        cases h
      | ok profileNames =>
        simp only [bind, Except.bind, hprofiles, hnames] at h
        cases h
        exact ⟨n, profiles, profileNames, hle, hlt, rfl, rfl, rfl⟩

/-- **An import over a mouse's own identity.** -/
theorem imported_of_importInto (hd : state.devices[identity.id]? = some deviceState) (hid : deviceState.identity = identity)
    (h : importInto identity configuration now state = .ok ((), state')) :
    Imported state state' identity.id configuration now := by
  obtain ⟨n, profiles, profileNames, -, -, hprofiles, hnames, rfl⟩ := importInto_ok h
  rw [hd] at hprofiles hnames ⊢
  simp only [Option.getD_some] at hprofiles hnames ⊢
  have hd' : ({ state with
      nextDeviceNumber := n
      devices := state.devices.insert identity.id { deviceState with identity, profiles, profileNames }
      selectedDevice := state.selectedDevice.or (some identity.id) } : StateFile).devices[identity.id]? =
        some { deviceState with identity, profiles, profileNames } := BTreeMap.get_insert_self ..
  have hpart : ∀ p, ProfileImported (configuration.configured p) now (deviceState.profile p)
      (({ deviceState with identity, profiles, profileNames } : DeviceState).profile p) := importProfiles_profile hprofiles
  refine ⟨?_, ?_, ?_, ?_, ?_, rfl, rfl, rfl, ?_, ?_⟩
  · obtain ⟨previous, hprevious⟩ : ∃ previous, exportConfiguration identity.id state = .ok previous := by
      unfold exportConfiguration
      rw [hd]
      exact ⟨_, rfl⟩
    refine ⟨previous, _, hprevious, by unfold exportConfiguration; rw [hd'], fun p => ?_, fun p => ?_⟩
    · have hbefore := configured_listed (exportConfiguration_profiles hd hprevious p)
      rw [hbefore, ← (hpart p).exports]
      refine exportConfiguration_profiles hd' ?_ p
      unfold exportConfiguration
      rw [hd']
    · have hbefore : previous.profileNames = deviceState.profileNames := by
        unfold exportConfiguration at hprevious
        rw [hd] at hprevious
        cases hprevious
        rfl
      rw [hbefore]
      exact importNames_names hnames p
  · rw [StateFile.physicalIdOf_eq hd', StateFile.physicalIdOf_eq hd, hid]
  · rw [hd', hd]
    rfl
  · intro p
    obtain ⟨value, -, hdpi⟩ := (hpart p).dpi
    rw [held_eq lawful_dpi hd', held_eq lawful_dpi hd, held_eq lawful_preferences hd', held_eq lawful_preferences hd,
      held_eq lawful_buttons hd', held_eq lawful_buttons hd, held_eq lawful_pollingRate hd', held_eq lawful_pollingRate hd]
    refine ⟨?_, ?_, ?_, ?_⟩
    · exact (congrArg ResourceState.observed hdpi).trans (observed_imported ..)
    · exact (congrArg ResourceState.observed (hpart p).preferences).trans (observed_imported ..)
    · exact (congrArg ResourceState.observed (hpart p).buttons).trans (observed_imported ..)
    · exact (congrArg ResourceState.observed (hpart p).pollingRate).trans (observed_imported ..)
  · intro d hne
    exact BTreeMap.get_insert_of_ne _ hne.symm _
  · intro p
    rw [held_eq lawful_dpi hd', held_eq lawful_dpi hd]
    exact (hpart p).tail
  · intro p
    obtain ⟨value, hsome, hdpi⟩ := (hpart p).dpi
    rw [held_eq lawful_dpi hd', held_eq lawful_preferences hd', held_eq lawful_buttons hd', held_eq lawful_pollingRate hd']
    refine ⟨fun hgiven => ?_, fun hgiven => ?_, fun hgiven => ?_, fun hgiven => ?_⟩
    · exact notSent_imported hdpi (hsome.trans hgiven)
    · exact notSent_imported (hpart p).preferences hgiven
    · exact notSent_imported (hpart p).buttons hgiven
    · exact notSent_imported (hpart p).pollingRate hgiven

/-- **A portable configuration is imported whole**, or not at all; one that is answered with an error may have been imported
whole only where the store replaced its document and then failed. -/
theorem import_overrides (hd : state.devices[identity.id]? = some deviceState) (hid : deviceState.identity = identity)
    {result : Except ManagerError Unit} (himport : importConfiguration identity configuration now state result state') :
    (∀ e, result = .error e → state' = state ∨ ∃ source, e = .state source ∧ state'.validate = .ok () ∧
      Imported state state' identity.id configuration now) ∧
    (result = .ok () → Imported state state' identity.id configuration now) := by
  unfold importConfiguration at himport
  split at himport
  · obtain ⟨rfl, rfl⟩ := himport
    exact ⟨fun _ _ => .inl rfl, nofun⟩
  · constructor
    · rintro e rfl
      cases himport with
      | dropped _ | rejected _ _ | failed _ => exact .inl rfl
      | unsynced source gives valid => exact .inr ⟨source, rfl, valid, imported_of_importInto hd hid gives⟩
    · rintro rfl
      exact imported_of_importInto hd hid himport.of_ok

end Device

end AttackSharkX3

namespace AttackSharkX3.Rig

/-- A saved mouse whose stamped image of the first profile is on record. -/
def stampedOnce : StateFile :=
  holding (wired "a") .empty [(first, { ProfileState.empty with dpi := acknowledged (image (some (token 1)) first) })]

def savedIdentity : DeviceIdentity :=
  { DeviceIdentity.new mouse1 none with physicalId := some (token 1) }.upsertEndpoint (wired "a")

/-- Another stage, a rate and a name. -/
def document : ConfigurationExport where
  profiles := (∅ : BTreeMap ProfileId ProfileConfiguration).insert first
    { dpi := some ⟨first, [⟨1600, DpiValue.range_1600⟩], ⟨1, StageIndex.one_range⟩, {}⟩, pollingRate := some .hz1000 }
  profileNames := (∅ : BTreeMap ProfileId String).insert first " Work "

/-- The document gives a valid state, and a different one. -/
theorem importInto_document : validateConfiguration document = .ok () ∧
    stampedOnce.devices[mouse1]?.map (·.identity) = some savedIdentity ∧
    ∃ after, importInto savedIdentity document ⟨5⟩ stampedOnce = .ok ((), after) ∧ after.validate = .ok () ∧
      after ≠ stampedOnce := by
  refine ⟨by decide +kernel, by decide +kernel, ?_⟩
  have hrun : (match importInto savedIdentity document ⟨5⟩ stampedOnce with
      | .ok ended => decide (ended.2.validate = .ok () ∧ ended.2 ≠ stampedOnce)
      | .error _ => false) = true := by decide +kernel
  cases himport : importInto savedIdentity document ⟨5⟩ stampedOnce with
  | error e =>
    rw [himport] at hrun
    cases hrun
  | ok ended =>
    rw [himport] at hrun
    exact ⟨ended.2, rfl, of_decide_eq_true hrun⟩

/-- The document is imported. -/
theorem overrides_document : ∃ state', importConfiguration savedIdentity document ⟨5⟩ stampedOnce (.ok ()) state' ∧
    Imported stampedOnce state' mouse1 document ⟨5⟩ := by
  obtain ⟨hdocument, hsaved, after, hrun, hvalid, -⟩ := importInto_document
  obtain ⟨deviceState, hd, hid⟩ := Option.map_eq_some_iff.1 hsaved
  have himport : importConfiguration savedIdentity document ⟨5⟩ stampedOnce (.ok ()) after := by
    unfold importConfiguration
    rw [hdocument]
    exact .stored hrun hvalid
  exact ⟨after, himport, (import_overrides hd hid himport).2 rfl⟩

/-- **An import is answered with an error, and made**: the directory of the state file could not be synced. -/
theorem fails_after_replacing : stampedOnce.validate = .ok () ∧
    stampedOnce.devices[mouse1]?.map (·.identity) = some savedIdentity ∧
    ∃ e state', importConfiguration savedIdentity document ⟨5⟩ stampedOnce (.error e) state' ∧ state' ≠ stampedOnce := by
  obtain ⟨hdocument, hsaved, after, hrun, hvalid, hne⟩ := importInto_document
  have himport : importConfiguration savedIdentity document ⟨5⟩ stampedOnce
      (.error (.state (.io "state.json" "sync failed"))) after := by
    unfold importConfiguration
    rw [hdocument]
    exact .unsynced _ hrun hvalid
  exact ⟨by decide +kernel, hsaved, _, after, himport, hne⟩

end AttackSharkX3.Rig
