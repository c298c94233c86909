import AttackSharkX3.Alone
import AttackSharkX3.Issued
import AttackSharkX3.Parts
import AttackSharkX3.Reserved
import AttackSharkX3.Stamp
import AttackSharkX3.Subjects
/-!
# Migrated — the name of the legacy mouse

First-time setup gives the name of the legacy mouse to the captured mouse whose evidence is the same.  What was captured is
only observed; what ordinary calls leave of the profile numbers is desired, too, once it is observed.  So no captured mouse
ever has the same evidence, and every mouse gets a fresh name.
-/
namespace AttackSharkX3

open Effects (Fallible Leads)
open Mutation (apply_bind apply_get)

/-! ## Captures -/

/-- A subject is journalled with a capture. -/
def Txn.FromCapture : Txn → Prop
  | .pushSubject _ subject _ => subject.FromCapture
  | _ => True

theorem Txn.stamps_fromCapture {phase : IdentitySetupPhase} {t : Txn} (h : t.stamps phase) : t.FromCapture := by
  cases t with
  | pushSubject phase' subject allValid => cases h
  | _ => trivial

theorem commits_begin {may : Txn → Prop} (h : ∀ phase, may (.beginCeremony phase)) (kind : IdentityCeremonyKind)
    (target : Option DeviceId) : Fallible.Only (Op.commits may) (beginIdentityCeremony kind target) := by
  refine .bind (commits_of_among among_load) fun state => .bind ?_ fun _ => .bind (.ite .ensure .ensure) fun _ => ?_
  · split
    · exact .throw
    · exact .pure
  refine .bind (commits_of_calm (calm_of_quiet quiet_requireTarget)) fun _ => ?_
  refine .bind (commits_of_calm calm_refuseConnected) fun _ => .bind (commits_of_among (among_commit (h _))) fun _ => ?_
  exact .bind (commits_of_among among_load) fun _ => .bind (commits_of_calm calm_expect) fun _ => .pure

/-- **Only captures are journalled**, whatever is called. -/
theorem commits_fromCapture [Crc32fast] (call : Call) : Fallible.Only (Op.commits Txn.FromCapture) call.program := by
  have hordinary : ∀ {d : Option DeviceId}, call.rule = ordinaryRule d →
      Fallible.Only (Op.commits Txn.FromCapture) call.program := by
    intro d hrule
    refine Effects.Prog.Keeps.only (fun h o ho => ?_) _ _ call.keeps
    rw [hrule] at ho
    cases o with
    | commit t => cases t <;> trivial
    | _ => trivial
  cases call with
  | ceremony action endpoint target =>
    refine .bind ?_ fun _ => .pure
    cases action with
    | begin kind => exact commits_begin (fun _ => trivial) kind target
    | reconnected | capture => exact .bind .ofOption fun shown => commits_reconnected (fun _ _ _ h => h) shown target
    | stamp => exact commits_mono (fun _ ⟨_, h⟩ => Txn.stamps_fromCapture h) commits_stamp
    | adopt =>
      refine .bind (commits_of_among among_load) fun _ => .bind .ofOption fun _ => .bind .ensure fun _ => ?_
      exact commits_mono (fun _ ⟨_, h⟩ => Txn.stamps_fromCapture h) commits_stamp
    | associate => exact .bind .ofOption fun shown => commits_of_among (among_associate (fun _ _ => trivial) shown target)
    | acceptMigration | skipMigration => exact commits_of_among (among_finalizeMigration (fun _ => trivial) _)
    | cancel => exact commits_of_among (among_cancel trivial)
  | _ => exact hordinary rfl

/-! ## Profile numbers -/

/-- The profile numbers that were observed are desired, too. -/
def DeviceState.Backed (device : DeviceState) : Prop :=
  device.profileMetadata.observed.isSome = true → device.profileMetadata.desired.isSome = true

def StateFile.Backed (state : StateFile) : Prop :=
  ∀ (id : DeviceId) (device : DeviceState), state.devices[id]? = some device → device.Backed

/-- **A legacy installation was one before**, and its mouse is still backed. -/
structure Backs (state after : StateFile) : Prop where
  mode : after.identityMode = .legacy → state.identityMode = .legacy
  backed : after.identityMode = .legacy → state.Backed → after.Backed

namespace Backs

variable {state after : StateFile}

instance : IsPreorder StateFile Backs where
  refl _ := ⟨id, fun _ => id⟩
  trans _ _ _ hab hbc := ⟨fun h => hab.mode (hbc.mode h), fun h hbacked => hbc.backed h (hab.backed (hbc.mode h) hbacked)⟩

/-- An installation that tells its mice apart has no legacy mouse. -/
theorem of_persistent (h : after.identityMode = .persistent) : Backs state after := by
  constructor <;> intro hlegacy <;> rw [h] at hlegacy <;> cases hlegacy

theorem of_devices (hmode : after.identityMode = state.identityMode)
    (h : ∀ (id : DeviceId) (device : DeviceState), after.devices[id]? = some device → device.Backed ∨
      ∃ before, state.devices[id]? = some before ∧ (before.Backed → device.Backed)) : Backs state after := by
  refine ⟨fun hlegacy => hmode ▸ hlegacy, fun _ hbacked id device hd => ?_⟩
  rcases h id device hd with hnow | ⟨before, hbefore, hkeeps⟩
  · exact hnow
  · exact hkeeps (hbacked id before hbefore)

/-- The mice are as they were. -/
theorem of_same (hmode : after.identityMode = state.identityMode) (hdevices : after.devices = state.devices) :
    Backs state after := by
  refine of_devices hmode fun id device hd => .inr ⟨device, ?_, fun hbacked => hbacked⟩
  rw [← hdevices]
  exact hd

/-- A mouse is put in the place of another, or of none. -/
theorem of_insert {device : DeviceId} {deviceState : DeviceState} {n : Nat} {selected : Option DeviceId}
    {mapping : EndpointMapping}
    (h : deviceState.Backed ∨ ∃ before, state.devices[device]? = some before ∧ (before.Backed → deviceState.Backed)) :
    Backs state { state with
      nextDeviceNumber := n
      devices := state.devices.insert device deviceState
      selectedDevice := selected
      endpointMapping := mapping } := by
  refine of_devices rfl fun id found hd => ?_
  have hd : (state.devices.insert device deviceState)[id]? = some found := hd
  by_cases hid : device = id
  · subst hid
    rw [BTreeMap.get_insert_self] at hd
    cases hd
    exact h
  · rw [BTreeMap.get_insert_of_ne _ hid] at hd
    exact .inr ⟨found, hd, fun hbacked => hbacked⟩

end Backs

theorem DeviceState.backed_new (identity : DeviceIdentity) : (DeviceState.new identity).Backed := nofun

abbrev BacksAt {α : Type} (state : StateFile) (m : Mutation α) : Prop := LeavesAt Backs state m

section Transactions

variable {state : StateFile}

theorem backs_allocate : BacksAt state (Mutation.lift StateFile.allocateDeviceId) := by
  obtain ⟨n, hstate⟩ := allocateFrom_state (state.devices.size + 1) state
  show Backs state (StateFile.allocateFrom (state.devices.size + 1) state).2
  rw [hstate]
  exact .of_same rfl rfl

theorem backs_persistWrite {T : Type} [DecidableEq T] {sect : Section T} {device : DeviceId} {profile : ProfileId}
    {desired : T} {write : SessionWrite T} {now : Timestamp} :
    BacksAt state (persistWrite sect device profile desired write now) := by
  refine .bind_get (.bind_orError fun deviceState hd => ?_)
  exact .bind (Backs.of_insert (.inr ⟨deviceState, hd, id⟩)) fun _ _ _ => .of_pure

/-- Only the journal is changed. -/
theorem backs_setup (setup : Option IdentitySetupJournal) : Backs state { state with identitySetup := setup } :=
  .of_same rfl rfl

theorem backs_allocateDeviceIds : ∀ (n : Nat) (state : StateFile), BacksAt state (allocateDeviceIds n)
  | 0, _ => .of_pure
  | n + 1, _ => .bind backs_allocate fun _ _ _ => .bind (backs_allocateDeviceIds n _) fun _ _ _ => .of_pure

/-! ## Ceremonies -/

/-- A ceremony for one mouse does not change how mice are told apart. -/
theorem retains_mode_finalizePhase {journal : IdentitySetupJournal} (hphase : journal.phase ≠ .initialEnrollment)
    (skip : Bool) : Retains (·.identityMode) (finalizePhase journal skip) := by
  have hallocate : Retains (·.identityMode) (Mutation.lift StateFile.allocateDeviceId) := by
    intro state
    obtain ⟨n, hstate⟩ := allocateFrom_state (state.devices.size + 1) state
    simp only [Mutation.apply_lift, StateFile.allocateDeviceId, hstate]
  have hnew : Retains (·.identityMode) (finalizeNewMouse journal) := by
    exact .bind .of_orError fun _ => .bind .of_orError fun _ => .bind hallocate fun _ => .of_modify fun _ => rfl
  unfold finalizePhase
  split
  · next heq => exact absurd heq hphase
  · exact hnew
  · exact hnew
  · exact .bind .of_get fun _ => .bind .of_orError fun _ => .bind .of_orError fun _ => .bind .of_orError fun _ =>
      .bind .of_orError fun _ => .of_modify fun _ => rfl
  · exact .bind .of_get fun _ => .bind .of_orError fun _ => .bind .of_orError fun _ => .bind .of_orError fun _ =>
      .of_modify fun _ => rfl

/-- A ceremony other than first-time setup runs where mice are told apart. -/
def StateFile.Housed (state : StateFile) (phase : IdentitySetupPhase) : Prop :=
  phase ≠ .initialEnrollment → state.identityMode = .persistent

theorem StateFile.housed_of_valid {journal : IdentitySetupJournal} (hv : state.validate = .ok ())
    (hj : state.identitySetup = some journal) : state.Housed journal.phase := by
  intro hphase
  have hmode := (validateIdentitySetup_ok.1 (valid_setup hv hj)).1
  rw [IdentitySetupJournal.validateMode_ok, if_neg hphase] at hmode
  exact hmode

/-- **Finalization leaves no legacy mouse**: it is the end of first-time setup, or there was none before. -/
theorem backs_finalizePhase {journal : IdentitySetupJournal} (hhoused : state.Housed journal.phase) (skip : Bool) :
    BacksAt state (finalizePhase journal skip) := by
  by_cases hphase : journal.phase = .initialEnrollment
  · unfold finalizePhase
    rw [hphase]
    refine .bind_get (.bind_of (backs_allocateDeviceIds ..) fun ids state' _ => .of_persistent rfl)
  · refine Backs.of_persistent ((retains_mode_finalizePhase hphase skip state).trans (hhoused hphase))

theorem backs_finalizeCeremony (hhoused : ∀ journal, state.identitySetup = some journal → state.Housed journal.phase)
    (skip : Bool) : BacksAt state (finalizeCeremony skip) := by
  refine .bind_get (.bind_orError fun journal hj => ?_)
  exact .bind (backs_finalizePhase (hhoused journal hj) skip) fun _ _ _ => .of_modify (backs_setup _)

theorem backs_updateLastSubject (f : IdentitySetupSubject → IdentitySetupSubject) :
    BacksAt state (Txn.updateLastSubject f) := by
  refine .bind_get (.bind_orError fun journal _ => .bind_orError fun subject _ => ?_)
  have hset : BacksAt state (set (Txn.setJournal state
      { journal with subjects := journal.subjects.dropLast ++ [f subject] }) : Mutation PUnit) := backs_setup _
  exact .bind hset fun _ _ _ => .of_pure

theorem backs_journalSubject {phase : IdentitySetupPhase} {subject : IdentitySetupSubject} {allValid : Bool}
    (hv : state.validate = .ok ()) : BacksAt state (Txn.journalSubject phase subject allValid) := by
  refine .bind_get (.bind_orError fun journal hj => .bind_refuseIf ?_)
  have hhoused := StateFile.housed_of_valid hv hj
  cases allValid with
  | true =>
    refine .bind (backs_setup _) fun _ state' hset => backs_finalizeCeremony ?_ false
    cases hset
    rintro _ ⟨⟩
    exact hhoused
  | false => exact backs_setup _

theorem backs_advance {phase : IdentitySetupPhase} {awaitSecond : Bool} {pendingLast : Option ProfileId}
    (hv : state.validate = .ok ()) : BacksAt state (Txn.advance phase awaitSecond pendingLast) := by
  refine .bind (backs_updateLastSubject _) fun journal state' hupdate => ?_
  cases awaitSecond with
  | true => exact .of_modify (backs_setup _)
  | false =>
    refine .bind (.of_modify (backs_setup _)) fun _ state'' hset => .ite (backs_finalizeCeremony ?_ false) .of_pure
    rcases updateLastSubject_apply _ state with ⟨e, h⟩ | ⟨current, subject, hj, -, h⟩
    · rw [h] at hupdate
      cases hupdate
    · rw [h] at hupdate
      cases hupdate
      have hhoused := StateFile.housed_of_valid hv hj
      cases hset
      rintro _ ⟨⟩
      exact hhoused

theorem backs_associate {endpoint : DeviceEndpoint} {device : DeviceId} (hv : state.validate = .ok ()) :
    BacksAt state (Txn.associateEndpoint endpoint device) := by
  refine .bind_get (.bind_orError fun journal hj => .bind_refuseIf ?_)
  have hhoused := StateFile.housed_of_valid hv hj
  split
  · exact .of_throw
  · refine .bind (backs_setup _) fun _ state' hset => .bind (backs_finalizeCeremony ?_ false) fun _ _ _ => .of_pure
    cases hset
    rintro _ ⟨⟩
    exact hhoused

/-- **A transaction on a valid state keeps a legacy mouse backed.** -/
theorem Txn.backs (t : Txn) (hv : state.validate = .ok ()) : Backs state (t.after state) := by
  show BacksAt state t.run
  cases t with
  | ensureLegacyMouse discovered =>
    refine .bind_get (.ite (.bind backs_allocate fun id state' _ => ?_) .of_pure)
    exact .of_modify (.of_insert (.inl (DeviceState.backed_new _)))
  | attachSilently endpoint device now =>
    refine .bind_get ?_
    split
    · exact .of_pure
    · next deviceState hd => exact Backs.of_insert (.inr ⟨deviceState, hd, id⟩)
  | syncEndpointAssociations rows selection =>
    refine .of_modify (.of_devices rfl fun id device hd => .inr ?_)
    have hd : (state.devices.map (Txn.syncDevice rows selection))[id]? = some device := hd
    rw [Std.ExtTreeMap.getElem?_map] at hd
    obtain ⟨before, hbefore, rfl⟩ := Option.map_eq_some_iff.1 hd
    refine ⟨before, hbefore, fun hbacked => ?_⟩
    unfold syncDevice
    dsimp only
    split
    · exact hbacked
    · exact hbacked
  | rememberResolution endpoint device now =>
    exact .bind_get (.bind_orError fun deviceState hd => Backs.of_insert (.inr ⟨deviceState, hd, id⟩))
  | beginCeremony phase => exact .of_modify (backs_setup _)
  | pushSubject phase subject allValid => exact backs_journalSubject hv
  | reserveToken token | markStamped profile => exact .bind (backs_updateLastSubject _) fun _ _ _ => .of_pure
  | finishStamping phase awaitSecond pendingLast => exact backs_advance hv
  | finalizeMigration skip => exact backs_finalizeCeremony (fun _ => StateFile.housed_of_valid hv) skip
  | associate endpoint device => exact backs_associate hv
  | cancelCeremony => exact .of_modify (backs_setup _)
  | persistDpi | persistPreferences | persistButtons | persistPollingRate => exact backs_persistWrite
  | persistProfile device profile writes now =>
    exact .bind (.mapM fun _ _ => backs_persistWrite) fun _ _ _ => .bind (.mapM fun _ _ => backs_persistWrite) fun _ _ _ =>
      .bind (.mapM fun _ _ => backs_persistWrite) fun _ _ _ => .of_pure
  | persistObservation device target snapshot pollingRate persistence verifiedAt =>
    exact .bind_get (.bind_orError fun deviceState hd => Backs.of_insert (.inr ⟨deviceState, hd, id⟩))
  | persistMetadata device target observed now =>
    refine .bind_get (.bind_orError fun deviceState hd => Backs.of_insert (.inl fun _ => ?_))
    cases observed with
    | some observed => rfl
    | none => rfl
  | reconcile device metadata profiles now =>
    refine .bind_get (.bind_orError fun deviceState hd => .bind (Backs.of_insert (.inr ⟨deviceState, hd, fun hbacked => ?_⟩))
      fun _ _ _ => .of_pure)
    cases metadata with
    | some metadata => exact fun _ => rfl
    | none => exact hbacked
  | updateLocator device endpoint =>
    exact .bind_get (.bind_orError fun deviceState hd => Backs.of_insert (.inr ⟨deviceState, hd, id⟩))

end Transactions

/-! ## The calls that only change the store -/

/-- The body leaves the ceremony and how mice are told apart, and a legacy mouse is still backed. -/
def Unhandled {A : Type} (body : StateFile → Except ManagerError (A × StateFile)) : Prop :=
  ∀ state a after, body state = .ok (a, after) → Backs state after ∧ after.identitySetup = state.identitySetup

theorem unhandled_changeDevice {device : DeviceId} {change : DeviceState → DeviceState}
    (h : ∀ deviceState, deviceState.Backed → (change deviceState).Backed) : Unhandled (changeDevice device change) := by
  intro state a after hbody
  unfold changeDevice at hbody
  split at hbody
  · cases hbody
  · next deviceState hd =>
    cases hbody
    exact ⟨.of_insert (.inr ⟨deviceState, hd, h deviceState⟩), rfl⟩

theorem unhandled_registerDevice {identity : DeviceIdentity} : Unhandled (registerDevice identity) := by
  intro state a after hbody
  unfold registerDevice at hbody
  cases hreserve : state.reserveNumber identity.id with
  | error e =>
    rw [hreserve] at hbody
    cases hbody
  | ok reserved =>
    obtain ⟨n, -, rfl, -⟩ := reserveNumber_ok hreserve
    rw [hreserve] at hbody
    cases hbody
    refine ⟨.of_devices rfl fun id device hd => ?_, rfl⟩
    have hd : (state.devices.insertIfNew identity.id (.new identity))[id]? = some device := hd
    rw [Std.ExtTreeMap.getElem?_insertIfNew] at hd
    split at hd
    · cases hd
      exact .inl (DeviceState.backed_new identity)
    · exact .inr ⟨device, hd, fun hbacked => hbacked⟩

theorem unhandled_importInto {identity : DeviceIdentity} {configuration : ConfigurationExport} {now : Timestamp} :
    Unhandled (importInto identity configuration now) := by
  intro state a after hbody
  obtain ⟨n, profiles, profileNames, -, -, -, -, rfl⟩ := importInto_ok hbody
  refine ⟨.of_insert ?_, rfl⟩
  cases hd : state.devices[identity.id]? with
  | none => exact .inl (DeviceState.backed_new identity)
  | some deviceState => exact .inr ⟨deviceState, rfl, fun hbacked => hbacked⟩

theorem unhandled_removeDevice {device : DeviceId} {force : Bool} : Unhandled (removeDevice device force) := by
  intro state a after hbody
  unfold removeDevice at hbody
  split at hbody
  · cases hbody
  · split at hbody
    · cases hbody
      exact ⟨refl state, rfl⟩
    · cases hbody
      refine ⟨.of_devices rfl fun id found hd => .inr ⟨found, ?_, fun hbacked => hbacked⟩, rfl⟩
      have hd : (state.devices.erase device)[id]? = some found := hd
      rw [Std.ExtTreeMap.getElem?_erase] at hd
      split at hd
      · cases hd
      · exact hd

theorem unhandled_setProfileName {device : DeviceId} {profile : ProfileId} {name : String} :
    Unhandled (setProfileName device profile name) := by
  intro state a after hbody
  unfold setProfileName at hbody
  split at hbody
  · cases hbody
  · refine unhandled_changeDevice ?_ _ _ _ hbody
    exact fun _ => id
  · refine unhandled_changeDevice ?_ _ _ _ hbody
    exact fun _ => id

theorem unhandled_selectDevice {device : DeviceId} : Unhandled (selectDevice device) := by
  intro state a after hbody
  unfold selectDevice at hbody
  split at hbody
  · cases hbody
    exact ⟨.of_same rfl rfl, rfl⟩
  · cases hbody

theorem DeviceState.backed_invalidated {device : DeviceState} {profiles : BTreeMap ProfileId ProfileState}
    (h : device.Backed) :
    ({ device with profileMetadata := device.profileMetadata.invalidatePersistence, profiles } : DeviceState).Backed := by
  intro hobserved
  show (device.profileMetadata.desired.map _).isSome = true
  rw [Option.isSome_map]
  exact h hobserved

/-! ## Runs -/

/-- A captured image says only what was seen of the profile numbers. -/
def CapturedProfileImage.OnlySeen (captured : CapturedProfileImage) : Prop :=
  captured.profileMetadata.desired = none ∧ captured.profileMetadata.observed.isSome = true

/-- **A legacy mouse is backed, and what a ceremony has captured is only seen.** -/
structure StateFile.Unmatched (state : StateFile) : Prop where
  backed : state.identityMode = .legacy → state.Backed
  seen : ∀ journal, state.identitySetup = some journal → ∀ subject ∈ journal.subjects, ∀ captured,
    subject.captured = some captured → captured.OnlySeen

section Run

variable {state state' : StateFile} {past : List StateFile}

theorem StateFile.Unmatched.of_backs (h : state.Unmatched) (hbacks : Backs state state')
    (hsetup : state'.identitySetup = state.identitySetup) : state'.Unmatched := by
  refine ⟨fun hlegacy => hbacks.backed hlegacy (h.backed (hbacks.mode hlegacy)), ?_⟩
  rw [hsetup]
  exact h.seen

/-- One transaction, where only captures are journalled. -/
theorem StateFile.Unmatched.after (h : state.Unmatched) (hv : state.validate = .ok ()) {t : Txn} (ht : t.FromCapture) :
    (t.after state).Unmatched := by
  have hbacks := Txn.backs t hv
  refine ⟨fun hlegacy => hbacks.backed hlegacy (h.backed (hbacks.mode hlegacy)), ?_⟩
  intro journal' hj' subject' hmem captured hcaptured
  rcases (Txn.journalStep t state).origin hj' hmem with ⟨journal, hj, hmem⟩ | ⟨journal, subject, hj, hlast, hstep⟩ |
    ⟨phase, allValid, rfl⟩ | ⟨endpoint, device, -, rfl⟩
  · exact h.seen journal hj subject' hmem captured hcaptured
  · exact h.seen journal hj subject (List.mem_of_getLast? hlast) captured (hstep.captured.symm.trans hcaptured)
  · obtain ⟨capture, now, himage⟩ := ht
    cases himage.symm.trans hcaptured
    exact ⟨rfl, rfl⟩
  · cases hcaptured

theorem Transacts.unhandled {A : Type} {body : StateFile → Except ManagerError (A × StateFile)} {r : Except ManagerError A}
    (h : Transacts body state r state') (hbody : Unhandled body) :
    Backs state state' ∧ state'.identitySetup = state.identitySetup := by
  rcases h.cases with rfl | ⟨a, hgives, -⟩
  · exact ⟨refl _, rfl⟩
  · exact hbody _ _ _ hgives

/-- **One operation** is a transaction, or no ceremony and no backing is touched by it. -/
theorem Manages.unhandled {admits : Txn → Prop} (h : Manages admits state state') :
    (∃ t r, admits t ∧ Commits t state r state') ∨ (Backs state state' ∧ state'.identitySetup = state.identitySetup) := by
  cases h with
  | transaction admitted h => exact .inl ⟨_, _, admitted, h⟩
  | registerDevice h => exact .inr (h.unhandled unhandled_registerDevice)
  | importConfiguration h =>
    unfold AttackSharkX3.importConfiguration at h
    split at h
    · obtain ⟨-, rfl⟩ := h
      exact .inr ⟨refl _, rfl⟩
    · exact .inr (h.unhandled unhandled_importInto)
  | forgetDevice h => exact .inr (h.unhandled unhandled_removeDevice)
  | renameDevice h | removeProfileName h | setPreferredTransport h =>
    refine .inr (h.unhandled (unhandled_changeDevice ?_))
    exact fun _ hbacked hobserved => hbacked hobserved
  | invalidateState h =>
    refine .inr (h.unhandled (unhandled_changeDevice ?_))
    exact fun _ => DeviceState.backed_invalidated
  | setProfileName h => exact .inr (h.unhandled unhandled_setProfileName)
  | selectDevice h => exact .inr (h.unhandled unhandled_selectDevice)

theorem Manages.unmatched (h : Manages Txn.FromCapture state state') (hv : state.validate = .ok ()) (hu : state.Unmatched) :
    state'.Unmatched := by
  rcases h.unhandled with ⟨t, r, admitted, h⟩ | ⟨hbacks, hsetup⟩
  · rcases h.cases with rfl | ⟨rfl, -⟩
    · exact hu
    · exact hu.after hv admitted
  · exact hu.of_backs hbacks hsetup

/-- **No state of a run has a legacy mouse that a capture matches.** -/
theorem Committed.unmatched : ∀ {past : List StateFile} {state : StateFile},
    Committed Txn.FromCapture (state :: past) → state.Unmatched
  | _, _, .start => by
    refine ⟨fun _ id device hd => by simp [StateFile.default] at hd, ?_⟩
    rintro _ ⟨⟩
  | _, _, .step before manages => manages.unmatched (before.held _ List.mem_cons_self).1 before.unmatched

end Run

/-! ## The end of first-time setup -/

/-- The values on record for a profile. -/
def ProfileState.values (profile : ProfileState) :
    Option DpiState × Option PreferencesState × Option ButtonsState × Option PollingRate :=
  (valueForExport profile.dpi, valueForExport profile.preferences, valueForExport profile.buttons,
    valueForExport profile.pollingRate)

/-- **The values on record for the legacy mouse are those captured from the subject**, profile numbers and all profiles. -/
def Matches (legacy : DeviceState) (subject : IdentitySetupSubject) : Prop :=
  ∃ captured, subject.captured = some captured ∧
    valueForExport legacy.profileMetadata = valueForExport captured.profileMetadata ∧
    ∀ profile : ProfileId, legacy.profiles[profile]?.map ProfileState.values = captured.profiles[profile]?.map ProfileState.values

/-- The mouse made of the subject has this name. -/
def NamedFor (state : StateFile) (subject : IdentitySetupSubject) (name : Option String) : Prop :=
  ∃ (id : DeviceId) (device : DeviceState), state.devices[id]? = some device ∧
    device.identity.physicalId = subject.token ∧ device.identity.displayName = name

/-- **The legacy name goes to the mouse that alone matches**, and to neither otherwise. -/
structure MigratesName (legacy : DeviceState) (first second : IdentitySetupSubject) (after : StateFile) : Prop where
  toFirst : Matches legacy first → ¬ Matches legacy second → NamedFor after first legacy.identity.displayName
  toSecond : Matches legacy second → ¬ Matches legacy first → NamedFor after second legacy.identity.displayName
  toNeither : (Matches legacy first ↔ Matches legacy second) →
    ¬ NamedFor after first legacy.identity.displayName ∧ ¬ NamedFor after second legacy.identity.displayName

/-- The legacy name is a fresh one, of the mouse that alone matches, or of neither. -/
structure NamedAnyway (legacy : DeviceState) (first second : IdentitySetupSubject) : Prop where
  ofFirst : Matches legacy first → ¬ Matches legacy second → legacy.identity.displayName = some "Mouse 1"
  ofSecond : Matches legacy second → ¬ Matches legacy first → legacy.identity.displayName = some "Mouse 2"
  ofNeither : (Matches legacy first ↔ Matches legacy second) →
    legacy.identity.displayName ≠ some "Mouse 1" ∧ legacy.identity.displayName ≠ some "Mouse 2"

section Ending

variable {state state' : StateFile} {journal : IdentitySetupJournal} {legacy : DeviceState}
  {first second : IdentitySetupSubject}

theorem legacyCaptureMatches_eq_false {captured : CapturedProfileImage} (hbacked : legacy.Backed) (hseen : captured.OnlySeen) :
    legacyCaptureMatches legacy captured = false := by
  by_contra hmatches
  rw [Bool.not_eq_false, legacyCaptureMatches, Bool.and_eq_true, decide_eq_true_eq] at hmatches
  unfold DeviceState.Backed at hbacked
  rw [hmatches.1, hseen.1] at hbacked
  exact absurd (hbacked hseen.2) (by decide)

/-- **No subject is ever found to match.** -/
theorem uniqueMatch_eq_none (hbacked : legacy.Backed) (hseen : ∀ subject ∈ journal.subjects, ∀ captured,
    subject.captured = some captured → captured.OnlySeen) : uniqueMatch (some legacy) journal false = none := by
  unfold uniqueMatch
  rw [if_neg Bool.false_ne_true, Option.bind_some, List.filter_eq_nil_iff.2 ?_]
  · rfl
  · rintro ⟨subject, index⟩ hmem
    have hsubject : subject ∈ journal.subjects := List.fst_mem_of_mem_zipIdx hmem
    cases hcaptured : subject.captured with
    | none => simp [hcaptured]
    | some captured => simp [hcaptured, legacyCaptureMatches_eq_false hbacked (hseen subject hsubject captured hcaptured)]

/-- The one mouse of a legacy installation. -/
theorem StateFile.legacy_values (hv : state.validate = .ok ()) (hmode : state.identityMode = .legacy) {id : DeviceId}
    (hd : state.devices[id]? = some legacy) : state.devices.values.head? = some legacy := by
  have hlegacy := (validate_ok.1 hv).2.2.2.2.2.1
  simp only [validateIdentityMode, hmode, then_ok, check_ok] at hlegacy
  have hlength : state.devices.values.length ≤ 1 := by
    rw [BTreeMap.values, List.length_map, Std.ExtTreeMap.length_toList]
    exact hlegacy.1
  have hmem : legacy ∈ state.devices.values := BTreeMap.mem_values.2 ⟨id, hd⟩
  cases hvalues : state.devices.values with
  | nil =>
    rw [hvalues] at hmem
    cases hmem
  | cons only rest =>
    rw [hvalues] at hmem hlength
    cases rest with
    | nil =>
      rw [List.mem_singleton.1 hmem]
      rfl
    | cons _ _ => simp at hlength

theorem enrolledDevice_displayName (id : DeviceId) (name : Option String) (subject : IdentitySetupSubject)
    (token : Option PhysicalId) : (enrolledDevice id name subject token).identity.displayName = normalizeText name := by
  unfold enrolledDevice applyCapturedImage
  cases subject.captured <;> rfl

/-- The two mice of an enrollment without a match. -/
theorem enrolledDevices_fresh (id₁ id₂ : DeviceId) : enrolledDevices (some legacy) none [first, second] [id₁, id₂] =
    ((∅ : BTreeMap DeviceId DeviceState).insert id₁ (enrolledDevice id₁ (some "Mouse 1") first first.token)).insert id₂
      (enrolledDevice id₂ (some "Mouse 2") second second.token) := by
  have hfirst : s!"Mouse {0 + 1}" = "Mouse 1" := by decide
  have hsecond : s!"Mouse {1 + 1}" = "Mouse 2" := by decide
  simp only [enrolledDevices, List.zipIdx_cons, List.zipIdx_nil, List.zip_cons_cons, List.zip_nil_right, List.foldl_cons,
    List.foldl_nil, reduceCtorEq, if_false]
  rw [← hfirst, ← hsecond]

/-- **Where nothing matches, the mice are called after their places.** -/
theorem finalizeCeremony_fresh (hj : state.identitySetup = some journal) (hphase : journal.phase = .initialEnrollment)
    (hsubjects : journal.subjects = [first, second]) (hlegacy : state.devices.values.head? = some legacy)
    (hnone : uniqueMatch (some legacy) journal false = none)
    (hran : (finalizeCeremony false).apply state = (.ok (), state')) : ∃ id₁ id₂, id₁ ≠ id₂ ∧
      state'.devices = ((∅ : BTreeMap DeviceId DeviceState).insert id₁ (enrolledDevice id₁ (some "Mouse 1") first first.token)).insert
        id₂ (enrolledDevice id₂ (some "Mouse 2") second second.token) := by
  obtain ⟨state₁, hp, hdevices⟩ := finalizeCeremony_phase hj hran
  unfold finalizePhase at hp
  rw [hphase] at hp
  simp only [finalizeInitialEnrollment, apply_bind, apply_get, hlegacy, hnone] at hp
  cases ha : (allocateDeviceIds journal.subjects.length).apply state with
  | mk r state₂ =>
    rw [ha] at hp
    cases r with
    | error e => cases hp
    | ok ids =>
      cases hp
      obtain ⟨hlen, hnodup, -⟩ := allocateDeviceIds_ok _ _ ha
      rw [hsubjects] at hlen
      obtain ⟨id₁, id₂, rfl⟩ := List.length_eq_two.1 hlen
      refine ⟨id₁, id₂, by simpa using hnodup, ?_⟩
      rw [hdevices, hsubjects]
      exact enrolledDevices_fresh id₁ id₂

/-- **What a call that accepted the migration left.** -/
theorem leads_acceptMigration : Leads (S := Backend) Op.does (fun s _ => s = state)
    (ceremonyFinalizeMigration .acceptMigration) (fun _ s _ => ∃ journal, state.identitySetup = some journal ∧
      (journal.phase = .initialEnrollment ∧ journal.stage = .finalizing ∧ journal.subjects.length = 2 ∧
        journal.subjects.all (·.isFullyStamped)) ∧ (finalizeCeremony false).apply state = (.ok (), s))
    fun _ _ _ => True := by
  refine .bind (Q := fun loaded s _ => loaded = state ∧ s = state) (.perform ?_) fun loaded => .of_pure fun hloaded => ?_
  · rintro s h r s' rfl ⟨rfl, rfl | ⟨e, rfl⟩⟩
    · exact ⟨rfl, rfl⟩
    · trivial
  subst hloaded
  refine .bind (Q := fun journal s _ => loaded.identitySetup = some journal ∧ s = loaded)
    (.ofOption (fun journal hj _ _ hs => ⟨hj, hs⟩) fun _ _ _ _ => trivial) fun journal => .of_pure fun hj => ?_
  refine .bind (Q := fun _ s _ => (journal.phase = .initialEnrollment ∧ journal.stage = .finalizing ∧
    journal.subjects.length = 2 ∧ journal.subjects.all (·.isFullyStamped)) ∧ s = loaded)
    (.ensure (fun hc _ _ hs => ⟨hc, hs⟩) fun _ _ _ _ => trivial) fun _ => .of_pure fun hguard => ?_
  refine .bind (Q := fun _ s _ => (finalizeCeremony false).apply loaded = (.ok (), s)) (.perform ?_) fun _ =>
    .pure fun s _ hs => ⟨journal, hj, hguard, hs⟩
  rintro s h r s' rfl hcommits
  have hcommits : Commits (.finalizeMigration false) s r s' := hcommits
  -- An answer is the closure's own, and the state is what it left.
  have hanswered : ∀ {answer : Except ManagerError Unit} {after : StateFile},
      Commits (.finalizeMigration false) s (.ok answer) after → (finalizeCeremony false).apply s = (answer, after) := by
    intro answer after h
    cases h with
    | unchanged same => exact Prod.ext rfl same
    | stored valid => rfl
  rcases (r : Except StateError (Except ManagerError Unit)) with e | e | ⟨⟩
  · trivial
  · trivial
  · exact hanswered hcommits

/-- The mice of an enrollment without a match, by the subject each was made of. -/
theorem namedFor_iff {id₁ id₂ : DeviceId} (hne : id₁ ≠ id₂) (htokens : first.token ≠ second.token)
    (hdevices : state'.devices = ((∅ : BTreeMap DeviceId DeviceState).insert id₁
      (enrolledDevice id₁ (some "Mouse 1") first first.token)).insert id₂
        (enrolledDevice id₂ (some "Mouse 2") second second.token)) (name : Option String) :
    (NamedFor state' first name ↔ name = some "Mouse 1") ∧ (NamedFor state' second name ↔ name = some "Mouse 2") := by
  have hname₁ : (enrolledDevice id₁ (some "Mouse 1") first first.token).identity.displayName = some "Mouse 1" := by
    rw [enrolledDevice_displayName]
    decide
  have hname₂ : (enrolledDevice id₂ (some "Mouse 2") second second.token).identity.displayName = some "Mouse 2" := by
    rw [enrolledDevice_displayName]
    decide
  have hget₁ : state'.devices[id₁]? = some (enrolledDevice id₁ (some "Mouse 1") first first.token) := by
    rw [hdevices, BTreeMap.get_insert_of_ne _ (Ne.symm hne), BTreeMap.get_insert_self]
  have hget₂ : state'.devices[id₂]? = some (enrolledDevice id₂ (some "Mouse 2") second second.token) := by
    rw [hdevices, BTreeMap.get_insert_self]
  have honly : ∀ (id : DeviceId) (device : DeviceState), state'.devices[id]? = some device → id = id₁ ∨ id = id₂ := by
    intro id device hd
    by_contra hother
    rw [not_or] at hother
    rw [hdevices, BTreeMap.get_insert_of_ne _ (Ne.symm hother.2), BTreeMap.get_insert_of_ne _ (Ne.symm hother.1)] at hd
    simp at hd
  have htoken₁ := (enrolledDevice_made id₁ (some "Mouse 1") first first.token).1
  have htoken₂ := (enrolledDevice_made id₂ (some "Mouse 2") second second.token).1
  constructor
  · constructor
    · rintro ⟨id, device, hd, htoken, rfl⟩
      rcases honly id device hd with rfl | rfl
      · cases hget₁.symm.trans hd
        exact hname₁
      · cases hget₂.symm.trans hd
        exact absurd (htoken.symm.trans htoken₂) htokens
    · rintro rfl
      exact ⟨id₁, _, hget₁, htoken₁, hname₁⟩
  · constructor
    · rintro ⟨id, device, hd, htoken, rfl⟩
      rcases honly id device hd with rfl | rfl
      · cases hget₁.symm.trans hd
        exact absurd (htoken₁.symm.trans htoken) htokens
      · cases hget₂.symm.trans hd
        exact hname₂
    · rintro rfl
      exact ⟨id₂, _, hget₂, htoken₂, hname₂⟩

/-- The subjects of a finalizing enrollment reserve two tokens. -/
theorem StateFile.tokens_ne (hv : state.validate = .ok ()) (hj : state.identitySetup = some journal)
    (hphase : journal.phase = .initialEnrollment) (hstage : journal.stage = .finalizing)
    (hsubjects : journal.subjects = [first, second]) : first.token ≠ second.token := by
  have hready := (IdentitySetupJournal.validateStage_finalizing hstage).1 (valid_stage hv hj)
  obtain ⟨-, -, -, hvalid, -⟩ := StateFile.validateIdentitySetup_ok.1 (valid_setup hv hj)
  obtain ⟨hnodup, -⟩ := IdentitySetupJournal.validateSubjects_tokens hvalid
  have hall := hready.2 (by rw [hphase]; decide)
  rw [hsubjects] at hnodup hall
  obtain ⟨A, hA⟩ := Option.isSome_iff_exists.1 (hall first (by simp)).1
  obtain ⟨B, hB⟩ := Option.isSome_iff_exists.1 (hall second (by simp)).1
  intro heq
  simp [hA, hB] at hnodup
  rw [hA, hB, Option.some.injEq] at heq
  exact hnodup heq

variable [Crc32fast] {past : List StateFile} {id : DeviceId} {endpoint : Option DeviceEndpoint} {target : Option DeviceId}
  {progress : IdentityCeremonyProgress} {history : Effects.Prog.History Backend}

/-- **When the legacy name goes where it should.**  No mouse ever inherits it, so it does only by coincidence: a mouse that
alone matches is given the same name as a fresh one, and one that is not to have it is given another. -/
theorem migrates_name_iff (hheld : Committed Txn.FromCapture (state :: past)) (hd : state.devices[id]? = some legacy)
    (hj : state.identitySetup = some journal) (hsubjects : journal.subjects = [first, second])
    (hgoes : Goes (identityCeremonyAction .acceptMigration endpoint target) state (.ok progress) state' history) :
    MigratesName legacy first second state' ↔ NamedAnyway legacy first second := by
  have hv : state.validate = .ok () := (hheld.held state List.mem_cons_self).1
  have hunmatched := hheld.unmatched
  obtain ⟨_, hj', ⟨hphase, hstage, -, -⟩, hran⟩ := leads_acceptMigration state [] _ state' history rfl hgoes
  cases hj.symm.trans hj'
  have hmode : state.identityMode = .legacy := by
    have hmode := (StateFile.validateIdentitySetup_ok.1 (StateFile.valid_setup hv hj)).1
    rw [IdentitySetupJournal.validateMode_ok, if_pos hphase] at hmode
    exact hmode
  have hnone := uniqueMatch_eq_none (hunmatched.backed hmode id legacy hd) (hunmatched.seen journal hj)
  obtain ⟨id₁, id₂, hne, hdevices⟩ := finalizeCeremony_fresh hj hphase hsubjects (StateFile.legacy_values hv hmode hd) hnone hran
  obtain ⟨hfirst, hsecond⟩ := namedFor_iff hne (StateFile.tokens_ne hv hj hphase hstage hsubjects) hdevices
    legacy.identity.displayName
  constructor
  · intro hmigrates
    refine ⟨fun h h' => hfirst.1 (hmigrates.toFirst h h'), fun h h' => hsecond.1 (hmigrates.toSecond h h'), fun h => ?_⟩
    obtain ⟨hnot, hnot'⟩ := hmigrates.toNeither h
    exact ⟨fun heq => hnot (hfirst.2 heq), fun heq => hnot' (hsecond.2 heq)⟩
  · intro hnamed
    refine ⟨fun h h' => hfirst.2 (hnamed.ofFirst h h'), fun h h' => hsecond.2 (hnamed.ofSecond h h'), fun h => ?_⟩
    obtain ⟨hnot, hnot'⟩ := hnamed.ofNeither h
    exact ⟨fun hgot => hnot (hfirst.1 hgot), fun hgot => hnot' (hsecond.1 hgot)⟩

end Ending

end AttackSharkX3

namespace AttackSharkX3.Rig

/-- Transactions on a store that never fails, one after another. -/
def committed (txns : List Txn) (state : StateFile) : StateFile :=
  txns.foldl (fun state t => (commitReliably t state).2) state

theorem committed_held {admits : Txn → Prop} : ∀ {txns : List Txn} {state : StateFile} {past : List StateFile},
    Committed admits (state :: past) → (∀ t ∈ txns, admits t) → ∃ past', Committed admits (committed txns state :: past')
  | [], _, past, hheld, _ => ⟨past, hheld⟩
  | t :: rest, state, _, hheld, hall => by
    have hnext := hheld.step (.transaction (hall t List.mem_cons_self) (commits_reliably t state))
    show ∃ past', Committed admits (committed rest (commitReliably t state).2 :: past')
    exact committed_held hnext fun t' ht => hall t' (List.mem_cons_of_mem _ ht)

def allProfiles : List ProfileId := ProfileId.upTo .MAX_ID

/-- The sections of each profile of an unmarked mouse. -/
def unmarkedSections (profile : ProfileId) : RefreshedProfile := ⟨image none profile, preferences profile, buttons profile, .hz1000⟩

/-- An unmarked mouse captured while this profile was current. -/
def captureAt (current : ProfileId) : ProfileCapture where
  originalMetadata := ⟨current, fifth, current.le_five⟩
  restoredMetadata := ⟨current, fifth, current.le_five⟩
  temporarilyExpanded := false
  profiles := allProfiles.foldl (fun profiles p => profiles.insert p (unmarkedSections p)) ∅

/-- A mouse of first-time setup, of which nothing is stamped. -/
def presented (path : String) (current : ProfileId) : IdentitySetupSubject :=
  ⟨wired path, none, none, none, some ((captureAt current).intoEvidence ⟨2⟩),
    ((captureAt current).intoEvidence ⟨2⟩).profiles.map fun _ _ => .captured⟩

/-- A mouse is presented, and each of its profiles is stamped. -/
def enrolling (path : String) (current : ProfileId) (n : UInt8) (awaitSecond : Bool) : List Txn :=
  [.pushSubject .initialEnrollment (presented path current) false, .reserveToken (token n)] ++
    allProfiles.dropLast.map Txn.markStamped ++ [.finishStamping .initialEnrollment awaitSecond (some fifth)]

/-- **A mouse that is named after its receiver is read**, and first-time setup then captures it and another. -/
def setUp : List Txn :=
  [.ensureLegacyMouse [⟨{ wired "a" with displayName := some "Attack Shark X3" }, true⟩],
    .reconcile mouse1 (some ⟨first, fifth, by decide⟩) (allProfiles.map fun p =>
      (p, ⟨some (image none p), some (preferences p), some (buttons p), some .hz1000⟩)) ⟨1⟩,
    .beginCeremony .initialEnrollment] ++ enrolling "a" first 1 true ++ enrolling "b" fifth 2 false

/-- The installation when both mice are stamped. -/
def bothStamped : StateFile := committed setUp .default

theorem bothStamped_held : ∃ past, Committed Txn.FromCapture (bothStamped :: past) := by
  refine committed_held .start fun t ht => ?_
  simp only [setUp, enrolling, List.mem_append, List.mem_cons, List.not_mem_nil, or_false, List.mem_map] at ht
  rcases ht with ((rfl | rfl | rfl) | ((rfl | rfl) | ⟨p, -, rfl⟩) | rfl) | ((rfl | rfl) | ⟨p, -, rfl⟩) | rfl
  all_goals first | trivial | exact ⟨_, _, rfl⟩

/-- The values agree, profile by profile. -/
def agrees (legacy : DeviceState) (captured : CapturedProfileImage) : Bool :=
  decide (valueForExport legacy.profileMetadata = valueForExport captured.profileMetadata) &&
    allProfiles.all fun p => legacy.profiles[p]?.map ProfileState.values = captured.profiles[p]?.map ProfileState.values

/-- Two subjects, the first of which alone has the values of the one saved mouse, and its name is this. -/
def firstAgrees (state : StateFile) (name : Option String) : Bool :=
  match state.devices[mouse1]?, state.identitySetup.map (·.subjects) with
  | some legacy, some [first, second] => decide (legacy.identity.displayName = name) && first.captured.any (agrees legacy) &&
      second.captured.all fun captured => valueForExport legacy.profileMetadata ≠ valueForExport captured.profileMetadata
  | _, _ => false

theorem of_firstAgrees {state : StateFile} {name : Option String} (h : firstAgrees state name = true) :
    ∃ legacy journal first second, state.devices[mouse1]? = some legacy ∧ state.identitySetup = some journal ∧
      journal.subjects = [first, second] ∧ legacy.identity.displayName = name ∧ Matches legacy first ∧ ¬ Matches legacy second := by
  unfold firstAgrees at h
  split at h
  · next legacy first second hd hsubjects =>
    obtain ⟨journal, hj, hsubjects⟩ := Option.map_eq_some_iff.1 hsubjects
    obtain ⟨hleft, hsecond⟩ := Bool.and_eq_true_iff.1 h
    obtain ⟨hname, hfirst⟩ := Bool.and_eq_true_iff.1 hleft
    refine ⟨legacy, journal, first, second, hd, hj, hsubjects, of_decide_eq_true hname, ?_, ?_⟩
    · obtain ⟨captured, hcaptured, hagrees⟩ := (Option.any_eq_true ..).1 hfirst
      obtain ⟨hmetadata, hall⟩ := Bool.and_eq_true_iff.1 hagrees
      exact ⟨captured, hcaptured, of_decide_eq_true hmetadata, fun p => of_decide_eq_true (List.all_eq_true.1 hall p p.mem_upTo)⟩
    · rintro ⟨captured, hcaptured, hmetadata, -⟩
      rw [hcaptured] at hsecond
      exact of_decide_eq_true (p := valueForExport legacy.profileMetadata ≠ valueForExport captured.profileMetadata) hsecond hmetadata
  · cases h

theorem bothStamped_agrees : firstAgrees bothStamped (some "Attack Shark X3") = true := by decide +kernel

/-- The migration is accepted, and no mouse has the legacy name. -/
theorem bothStamped_accepts : ((bench []).goes (identityCeremonyAction .acceptMigration none none) bothStamped).any (fun r =>
    r.1.toOption.isSome && r.2.1.devices.values.all (·.identity.displayName ≠ some "Attack Shark X3")) = true := by
  decide +kernel

/-- **The mouse that alone matches does not get the legacy name.** -/
theorem keeps_fresh_names : ∃ past legacy journal first second progress state' h,
    Committed Txn.FromCapture (bothStamped :: past) ∧ bothStamped.devices[mouse1]? = some legacy ∧
    bothStamped.identitySetup = some journal ∧ journal.subjects = [first, second] ∧
    Goes (identityCeremonyAction .acceptMigration none none) bothStamped (.ok progress) state' h ∧
    Matches legacy first ∧ ¬ Matches legacy second ∧ ¬ NamedFor state' first legacy.identity.displayName := by
  obtain ⟨past, hheld⟩ := bothStamped_held
  obtain ⟨legacy, journal, first, second, hd, hj, hsubjects, hname, hfirst, hsecond⟩ := of_firstAgrees bothStamped_agrees
  obtain ⟨⟨result, state', h⟩, hgoes, htest⟩ := (Option.any_eq_true ..).1 bothStamped_accepts
  obtain ⟨hok, hnames⟩ := Bool.and_eq_true_iff.1 htest
  cases result with
  | error e => cases hok
  | ok progress =>
    refine ⟨past, legacy, journal, first, second, progress, state', h, hheld, hd, hj, hsubjects, Bench.goes_ends hgoes, hfirst,
      hsecond, ?_⟩
    rintro ⟨id, device, hdevice, -, hnamed⟩
    have hother := List.all_eq_true.1 hnames device (BTreeMap.mem_values.2 ⟨id, hdevice⟩)
    exact of_decide_eq_true hother (hnamed.trans hname)

/-- No name was migrated there. -/
theorem migrates_name_bothStamped : ∃ legacy first second state', legacy.identity.displayName = some "Attack Shark X3" ∧
    ¬ MigratesName legacy first second state' := by
  obtain ⟨past, hheld⟩ := bothStamped_held
  obtain ⟨legacy, journal, first, second, hd, hj, hsubjects, hname, hfirst, hsecond⟩ := of_firstAgrees bothStamped_agrees
  obtain ⟨⟨result, state', h⟩, hgoes, htest⟩ := (Option.any_eq_true ..).1 bothStamped_accepts
  obtain ⟨hok, -⟩ := Bool.and_eq_true_iff.1 htest
  cases result with
  | error e => cases hok
  | ok progress =>
    refine ⟨legacy, first, second, state', hname, fun hmigrates => ?_⟩
    have hnamed := (migrates_name_iff hheld hd hj hsubjects (Bench.goes_ends hgoes)).1 hmigrates
    have hfresh := hnamed.ofFirst hfirst hsecond
    rw [hname] at hfresh
    exact absurd hfresh (by decide)

end AttackSharkX3.Rig
