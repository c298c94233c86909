import AttackSharkX3.Finalized
import AttackSharkX3.Rig
import AttackSharkX3.Stages
/-!
# Finishes — what a finished ceremony leaves is valid

Finalization changes the mice, their keys, the selection, the mode and the journal at once.  Each kind but the first puts
one mouse in place, and a mouse put in place keeps the document valid; the first replaces the mice, and only what still
points at the old one can be left dangling.
-/
namespace AttackSharkX3

open Mutation (apply_bind apply_get apply_modify apply_lift apply_pure apply_orError_some)

variable {state state' : StateFile} {journal : IdentitySetupJournal} {skip : Bool}

/-! ## New keys -/

/-- **The next key is new**, as long as its number fits. -/
theorem allocateDeviceId_fresh (hmax : state.maxNumber < state.nextDeviceNumber)
    (hlt : state.nextDeviceNumber + 1 < 2 ^ 64) : ∃ id, id.number = some state.nextDeviceNumber ∧ state.devices[id]? = none ∧
      state.allocateDeviceId = (.ok id, { state with nextDeviceNumber := state.nextDeviceNumber + 1 }) := by
  obtain ⟨hpos, hnumbers⟩ := StateFile.maxNumber_lt.1 hmax
  obtain ⟨id, hid, hnumber⟩ := DeviceId.fromNumber_ok hpos (Nat.lt_of_succ_lt hlt)
  have hnone : state.devices[id]? = none := by
    cases hdevice : state.devices[id]? with
    | none => rfl
    | some device => exact absurd (hnumbers id device hdevice _ hnumber) (Nat.lt_irrefl _)
  refine ⟨id, hnumber, hnone, ?_⟩
  rw [StateFile.allocateDeviceId, StateFile.allocateFrom, hid]
  simp only [Nat.not_le.2 hlt, if_false]
  rw [if_neg]
  simpa using hnone

/-- Where no number is left, none is used up. -/
theorem allocateDeviceId_full (hfull : 2 ^ 64 ≤ state.nextDeviceNumber + 1) : ∃ e, state.allocateDeviceId = (.error e, state) := by
  rw [StateFile.allocateDeviceId, StateFile.allocateFrom]
  cases DeviceId.fromNumber state.nextDeviceNumber with
  | error e => exact ⟨e, rfl⟩
  | ok id =>
    dsimp only
    rw [if_pos hfull]
    exact ⟨_, rfl⟩

/-- The keys of the two mice of an enrollment. -/
theorem allocateDeviceIds_two (hmax : state.maxNumber < state.nextDeviceNumber)
    (hlt : state.nextDeviceNumber + 2 < 2 ^ 64) : ∃ a b, a.number = some state.nextDeviceNumber ∧
      b.number = some (state.nextDeviceNumber + 1) ∧ (allocateDeviceIds 2).apply state =
        (.ok [a, b], { state with nextDeviceNumber := state.nextDeviceNumber + 2 }) := by
  obtain ⟨a, ha, -, halloc⟩ := allocateDeviceId_fresh hmax (Nat.lt_of_succ_lt hlt)
  obtain ⟨b, hb, -, hnext⟩ := @allocateDeviceId_fresh { state with nextDeviceNumber := state.nextDeviceNumber + 1 }
    (Nat.lt_succ_of_lt hmax) hlt
  refine ⟨a, b, ha, hb, ?_⟩
  simp [allocateDeviceIds, apply_bind, halloc, hnext, Except.mapError]
  rfl

/-! ## One mouse put in place -/

/-- The endpoint is one an identity may have. -/
def DeviceEndpoint.Accepted (endpoint : DeviceEndpoint) : Prop :=
  ∀ id, ((DeviceIdentity.new id none).upsertEndpoint endpoint).validate = .ok ()

theorem DeviceIdentity.validate_ok {identity : DeviceIdentity} : identity.validate = .ok () ↔
    ∀ kind endpoint, identity.endpoints[kind]? = some endpoint → validateEndpoint identity.id kind endpoint = .ok () :=
  forM_toList_ok

theorem DeviceEndpoint.Accepted.check {endpoint : DeviceEndpoint} (h : endpoint.Accepted) (id : DeviceId) :
    DeviceIdentity.validateEndpoint id endpoint.transport endpoint = .ok () :=
  DeviceIdentity.validate_ok.1 (h id) endpoint.transport endpoint (BTreeMap.get_insert_self ..)

/-- An identity that is also seen at an accepted endpoint. -/
theorem validate_upsertEndpoint {identity : DeviceIdentity} {endpoint : DeviceEndpoint} (h : identity.validate = .ok ())
    (he : endpoint.Accepted) : (identity.upsertEndpoint endpoint).validate = .ok () := by
  refine DeviceIdentity.validate_ok.2 fun kind seen hseen => ?_
  by_cases hkind : endpoint.transport = kind
  · subst hkind
    rw [DeviceIdentity.upsertEndpoint, BTreeMap.get_insert_self, Option.some.injEq] at hseen
    subst hseen
    exact he.check identity.id
  · rw [DeviceIdentity.upsertEndpoint, BTreeMap.get_insert_of_ne _ hkind] at hseen
    exact DeviceIdentity.validate_ok.1 h kind seen hseen

/-- The captured image of a valid subject. -/
def IdentitySetupSubject.Captures (subject : IdentitySetupSubject) : Prop :=
  ∀ captured, subject.captured = some captured → captured.profileMetadata.Supported ∧
    ∀ (p : ProfileId) (profile : ProfileState), captured.profiles[p]? = some profile → profile.Under p

theorem validateDevice_applyCapturedImage {d : DeviceId} {device : DeviceState} {subject : IdentitySetupSubject}
    (h : validateDevice d device = .ok ()) (hcaptures : subject.Captures) :
    validateDevice d (applyCapturedImage device subject.captured) = .ok () := by
  cases hcaptured : subject.captured with
  | none => exact h
  | some captured =>
    obtain ⟨hid, hidentity, -, -, hnames⟩ := validateDevice_ok.1 h
    obtain ⟨hmetadata, hprofiles⟩ := hcaptures captured hcaptured
    exact validateDevice_ok.2 ⟨hid, hidentity, hmetadata, hprofiles, hnames⟩

theorem validateDevice_new {d : DeviceId} {identity : DeviceIdentity} (hid : identity.id = d)
    (h : identity.validate = .ok ()) : validateDevice d (.new identity) = .ok () := by
  refine validateDevice_ok.2 ⟨hid, h, ?_, ?_, ?_⟩
  · intro desired hdesired
    cases hdesired
  · intro p profile hprofile
    simp [DeviceState.new] at hprofile
  · intro p name hname
    simp [DeviceState.new] at hname

theorem validateDevice_enrolledDevice {d : DeviceId} {name : Option String} {subject : IdentitySetupSubject}
    {token : Option PhysicalId} (hcaptures : subject.Captures) (he : subject.endpoint.Accepted) :
    validateDevice d (enrolledDevice d name subject token) = .ok () := by
  refine validateDevice_applyCapturedImage (validateDevice_new rfl ?_) hcaptures
  refine validate_upsertEndpoint (DeviceIdentity.validate_ok.2 fun kind endpoint h => ?_) he
  simp [DeviceIdentity.new] at h

theorem validateDevice_restoredDevice {d : DeviceId} {device : DeviceState} {subject : IdentitySetupSubject}
    {token : PhysicalId} (h : validateDevice d device = .ok ()) (hcaptures : subject.Captures)
    (he : subject.endpoint.Accepted) : validateDevice d (restoredDevice device subject token) = .ok () := by
  obtain ⟨hid, -, hmetadata, hprofiles, hnames⟩ := validateDevice_ok.1 h
  refine validateDevice_applyCapturedImage (validateDevice_ok.2 ⟨hid, ?_, hmetadata, hprofiles, hnames⟩) hcaptures
  refine DeviceIdentity.validate_ok.2 fun kind endpoint hseen => ?_
  by_cases hkind : subject.endpoint.transport = kind
  · subst hkind
    rw [BTreeMap.get_insert_self, Option.some.injEq] at hseen
    subst hseen
    exact he.check _
  · rw [BTreeMap.get_insert_of_ne _ hkind] at hseen
    simp at hseen

/-- **A mouse with a token of its own keeps the document valid.** -/
theorem validate_insert {d : DeviceId} {device : DeviceState} {token : PhysicalId} {next : Nat}
    (hv : state.validate = .ok ()) (hmode : state.identityMode = .persistent) (hdevice : validateDevice d device = .ok ())
    (hnext : state.nextDeviceNumber ≤ next) (hnumber : ∀ k, d.number = some k → k < next)
    (htoken : device.identity.physicalId = some token) (hown : ∀ d', d' ≠ d → physicalIdOf state d' ≠ some token) :
    { state with
      devices := state.devices.insert d device, nextDeviceNumber := next, identitySetup := none }.validate = .ok () := by
  obtain ⟨hschema, hpos, hmax, hselected, hdevices, htokens, -, hmapping⟩ := StateFile.validate_ok.1 hv
  have kept {d' : DeviceId} (h : state.devices.contains d' = true) : (state.devices.insert d device).contains d' = true := by
    simp only [Std.ExtTreeMap.contains_insert, h, Bool.or_true]
  have get (d' : DeviceId) : (state.devices.insert d device)[d']? = if d' = d then some device else state.devices[d']? := by
    by_cases h : d' = d
    · rw [if_pos h, h, BTreeMap.get_insert_self]
    · rw [if_neg h, BTreeMap.get_insert_of_ne _ (Ne.symm h)]
  refine StateFile.validate_ok.2 ⟨hschema, ?_, ?_, ?_, ?_, ?_, rfl, ?_⟩
  · exact Nat.pos_iff_ne_zero.1 (Nat.lt_of_lt_of_le (Nat.pos_iff_ne_zero.2 hpos) hnext)
  · obtain ⟨hzero, hnumbers⟩ := StateFile.maxNumber_lt.1 hmax
    refine StateFile.maxNumber_lt.2 ⟨Nat.lt_of_lt_of_le hzero hnext, fun d' device' hd' k hk => ?_⟩
    rw [get] at hd'
    split at hd'
    · next heq => exact hnumber k (heq ▸ hk)
    · exact Nat.lt_of_lt_of_le (hnumbers d' device' hd' k hk) hnext
  · exact StateFile.validateSelected_ok.2 fun d' hd' => kept (StateFile.validateSelected_ok.1 hselected d' hd')
  · refine forM_toList_ok.2 fun d' device' hd' => ?_
    rw [get] at hd'
    split at hd'
    · next heq =>
      rw [Option.some.injEq] at hd'
      rw [heq, ← hd']
      exact hdevice
    · exact forM_toList_ok.1 hdevices d' device' hd'
  · obtain ⟨hall, hone⟩ := (StateFile.validateIdentityMode_persistent hmode).1 htokens
    have physical (d' : DeviceId) : physicalIdOf { state with
        devices := state.devices.insert d device, nextDeviceNumber := next, identitySetup := none } d' =
        if d' = d then some token else physicalIdOf state d' := by
      rw [physicalIdOf, get]
      split
      · exact htoken
      · rfl
    have hpersistent : StateFile.identityMode { state with
      devices := state.devices.insert d device, nextDeviceNumber := next, identitySetup := none } = .persistent := hmode
    refine (StateFile.validateIdentityMode_persistent hpersistent).2 ⟨fun d' device' hd' => ?_, fun a b A ha hb => ?_⟩
    · rw [physical]
      split
      · rfl
      · next hne =>
        rw [get, if_neg hne] at hd'
        exact hall d' device' hd'
    · rw [physical] at ha hb
      split at ha
      · next hda =>
        split at hb
        · next hdb => rw [hda, hdb]
        · next hdb =>
          cases ha
          exact absurd hb (hown b hdb)
      · next hda =>
        split at hb
        · cases hb
          exact absurd ha (hown a hda)
        · exact hone a b A ha hb
  · obtain ⟨hendpoints, hseen⟩ := StateFile.validateEndpointMapping_ok.1 hmapping
    refine StateFile.validateEndpointMapping_ok.2 ⟨fun key d' hkey => ?_, hseen⟩
    obtain ⟨hblank, hcontains⟩ := hendpoints key d' hkey
    exact ⟨hblank, kept hcontains⟩

/-! ## A finished ceremony -/

/-- The saved mouse a ceremony is about. -/
def IdentitySetupJournal.Targets (journal : IdentitySetupJournal) (d : DeviceId) : Prop :=
  (journal.phase = .restore ∨ journal.phase = .bleAssociation) ∧ ∃ subject ∈ journal.subjects, subject.deviceId = some d

/-- **What a finished ceremony leaves**: a valid document without a journal, new mice under keys that were never used, the
token of its subject on every mouse that is new or restored, and every other mouse as it was. -/
structure Finished (state : StateFile) (journal : IdentitySetupJournal) (state' : StateFile) : Prop where
  valid : state'.validate = .ok ()
  ended : state'.identitySetup = none
  persistent : state'.identityMode = .persistent
  fresh : ∀ (d : DeviceId) (device : DeviceState), state'.devices[d]? = some device →
    journal.phase = .initialEnrollment ∨ state.devices[d]? = none → ∃ n, d.number = some n ∧ state.nextDeviceNumber ≤ n
  given : ∀ (d : DeviceId) (device : DeviceState), state'.devices[d]? = some device → journal.phase = .initialEnrollment ∨
    state.devices[d]? = none ∨ (journal.phase = .restore ∧ journal.Targets d) →
    ∃ subject ∈ journal.subjects, subject.token.isSome ∧ device.identity.physicalId = subject.token
  unique : ∀ a b A, physicalIdOf state' a = some A → physicalIdOf state' b = some A → a = b
  frame : journal.phase ≠ .initialEnrollment → ∀ (d : DeviceId) (device : DeviceState), state.devices[d]? = some device →
    ¬ journal.Targets d → state'.devices[d]? = some device

/-- Finalization goes through, leaves that, and makes a mouse of every subject it was to make one of. -/
def FinalizesWell (state : StateFile) (journal : IdentitySetupJournal) (skip : Bool) : Prop :=
  ∃ state', (finalizeCeremony skip).apply state = (.ok (), state') ∧ Finished state journal state' ∧
    (journal.phase ≠ .bleAssociation → ∀ subject ∈ journal.subjects, Made state' subject)

/-- The ceremony of one mouse, put in place. -/
theorem Finished.insert {subject : IdentitySetupSubject} {d : DeviceId} {device : DeviceState} {next : Nat}
    (hphase : journal.phase ≠ .initialEnrollment) (hsubjects : journal.subjects = [subject])
    (hmode : state.identityMode = .persistent)
    (hvalid : { state with
      devices := state.devices.insert d device, nextDeviceNumber := next, identitySetup := none }.validate = .ok ())
    (hplace : (¬ (journal.phase = .restore ∨ journal.phase = .bleAssociation) ∧ state.devices[d]? = none ∧
        ∃ n, d.number = some n ∧ state.nextDeviceNumber ≤ n) ∨
      ((journal.phase = .restore ∨ journal.phase = .bleAssociation) ∧ subject.deviceId = some d ∧
        (state.devices[d]?).isSome))
    (hgiven : journal.phase ≠ .bleAssociation → subject.token.isSome ∧ device.identity.physicalId = subject.token) :
    Finished state journal { state with
      devices := state.devices.insert d device, nextDeviceNumber := next, identitySetup := none } := by
  have targets (d' : DeviceId) : journal.Targets d' ↔
      (journal.phase = .restore ∨ journal.phase = .bleAssociation) ∧ subject.deviceId = some d' := by
    simp [IdentitySetupJournal.Targets, hsubjects]
  have get (d' : DeviceId) : (state.devices.insert d device)[d']? = if d' = d then some device else state.devices[d']? := by
    by_cases h : d' = d
    · rw [if_pos h, h, BTreeMap.get_insert_self]
    · rw [if_neg h, BTreeMap.get_insert_of_ne _ (Ne.symm h)]
  refine ⟨hvalid, rfl, hmode, ?_, ?_, ?_, ?_⟩
  · intro d' device' hd' hnew
    have hnone := hnew.resolve_left hphase
    rw [get] at hd'
    split at hd'
    · next heq =>
      subst heq
      rcases hplace with ⟨-, -, hfresh⟩ | ⟨-, -, hsaved⟩
      · exact hfresh
      · rw [hnone] at hsaved
        cases hsaved
    · rw [hnone] at hd'
      cases hd'
  · intro d' device' hd' hnew
    rw [get] at hd'
    split at hd'
    · next heq =>
      subst heq
      cases hd'
      refine ⟨subject, by rw [hsubjects]; exact List.mem_singleton_self _, hgiven fun hble => ?_⟩
      rcases hnew.resolve_left hphase with hnone | ⟨hrestore, -⟩
      · rcases hplace with ⟨hkind, -⟩ | ⟨-, -, hsaved⟩
        · exact hkind (.inr hble)
        · rw [hnone] at hsaved
          cases hsaved
      · rw [hrestore] at hble
        cases hble
    · next hne =>
      rcases hnew.resolve_left hphase with hnone | ⟨hrestore, htargets⟩
      · rw [hnone] at hd'
        cases hd'
      · rcases hplace with ⟨hkind, -⟩ | ⟨-, hbound, -⟩
        · exact absurd (.inl hrestore) hkind
        · have hsame := ((targets d').1 htargets).2
          rw [hbound, Option.some.injEq] at hsame
          exact absurd hsame.symm hne
  · intro a b A ha hb
    exact StateFile.physicalIdOf_inj hvalid hmode ha hb
  · intro _ d' device' hd' hnot
    rw [get, if_neg, hd']
    intro heq
    subst heq
    rcases hplace with ⟨-, hnone, -⟩ | ⟨hkind, hbound, -⟩
    · rw [hnone] at hd'
      cases hd'
    · exact hnot ((targets d').2 ⟨hkind, hbound⟩)

theorem IdentitySetupSubject.captures_of_valid {devices : BTreeMap DeviceId DeviceState} {subject : IdentitySetupSubject}
    {reserved : List PhysicalId} (h : IdentitySetupJournal.validateSubject devices subject reserved = .ok ()) :
    subject.Captures := by
  intro captured hcaptured
  exact validateCapturedProfileImage_ok.1 ((IdentitySetupJournal.validateSubject_ok.1 h).1 captured hcaptured)

/-- The token a valid subject reserves is on no saved mouse. -/
theorem IdentitySetupSubject.token_unassigned {subject : IdentitySetupSubject} {reserved : List PhysicalId} {token : PhysicalId}
    (h : IdentitySetupJournal.validateSubject state.devices subject reserved = .ok ()) (htoken : subject.token = some token)
    (d : DeviceId) : physicalIdOf state d ≠ some token := by
  intro heq
  obtain ⟨device, hd, hphysical⟩ := StateFile.of_physicalIdOf heq
  obtain ⟨-, -, -, -, -, htokens, -⟩ := IdentitySetupJournal.validateSubject_ok.1 h
  exact (htokens token htoken).2 d device hd hphysical

/-- What validity says of the subject of a one-mouse ceremony. -/
theorem valid_subject (hv : state.validate = .ok ()) (hj : state.identitySetup = some journal)
    (hstage : journal.stage = .finalizing) (hphase : journal.phase ≠ .initialEnrollment) :
    state.identityMode = .persistent ∧ ∃ subject, journal.subjects = [subject] ∧
      (journal.phase ≠ .bleAssociation → ∃ token, subject.token = some token) ∧
      IdentitySetupJournal.validateSubject state.devices subject [] = .ok () := by
  obtain ⟨hmode, -, hstages, hsubject, -⟩ := StateFile.validateIdentitySetup_ok.1 (StateFile.valid_setup hv hj)
  rw [IdentitySetupJournal.validateMode_ok, if_neg hphase] at hmode
  obtain ⟨hcount, hready⟩ := (IdentitySetupJournal.validateStage_finalizing hstage).1 hstages
  rw [if_neg hphase] at hcount
  obtain ⟨subject, hsubjects⟩ := List.length_eq_one_iff.1 hcount
  rw [hsubjects] at hready hsubject
  rw [IdentitySetupJournal.validateSubjects, StateFile.then_ok] at hsubject
  exact ⟨hmode, subject, hsubjects, fun hble =>
    Option.isSome_iff_exists.1 (hready hble subject (List.mem_singleton_self _)).1, hsubject.1⟩

/-- The two mice of an enrollment. -/
theorem enrolledDevices_two (legacy : Option DeviceState) (matched : Option Nat) (s₁ s₂ : IdentitySetupSubject)
    (a b : DeviceId) : ∃ name₁ name₂, ∀ d, (enrolledDevices legacy matched [s₁, s₂] [a, b])[d]? =
      if d = b then some (enrolledDevice b name₂ s₂ s₂.token)
      else if d = a then some (enrolledDevice a name₁ s₁ s₁.token) else none := by
  refine ⟨if matched = some 0 then legacy.bind (·.identity.displayName) else some s!"Mouse {0 + 1}",
    if matched = some 1 then legacy.bind (·.identity.displayName) else some s!"Mouse {1 + 1}", fun d => ?_⟩
  show (((∅ : BTreeMap DeviceId DeviceState).insert a _).insert b _)[d]? = _
  by_cases hb : d = b
  · rw [if_pos hb, hb, BTreeMap.get_insert_self]
  · rw [if_neg hb, BTreeMap.get_insert_of_ne _ (Ne.symm hb)]
    by_cases ha : d = a
    · rw [if_pos ha, ha, BTreeMap.get_insert_self]
    · rw [if_neg ha, BTreeMap.get_insert_of_ne _ (Ne.symm ha)]
      simp

/-! ## What an enrollment leaves -/

/-- One mouse of an enrollment: under a new number, with the token of its subject. -/
structure EnrolledAt (state : StateFile) (journal : IdentitySetupJournal) (id : DeviceId) (token : PhysicalId) (d : DeviceId)
    (device : DeviceState) : Prop where
  key : d = id
  number : ∃ n, d.number = some n ∧ state.nextDeviceNumber ≤ n ∧ n < state.nextDeviceNumber + 2
  has : device.identity.physicalId = some token
  given : ∃ subject ∈ journal.subjects, subject.token = some token
  valid : validateDevice d device = .ok ()

/-- **The document of two enrolled mice**, and of no other. -/
structure Enrolled (state : StateFile) (journal : IdentitySetupJournal) (a b : DeviceId) (A B : PhysicalId)
    (state' : StateFile) : Prop where
  apart : A ≠ B
  schema : state'.schemaVersion = state.schemaVersion
  next : state'.nextDeviceNumber = state.nextDeviceNumber + 2
  persistent : state'.identityMode = .persistent
  ended : state'.identitySetup = none
  mapping : state'.endpointMapping = state.endpointMapping
  selected : ∀ d, state'.selectedDevice = some d → state'.devices.contains d = true
  mice : ∀ (d : DeviceId) (device : DeviceState), state'.devices[d]? = some device →
    EnrolledAt state journal a A d device ∨ EnrolledAt state journal b B d device

namespace Enrolled

variable {a b : DeviceId} {A B : PhysicalId} {d : DeviceId} {device : DeviceState}

theorem mouse (h : Enrolled state journal a b A B state') (hd : state'.devices[d]? = some device) :
    ∃ id token, EnrolledAt state journal id token d device := by
  rcases h.mice d device hd with hmouse | hmouse
  · exact ⟨a, A, hmouse⟩
  · exact ⟨b, B, hmouse⟩

/-- The two mice differ in their tokens. -/
theorem unique (h : Enrolled state journal a b A B state') (d d' : DeviceId) (T : PhysicalId)
    (hT : physicalIdOf state' d = some T) (hT' : physicalIdOf state' d' = some T) : d = d' := by
  obtain ⟨device, hd, hphysical⟩ := StateFile.of_physicalIdOf hT
  obtain ⟨device', hd', hphysical'⟩ := StateFile.of_physicalIdOf hT'
  rcases h.mice d device hd with hmouse | hmouse <;> rcases h.mice d' device' hd' with hmouse' | hmouse'
  · rw [hmouse.key, hmouse'.key]
  · rw [hmouse.has, Option.some.injEq] at hphysical
    rw [hmouse'.has, Option.some.injEq] at hphysical'
    exact absurd (hphysical.trans hphysical'.symm) h.apart
  · rw [hmouse.has, Option.some.injEq] at hphysical
    rw [hmouse'.has, Option.some.injEq] at hphysical'
    exact absurd (hphysical'.trans hphysical.symm) h.apart
  · rw [hmouse.key, hmouse'.key]

/-- A remembered endpoint points at a mouse that was saved before, and the new ones were not. -/
theorem remembers_nothing (h : Enrolled state journal a b A B state') (hv : state.validate = .ok ())
    (hv' : state'.validate = .ok ()) : state.endpointMapping.endpoints = ∅ := by
  obtain ⟨-, -, hmax, -, -, -, -, hmapping⟩ := StateFile.validate_ok.1 hv
  obtain ⟨hendpoints, -⟩ := StateFile.validateEndpointMapping_ok.1 hmapping
  obtain ⟨hpoints, -⟩ := StateFile.validateEndpointMapping_ok.1 (StateFile.validate_ok.1 hv').2.2.2.2.2.2.2
  rw [h.mapping] at hpoints
  refine Std.ExtTreeMap.eq_empty_iff_forall_contains.2 fun key => ?_
  rw [Std.ExtTreeMap.contains_eq_isSome_getElem?]
  cases hkey : state.endpointMapping.endpoints[key]? with
  | none => rfl
  | some d =>
    have hold := (hendpoints key d hkey).2
    have hnew := (hpoints key d hkey).2
    rw [Std.ExtTreeMap.contains_eq_isSome_getElem?] at hold hnew
    obtain ⟨old, hold⟩ := Option.isSome_iff_exists.1 hold
    obtain ⟨new, hnew⟩ := Option.isSome_iff_exists.1 hnew
    obtain ⟨_, _, hmouse⟩ := h.mouse hnew
    obtain ⟨n, hn, hle, -⟩ := hmouse.number
    have hlt := (StateFile.maxNumber_lt.1 hmax).2 d old hold n hn
    omega

/-- With nothing remembered the document is valid. -/
theorem valid (h : Enrolled state journal a b A B state') (hv : state.validate = .ok ())
    (hempty : state.endpointMapping.endpoints = ∅) : state'.validate = .ok () := by
  obtain ⟨hschema, hpos, -, -, -, -, -, hmapping⟩ := StateFile.validate_ok.1 hv
  obtain ⟨-, hseen⟩ := StateFile.validateEndpointMapping_ok.1 hmapping
  have hnext := h.next
  refine StateFile.validate_ok.2 ⟨?_, ?_, ?_, StateFile.validateSelected_ok.2 h.selected, ?_, ?_, ?_, ?_⟩
  · rw [StateFile.validateSchema, h.schema]
    exact hschema
  · omega
  · rw [hnext]
    refine StateFile.maxNumber_lt.2 ⟨Nat.succ_pos _, fun d device hd k hk => ?_⟩
    obtain ⟨_, _, hmouse⟩ := h.mouse hd
    obtain ⟨n, hn, -, hlt⟩ := hmouse.number
    rw [hk, Option.some.injEq] at hn
    omega
  · refine forM_toList_ok.2 fun d device hd => ?_
    obtain ⟨_, _, hmouse⟩ := h.mouse hd
    exact hmouse.valid
  · refine (StateFile.validateIdentityMode_persistent h.persistent).2 ⟨fun d device hd => ?_, h.unique⟩
    obtain ⟨_, _, hmouse⟩ := h.mouse hd
    rw [StateFile.physicalIdOf_eq hd, hmouse.has]
    rfl
  · rw [StateFile.validateSetup, h.ended]
  · refine StateFile.validateEndpointMapping_ok.2 ⟨fun key d hkey => ?_, ?_⟩
    · rw [h.mapping, hempty] at hkey
      simp at hkey
    · rw [h.mapping]
      exact hseen

theorem finished (h : Enrolled state journal a b A B state') (hphase : journal.phase = .initialEnrollment)
    (hv' : state'.validate = .ok ()) : Finished state journal state' := by
  refine ⟨hv', h.ended, h.persistent, fun d device hd _ => ?_, fun d device hd _ => ?_, h.unique, fun hne => absurd hphase hne⟩
  · obtain ⟨_, _, hmouse⟩ := h.mouse hd
    obtain ⟨n, hn, hle, -⟩ := hmouse.number
    exact ⟨n, hn, hle⟩
  · obtain ⟨_, _, hmouse⟩ := h.mouse hd
    obtain ⟨subject, hmem, htoken⟩ := hmouse.given
    exact ⟨subject, hmem, by rw [htoken]; rfl, by rw [hmouse.has, htoken]⟩

end Enrolled

section Kinds

variable (hv : state.validate = .ok ()) (hj : state.identitySetup = some journal) (hstage : journal.stage = .finalizing)
include hv hj hstage

theorem made_of_ran (hran : (finalizeCeremony skip).apply state = (.ok (), state')) (hble : journal.phase ≠ .bleAssociation) :
    ∀ subject ∈ journal.subjects, Made state' subject := by
  intro subject hmem
  have hran' : (finalizeCeremony skip).apply { state with identitySetup := some journal } = (.ok (), state') := by
    rw [← hj]
    exact hran
  refine @finalizeCeremony_made { state with identitySetup := some journal } _ _ _ rfl hran' hble (fun hphase => ?_) _ hmem
  obtain ⟨-, only, hsubjects, -⟩ := valid_subject hv hj hstage hphase
  rw [hsubjects]
  exact Nat.le_refl 1

/-- The two mice of an enrollment, in their places. -/
theorem enrollment_ran (skip : Bool) (hphase : journal.phase = .initialEnrollment) (hnext : state.nextDeviceNumber + 2 < 2 ^ 64) :
    ∃ a b s₁ s₂ A B, a.number = some state.nextDeviceNumber ∧ b.number = some (state.nextDeviceNumber + 1) ∧
      journal.subjects = [s₁, s₂] ∧ s₁.token = some A ∧ s₂.token = some B ∧ A ≠ B ∧ s₁.Captures ∧ s₂.Captures ∧
      (finalizeCeremony skip).apply state = (.ok (), { state with
        nextDeviceNumber := state.nextDeviceNumber + 2
        selectedDevice := some a
        devices := enrolledDevices state.devices.values.head? (uniqueMatch state.devices.values.head? journal skip) [s₁, s₂]
          [a, b]
        identityMode := .persistent
        identitySetup := none }) := by
  obtain ⟨-, -, hstages, hsubject, -⟩ := StateFile.validateIdentitySetup_ok.1 (StateFile.valid_setup hv hj)
  obtain ⟨hcount, hready⟩ := (IdentitySetupJournal.validateStage_finalizing hstage).1 hstages
  rw [if_pos hphase] at hcount
  obtain ⟨s₁, s₂, hsubjects⟩ := List.length_eq_two.1 hcount
  rw [hsubjects] at hready hsubject
  have hready := hready (by rw [hphase]; nofun)
  obtain ⟨A, hA⟩ := Option.isSome_iff_exists.1 (hready s₁ (by simp)).1
  obtain ⟨B, hB⟩ := Option.isSome_iff_exists.1 (hready s₂ (by simp)).1
  simp only [IdentitySetupJournal.validateSubjects, StateFile.then_ok] at hsubject
  obtain ⟨hfirst, hsecond, -⟩ := hsubject
  obtain ⟨-, -, -, -, -, htokens, -⟩ := IdentitySetupJournal.validateSubject_ok.1 hsecond
  have hne : A ≠ B := by
    rintro rfl
    exact (htokens A hB).1 (by simp [hA])
  obtain ⟨a, b, ha, hb, halloc⟩ := allocateDeviceIds_two (StateFile.validate_ok.1 hv).2.2.1 hnext
  refine ⟨a, b, s₁, s₂, A, B, ha, hb, hsubjects, hA, hB, hne, IdentitySetupSubject.captures_of_valid hfirst,
    IdentitySetupSubject.captures_of_valid hsecond, ?_⟩
  simp [finalizeCeremony, apply_bind, hj, finalizePhase, hphase, finalizeInitialEnrollment, hsubjects, halloc]

/-- A new mouse in its place. -/
theorem newMouse_ran (skip : Bool) (hphase : journal.phase = .addMouse ∨ journal.phase = .foreignAdoption)
    (hnext : state.nextDeviceNumber + 1 < 2 ^ 64) : ∃ subject token id, journal.subjects = [subject] ∧
      subject.token = some token ∧ IdentitySetupJournal.validateSubject state.devices subject [] = .ok () ∧
      id.number = some state.nextDeviceNumber ∧ state.devices[id]? = none ∧
      (finalizeCeremony skip).apply state = (.ok (), { state with
        devices := state.devices.insert id (enrolledDevice id none subject (some token))
        nextDeviceNumber := state.nextDeviceNumber + 1
        identitySetup := none }) := by
  have hinitial : journal.phase ≠ .initialEnrollment := by
    rcases hphase with h | h <;> rw [h] <;> simp
  have hble : journal.phase ≠ .bleAssociation := by
    rcases hphase with h | h <;> rw [h] <;> simp
  obtain ⟨-, subject, hsubjects, htoken, hsubject⟩ := valid_subject hv hj hstage hinitial
  obtain ⟨token, htoken⟩ := htoken hble
  obtain ⟨id, hnumber, hnew, halloc⟩ := allocateDeviceId_fresh (StateFile.validate_ok.1 hv).2.2.1 hnext
  have hmouse : finalizePhase journal skip = finalizeNewMouse journal := by
    rcases hphase with h | h <;> rw [finalizePhase, h]
  refine ⟨subject, token, id, hsubjects, htoken, hsubject, hnumber, hnew, ?_⟩
  simp [finalizeCeremony, apply_bind, hj, hmouse, finalizeNewMouse, onlySubject, hsubjects, htoken, halloc, Except.mapError]

/-- A restored mouse under its new token. -/
theorem restore_ran (skip : Bool) (hphase : journal.phase = .restore) : ∃ subject token d device, journal.subjects = [subject] ∧
    subject.token = some token ∧ IdentitySetupJournal.validateSubject state.devices subject [] = .ok () ∧
    subject.deviceId = some d ∧ state.devices[d]? = some device ∧
    (finalizeCeremony skip).apply state = (.ok (), { state with
      devices := state.devices.insert d (restoredDevice device subject token), identitySetup := none }) := by
  have hinitial : journal.phase ≠ .initialEnrollment := by rw [hphase]; nofun
  obtain ⟨-, subject, hsubjects, htoken, hsubject⟩ := valid_subject hv hj hstage hinitial
  obtain ⟨token, htoken⟩ := htoken (by rw [hphase]; nofun)
  obtain ⟨d, device, old, hbound, hdevice, -, -⟩ := StateFile.valid_restoring hv hj hphase hsubjects
  refine ⟨subject, token, d, device, hsubjects, htoken, hsubject, hbound, hdevice, ?_⟩
  simp [finalizeCeremony, apply_bind, hj, finalizePhase, hphase, finalizeRestore, onlySubject, hsubjects, htoken, hbound,
    hdevice]

/-- An endpoint under the mouse it is bound to. -/
theorem association_ran (skip : Bool) (hphase : journal.phase = .bleAssociation) {subject : IdentitySetupSubject} {d : DeviceId}
    (hsubjects : journal.subjects = [subject]) (hbound : subject.deviceId = some d) : ∃ device, state.devices[d]? = some device ∧
    (finalizeCeremony skip).apply state = (.ok (), { state with
      devices := state.devices.insert d { device with identity := device.identity.upsertEndpoint subject.endpoint }
      identitySetup := none }) := by
  have hinitial : journal.phase ≠ .initialEnrollment := by rw [hphase]; nofun
  obtain ⟨-, only, honly, -, hsubject⟩ := valid_subject hv hj hstage hinitial
  obtain rfl : subject = only := List.head_eq_of_cons_eq (hsubjects.symm.trans honly)
  obtain ⟨-, -, -, hsaved, -⟩ := IdentitySetupJournal.validateSubject_ok.1 hsubject
  obtain ⟨device, hdevice⟩ : ∃ device, state.devices[d]? = some device := by
    have hcontains := hsaved d hbound
    rw [Std.ExtTreeMap.contains_eq_isSome_getElem?] at hcontains
    exact Option.isSome_iff_exists.1 hcontains
  refine ⟨device, hdevice, ?_⟩
  simp [finalizeCeremony, apply_bind, hj, finalizePhase, hphase, finalizeAssociation, onlySubject, hsubjects, hbound, hdevice]

variable (hends : ∀ subject ∈ journal.subjects, subject.endpoint.Accepted)
include hends

/-- **A new mouse is put in place.** -/
theorem newMouse_finishes (hphase : journal.phase = .addMouse ∨ journal.phase = .foreignAdoption)
    (hnext : state.nextDeviceNumber + 1 < 2 ^ 64) : FinalizesWell state journal skip := by
  have hkind : ¬ (journal.phase = .restore ∨ journal.phase = .bleAssociation) := by
    rcases hphase with h | h <;> rw [h] <;> simp
  have hinitial : journal.phase ≠ .initialEnrollment := by
    rcases hphase with h | h <;> rw [h] <;> simp
  obtain ⟨hmode, -⟩ := valid_subject hv hj hstage hinitial
  obtain ⟨subject, token, id, hsubjects, htoken, hsubject, hnumber, hnew, hran⟩ := newMouse_ran hv hj hstage skip hphase hnext
  have hend := hends subject (by rw [hsubjects]; exact List.mem_singleton_self _)
  have hmade := (enrolledDevice_made id none subject (some token)).1
  refine ⟨_, hran, Finished.insert hinitial hsubjects hmode ?_ (.inl ⟨hkind, hnew, _, hnumber, Nat.le_refl _⟩) fun _ => ?_,
    made_of_ran hv hj hstage hran⟩
  · refine validate_insert hv hmode (validateDevice_enrolledDevice (IdentitySetupSubject.captures_of_valid hsubject) hend)
      (Nat.le_succ _) ?_ hmade fun d _ => IdentitySetupSubject.token_unassigned hsubject htoken d
    intro k hk
    rw [hnumber, Option.some.injEq] at hk
    omega
  · exact ⟨by rw [htoken]; rfl, by rw [hmade, htoken]⟩

/-- **A mouse is given the token of its new unit.** -/
theorem restore_finishes (hphase : journal.phase = .restore) : FinalizesWell state journal skip := by
  have hinitial : journal.phase ≠ .initialEnrollment := by rw [hphase]; nofun
  obtain ⟨hmode, -⟩ := valid_subject hv hj hstage hinitial
  obtain ⟨subject, token, d, device, hsubjects, htoken, hsubject, hbound, hdevice, hran⟩ := restore_ran hv hj hstage skip hphase
  have hend := hends subject (by rw [hsubjects]; exact List.mem_singleton_self _)
  have hmade := (restoredDevice_made device subject token).1
  refine ⟨_, hran, Finished.insert hinitial hsubjects hmode ?_ (.inr ⟨.inl hphase, hbound, by rw [hdevice]; rfl⟩)
    fun _ => ⟨by rw [htoken]; rfl, by rw [hmade, htoken]⟩, made_of_ran hv hj hstage hran⟩
  refine validate_insert hv hmode (validateDevice_restoredDevice (StateFile.valid_device hv hdevice)
    (IdentitySetupSubject.captures_of_valid hsubject) hend) (Nat.le_refl _) ?_ hmade
    fun d' _ => IdentitySetupSubject.token_unassigned hsubject htoken d'
  exact (StateFile.maxNumber_lt.1 (StateFile.validate_ok.1 hv).2.2.1).2 d device hdevice

/-- **An association puts an endpoint under the mouse it is bound to**, and fails without one. -/
theorem association_finishes_iff (hphase : journal.phase = .bleAssociation) : FinalizesWell state journal skip ↔
    ∀ subject ∈ journal.subjects, subject.deviceId.isSome = true := by
  have hinitial : journal.phase ≠ .initialEnrollment := by rw [hphase]; nofun
  obtain ⟨hmode, subject, hsubjects, -, -⟩ := valid_subject hv hj hstage hinitial
  have hend := hends subject (by rw [hsubjects]; exact List.mem_singleton_self _)
  simp only [hsubjects, List.mem_singleton, forall_eq]
  cases hbound : subject.deviceId with
  | none =>
    simp only [Option.isSome_none, Bool.false_eq_true, iff_false]
    rintro ⟨state', hran, -⟩
    simp [finalizeCeremony, apply_bind, hj, finalizePhase, hphase, finalizeAssociation, onlySubject, hsubjects, hbound] at hran
  | some d =>
    simp only [Option.isSome_some, iff_true]
    obtain ⟨device, hdevice, hran⟩ := association_ran hv hj hstage skip hphase hsubjects hbound
    obtain ⟨hid, hidentity, hmetadata, hprofiles, hnames⟩ := validateDevice_ok.1 (StateFile.valid_device hv hdevice)
    obtain ⟨token, htoken⟩ := StateFile.valid_physicalId hv hmode hdevice
    refine ⟨_, hran, Finished.insert hinitial hsubjects hmode ?_ (.inr ⟨.inr hphase, hbound, by rw [hdevice]; rfl⟩)
      fun hble => absurd hphase hble, made_of_ran hv hj hstage hran⟩
    have hphysical : device.identity.physicalId = some token := by
      rw [← StateFile.physicalIdOf_eq hdevice, htoken]
    refine validate_insert hv hmode (validateDevice_ok.2 ⟨hid, validate_upsertEndpoint hidentity hend, hmetadata,
      hprofiles, hnames⟩) (Nat.le_refl _) ?_ hphysical fun d' hne heq => ?_
    · exact (StateFile.maxNumber_lt.1 (StateFile.validate_ok.1 hv).2.2.1).2 d device hdevice
    · exact hne (StateFile.physicalIdOf_inj hv hmode heq htoken)

/-- An enrollment goes through, and leaves its two mice. -/
theorem enrollment_enrolls (skip : Bool) (hphase : journal.phase = .initialEnrollment)
    (hnext : state.nextDeviceNumber + 2 < 2 ^ 64) : ∃ state' a b A B,
    (finalizeCeremony skip).apply state = (.ok (), state') ∧ Enrolled state journal a b A B state' := by
  obtain ⟨a, b, s₁, s₂, A, B, ha, hb, hsubjects, hA, hB, hAB, hfirst, hsecond, hran⟩ :=
    enrollment_ran hv hj hstage skip hphase hnext
  obtain ⟨name₁, name₂, hget⟩ := enrolledDevices_two state.devices.values.head?
    (uniqueMatch state.devices.values.head? journal skip) s₁ s₂ a b
  have hfirst := @validateDevice_enrolledDevice a name₁ s₁ A hfirst (hends s₁ (by simp [hsubjects]))
  have hsecond := @validateDevice_enrolledDevice b name₂ s₂ B hsecond (hends s₂ (by simp [hsubjects]))
  rw [hA, hB] at hget
  refine ⟨_, a, b, A, B, hran, ⟨hAB, rfl, rfl, rfl, rfl, rfl, fun d hd => ?_, fun d device hd => ?_⟩⟩
  · cases hd
    rw [Std.ExtTreeMap.contains_eq_isSome_getElem?, hget]
    split
    · rfl
    · rw [if_pos rfl]
      rfl
  · rw [hget] at hd
    split at hd
    · next heq =>
      cases hd
      subst heq
      exact .inr ⟨rfl, ⟨_, hb, Nat.le_succ _, Nat.lt_succ_self _⟩, (enrolledDevice_made ..).1, ⟨s₂, by simp [hsubjects], hB⟩,
        hsecond⟩
    · split at hd
      · next heq =>
        cases hd
        subst heq
        exact .inl ⟨rfl, ⟨_, ha, Nat.le_refl _, Nat.lt_add_of_pos_right Nat.zero_lt_two⟩, (enrolledDevice_made ..).1,
          ⟨s₁, by simp [hsubjects], hA⟩, hfirst⟩
      · cases hd

/-- **An enrollment leaves its two mice**, and a valid document unless an endpoint is remembered for the old one. -/
theorem enrollment_finishes_iff (hphase : journal.phase = .initialEnrollment) (hnext : state.nextDeviceNumber + 2 < 2 ^ 64) :
    FinalizesWell state journal skip ↔ state.endpointMapping.endpoints = ∅ := by
  obtain ⟨state', a, b, A, B, hran, hleft⟩ := enrollment_enrolls hv hj hstage hends skip hphase hnext
  constructor
  · rintro ⟨_, hran', hfinished, -⟩
    rw [hran] at hran'
    cases hran'
    exact hleft.remembers_nothing hv hfinished.valid
  · intro hempty
    exact ⟨state', hran, hleft.finished hphase (hleft.valid hv hempty), made_of_ran hv hj hstage hran⟩

/-- **A valid ceremony is finished well** unless it is an enrollment that finds an endpoint remembered for the old mouse, or
an association bound to no mouse. -/
theorem finalizes_well_iff (skip : Bool) (hnext : state.nextDeviceNumber + 2 < 2 ^ 64) : FinalizesWell state journal skip ↔
    (journal.phase = .initialEnrollment → state.endpointMapping.endpoints = ∅) ∧
      (journal.phase = .bleAssociation → ∀ subject ∈ journal.subjects, subject.deviceId.isSome = true) := by
  cases hphase : journal.phase with
  | initialEnrollment =>
    rw [enrollment_finishes_iff hv hj hstage hends hphase hnext]
    simp
  | addMouse | foreignAdoption =>
    have hwell : FinalizesWell state journal skip :=
      newMouse_finishes hv hj hstage hends (by simp [hphase]) (Nat.lt_of_succ_lt hnext)
    exact ⟨fun _ => ⟨nofun, nofun⟩, fun _ => hwell⟩
  | restore =>
    have hwell : FinalizesWell state journal skip := restore_finishes hv hj hstage hends hphase
    exact ⟨fun _ => ⟨nofun, nofun⟩, fun _ => hwell⟩
  | bleAssociation =>
    rw [association_finishes_iff hv hj hstage hends hphase]
    simp

end Kinds

namespace Rig

theorem accepted_wired (path : String) (h : isBlank path = false) : (wired path).Accepted := by
  intro id
  refine DeviceIdentity.validate_ok.2 fun kind endpoint hseen => ?_
  by_cases hkind : TransportKind.wired = kind
  · subst hkind
    have heq : some (wired path) = some endpoint := (BTreeMap.get_insert_self ..).symm.trans hseen
    rw [← Option.some.inj heq]
    simp [DeviceIdentity.validateEndpoint, wired, DeviceEndpoint.isCoherent, h]
    rfl
  · have hnone : (∅ : BTreeMap TransportKind DeviceEndpoint)[kind]? = some endpoint :=
      (BTreeMap.get_insert_of_ne _ hkind _).symm.trans hseen
    simp at hnone

theorem accepted_parked : ∀ subject ∈ parked.subjects, subject.endpoint.Accepted := by
  intro subject hsubject
  simp only [parked, List.mem_cons, List.not_mem_nil, or_false] at hsubject
  rcases hsubject with rfl | rfl
  · exact accepted_wired "a" (by decide)
  · exact accepted_wired "b" (by decide)

/-- Both mice of an enrollment are stamped, and no endpoint is remembered. -/
theorem finalizes_parked : FinalizesWell (legacyWith parked) parked false :=
  (finalizes_well_iff (by decide +kernel) rfl rfl accepted_parked false (by decide)).2 ⟨fun _ => rfl, nofun⟩

/-- The old mouse of an enrollment, for which an endpoint is remembered. -/
def rememberedLegacy : StateFile :=
  (Txn.rememberResolution (wired "old") mouse1 ⟨0⟩).after { legacyWith parked with
    nextDeviceNumber := 2
    devices := (∅ : BTreeMap DeviceId DeviceState).insert mouse1 (.new (.new mouse1 none)) }

/-- **An endpoint is remembered for the old mouse**: the document is valid, and not once the enrollment is finished. -/
theorem finishes_dangling : rememberedLegacy.validate = .ok () ∧ rememberedLegacy.identitySetup = some parked ∧
    (∀ subject ∈ parked.subjects, subject.endpoint.Accepted) ∧
    ((finalizeCeremony false).apply rememberedLegacy).1 = .ok () ∧
    ((finalizeCeremony false).apply rememberedLegacy).2.validate ≠ .ok () ∧ ¬ FinalizesWell rememberedLegacy parked false := by
  have hinvalid : ((finalizeCeremony false).apply rememberedLegacy).2.validate ≠ .ok () := by decide +kernel
  refine ⟨by decide +kernel, rfl, accepted_parked, by decide +kernel, hinvalid, ?_⟩
  rintro ⟨state', hran, hfinished, -⟩
  rw [hran] at hinvalid
  exact hinvalid hfinished.valid

end Rig
end AttackSharkX3
