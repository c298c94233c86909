import AttackSharkX3.Composite
/-!
# Recorded — the evidence of a composite update's writes

Each part that reached the mouse is evidence: the store should hold its value as the desired one, with the verification
its write earned.  A composite update records its parts together, after the last of them.
-/
namespace AttackSharkX3

open Effects (Fallible Leads)
open Effects.Prog (Event History)

/-- The value is on record as the desired one, with the verification its write earned. -/
def StateFile.Records {T : Type} [DecidableEq T] (state : StateFile) (sect : Section T) (device : DeviceId)
    (profile : ProfileId) (value : T) (write : SessionWrite T) : Prop :=
  ∃ desired, (state.held sect device profile).desired = some desired ∧ desired.value = value ∧
    desired.verification = (writeOutcome value write).verification

/-- **No evidence is lost**: each write that a session answered with success is on record. -/
structure EvidenceKept (device : DeviceId) (h : History Backend) (state : StateFile) : Prop where
  dpi : ∀ endpoint value verification write, Did.session endpoint (.writeDpi value verification) (.ok write) ∈ h →
    state.Records .dpi device value.profile value write
  preferences : ∀ endpoint value verification write,
    Did.session endpoint (.writePreferences value verification) (.ok write) ∈ h →
      state.Records .preferences device value.profile value write
  buttons : ∀ endpoint value verification write,
    Did.session endpoint (.writeButtons value verification) (.ok write) ∈ h →
      state.Records .buttons device value.profile value write

/-- Every part of the update was written with success. -/
structure AllSent (update : ProfileUpdate) (h : History Backend) : Prop where
  dpi : update.dpi.isSome → ∃ endpoint value verification write,
    Did.session endpoint (.writeDpi value verification) (.ok write) ∈ h
  preferences : update.preferences.isSome → ∃ endpoint value verification write,
    Did.session endpoint (.writePreferences value verification) (.ok write) ∈ h
  buttons : update.buttons ≠ [] → ∃ endpoint value verification write,
    Did.session endpoint (.writeButtons value verification) (.ok write) ∈ h

/-- The store took a transaction of the call. -/
def Taken (state state' : StateFile) (h : History Backend) : Prop :=
  ∃ t ∈ commitsOf h, state' = t.after state ∧ state'.validate = .ok ()

/-- **What decides the evidence**: every part was written and the store took the record, or it held all of it before. -/
def Accounted (state : StateFile) (device : DeviceId) (update : ProfileUpdate) (state' : StateFile)
    (h : History Backend) : Prop :=
  EvidenceKept device h state' ↔ (AllSent update h ∧ Taken state state' h) ∨ EvidenceKept device h state

section Accounts

variable {state state' : StateFile} {device : DeviceId} {profile : ProfileId} {update : ProfileUpdate}
  {h : History Backend}

/-- A store that stayed as it was holds what it held. -/
theorem accounted_of_untaken (hs : ¬ Taken state state' h → state' = state) (hkept : Taken state state' h →
    AllSent update h ∧ EvidenceKept device h state') : Accounted state device update state' h := by
  by_cases htaken : Taken state state' h
  · obtain ⟨hsent, hevidence⟩ := hkept htaken
    exact ⟨fun _ => .inl ⟨hsent, htaken⟩, fun _ => hevidence⟩
  · obtain rfl := hs htaken
    exact ⟨.inr, fun hor => hor.elim (fun hall => absurd hall.2 htaken) id⟩

theorem not_taken (hcommits : commitsOf h = []) : ¬ Taken state state' h := by
  rintro ⟨t, ht, -⟩
  rw [hcommits] at ht
  cases ht

theorem mem_sent {T : Type} {event : T → SessionWrite T → Event Backend} {made : Option (T × SessionWrite T)}
    {ev : Event Backend} : ev ∈ partSent event made ↔ ∃ value write, made = some (value, write) ∧ event value write = ev := by
  cases made with
  | none => simp [partSent]
  | some made =>
    simp only [partSent, Option.map_some, Option.toList_some, List.mem_singleton, Option.some.injEq]
    exact ⟨fun heq => ⟨made.1, made.2, rfl, heq.symm⟩, fun ⟨_, _, hmade, heq⟩ => by rw [hmade, ← heq]⟩

theorem mem_writesOf (ev : Event Backend) (hw : (match ev.1 with | .session _ call => call.writes | _ => false) = true) :
    ev ∈ writesOf h ↔ ev ∈ h := by
  unfold writesOf
  rw [List.mem_filter]
  exact ⟨And.left, fun hm => ⟨hm, hw⟩⟩

/-! ### What was sent -/

variable {session : Session} {policy : UpdatePolicy} {writes : ProfileWrites}

theorem mem_sentParts {ev : Event Backend} : ev ∈ sentParts session policy writes ↔
    (∃ value write, writes.buttons = some (value, write) ∧
      Did.session session.endpoint (.writeButtons value policy.verification) (.ok write) = ev) ∨
    (∃ value write, writes.preferences = some (value, write) ∧
      Did.session session.endpoint (.writePreferences value policy.verification) (.ok write) = ev) ∨
    ∃ value write, writes.dpi = some (value, write) ∧
      Did.session session.endpoint (.writeDpi value policy.verification) (.ok write) = ev := by
  unfold sentParts
  simp only [List.mem_append, mem_sent, List.not_mem_nil, or_false]

/-- A DPI write that was answered with success is the one that is to be recorded. -/
theorem dpi_of_mem (hwrites : writesOf h = sentParts session policy writes) {endpoint : DeviceEndpoint} {value : DpiState}
    {verification : VerificationMethod} {write : SessionWrite DpiState}
    (hm : Did.session endpoint (.writeDpi value verification) (.ok write) ∈ h) : writes.dpi = some (value, write) := by
  rw [← mem_writesOf (Did.session endpoint (.writeDpi value verification) (.ok write)) rfl, hwrites,
    mem_sentParts] at hm
  rcases hm with ⟨_, _, -, heq⟩ | ⟨_, _, -, heq⟩ | ⟨_, _, hdpi, heq⟩
  · cases heq
  · cases heq
  · cases heq
    exact hdpi

theorem preferences_of_mem (hwrites : writesOf h = sentParts session policy writes) {endpoint : DeviceEndpoint}
    {value : PreferencesState} {verification : VerificationMethod} {write : SessionWrite PreferencesState}
    (hm : Did.session endpoint (.writePreferences value verification) (.ok write) ∈ h) :
    writes.preferences = some (value, write) := by
  rw [← mem_writesOf (Did.session endpoint (.writePreferences value verification) (.ok write)) rfl, hwrites,
    mem_sentParts] at hm
  rcases hm with ⟨_, _, -, heq⟩ | ⟨_, _, hpreferences, heq⟩ | ⟨_, _, -, heq⟩
  · cases heq
  · cases heq
    exact hpreferences
  · cases heq

theorem buttons_of_mem (hwrites : writesOf h = sentParts session policy writes) {endpoint : DeviceEndpoint}
    {value : ButtonsState} {verification : VerificationMethod} {write : SessionWrite ButtonsState}
    (hm : Did.session endpoint (.writeButtons value verification) (.ok write) ∈ h) :
    writes.buttons = some (value, write) := by
  rw [← mem_writesOf (Did.session endpoint (.writeButtons value verification) (.ok write)) rfl, hwrites,
    mem_sentParts] at hm
  rcases hm with ⟨_, _, hbuttons, heq⟩ | ⟨_, _, -, heq⟩ | ⟨_, _, -, heq⟩
  · cases heq
    exact hbuttons
  · cases heq
  · cases heq

theorem allSent_of_sentParts (hwrites : writesOf h = sentParts session policy writes)
    (hdpi : writes.dpi.isSome = update.dpi.isSome) (hpreferences : writes.preferences.isSome = update.preferences.isSome)
    (hbuttons : writes.buttons.isSome = !update.buttons.isEmpty) : AllSent update h := by
  have hmem : ∀ ev, ev ∈ sentParts session policy writes → ev ∈ h := by
    intro ev hev
    rw [← hwrites] at hev
    exact (List.mem_filter.1 hev).1
  refine ⟨fun hsome => ?_, fun hsome => ?_, fun hne => ?_⟩
  · rw [← hdpi] at hsome
    obtain ⟨⟨value, write⟩, hmade⟩ := Option.isSome_iff_exists.1 hsome
    exact ⟨_, _, _, _, hmem _ (mem_sentParts.2 (.inr (.inr ⟨value, write, hmade, rfl⟩)))⟩
  · rw [← hpreferences] at hsome
    obtain ⟨⟨value, write⟩, hmade⟩ := Option.isSome_iff_exists.1 hsome
    exact ⟨_, _, _, _, hmem _ (mem_sentParts.2 (.inr (.inl ⟨value, write, hmade, rfl⟩)))⟩
  · have hsome : writes.buttons.isSome = true := by
      rw [hbuttons]
      simpa using hne
    obtain ⟨⟨value, write⟩, hmade⟩ := Option.isSome_iff_exists.1 hsome
    exact ⟨_, _, _, _, hmem _ (mem_sentParts.2 (.inl ⟨value, write, hmade, rfl⟩))⟩

/-! ### What is on record -/

theorem records_of_held {T : Type} [DecidableEq T] {sect : Section T} {value : T} {write : SessionWrite T}
    {resource : ResourceState T} {now : Timestamp}
    (hheld : state.held sect device profile = recordWrite resource value write now) :
    state.Records sect device profile value write := by
  unfold StateFile.Records
  rw [hheld]
  cases write with
  | readbackVerified readback => exact ⟨_, rfl, rfl, rfl⟩
  | acknowledged => exact ⟨_, rfl, rfl, rfl⟩

/-- A value on record in a valid store names the profile it is under. -/
theorem profile_of_records {T : Type} [DecidableEq T] {sect : Section T} {value : T} {write : SessionWrite T}
    (profileOf : T → ProfileId) (hv : state.validate = .ok ())
    (hunder : ∀ profileState : ProfileState, profileState.Under profile → (sect.get profileState).Under profileOf profile)
    (hr : state.Records sect device profile value write) : profileOf value = profile := by
  obtain ⟨desired, hdesired, rfl, -⟩ := hr
  unfold StateFile.held at hdesired
  cases hresource : state.resource sect device profile with
  | none =>
    rw [hresource] at hdesired
    cases hdesired
  | some resource =>
    rw [hresource] at hdesired
    obtain ⟨deviceState, hdevice, hmap⟩ := Option.bind_eq_some_iff.1 hresource
    obtain ⟨profileState, hprofile, rfl⟩ := Option.map_eq_some_iff.1 hmap
    obtain ⟨-, -, -, hprofiles, -⟩ := validateDevice_ok.1 (StateFile.valid_device hv hdevice)
    exact (hunder profileState (hprofiles profile profileState hprofile)).1 desired hdesired

/-- **A record that was taken holds the evidence of every write.** -/
theorem evidenceKept_of_addsParts {now : Timestamp} (hwrites : writesOf h = sentParts session policy writes)
    (hadds : AddsParts state state' device profile writes now) (hv : state'.validate = .ok ()) :
    EvidenceKept device h state' := by
  constructor
  · intro endpoint value verification write hm
    have hrecords := records_of_held (hadds.dpi value write (dpi_of_mem hwrites hm))
    obtain rfl := profile_of_records DpiState.profile hv (fun _ hu => hu.dpi) hrecords
    exact hrecords
  · intro endpoint value verification write hm
    have hrecords := records_of_held (hadds.preferences value write (preferences_of_mem hwrites hm))
    obtain rfl := profile_of_records PreferencesState.profile hv (fun _ hu => hu.preferences) hrecords
    exact hrecords
  · intro endpoint value verification write hm
    exact records_of_held (hadds.buttons value write (buttons_of_mem hwrites hm))

end Accounts

/-! ## The call -/

/-- No section is written. -/
def Op.leavesSections : Op → Prop
  | .session _ (.writeDpi ..) | .session _ (.writePreferences ..) | .session _ (.writeButtons ..) => False
  | _ => True

theorem leavesSections_of_looks {α : Type} {x : Manager α} (hx : Looks x) : Fallible.Only Op.leavesSections x := by
  refine hx.mono fun o ho => ?_
  cases o with
  | session endpoint call => cases call <;> trivial
  | _ => trivial

section Call

variable {state : StateFile} {device : DeviceId} {profile : ProfileId} {update : ProfileUpdate} {policy : UpdatePolicy}
  {provided : Option ProfileUpdateBaseline} {session : Session}

theorem leavesSections_applyPollingRate {rate : PollingRate} :
    Fallible.Only Op.leavesSections (applyPollingRate device profile rate policy session) := by
  refine .bind .ensure fun _ => .bind (leavesSections_of_looks looks_requireCompleteDesiredImage) fun image =>
    .bind (.perform trivial) fun snapshot => .bind .ensure fun _ => .bind .ensure fun _ => .bind .ensure fun _ =>
    .bind .ensure fun _ => .bind (.perform trivial) fun current => .bind (.ite .pure (.perform trivial)) fun write =>
    .bind (.perform trivial) fun now => .bind (.perform trivial) fun outcome => .bind .ofExcept fun _ => .pure

/-- No section was written so far. -/
def Unsent (h : History Backend) : Prop := ∀ ev ∈ h, Op.leavesSections ev.1

theorem accounted_of_unsent {state' : StateFile} {h : History Backend} (hu : Unsent h) :
    Accounted state device update state' h := by
  have hkept : ∀ s, EvidenceKept device h s := fun s =>
    ⟨fun _ _ _ _ hm => (hu _ hm).elim, fun _ _ _ _ hm => (hu _ hm).elim, fun _ _ _ _ hm => (hu _ hm).elim⟩
  exact ⟨fun _ => .inr (hkept state), fun _ => hkept state'⟩

theorem unsent_of_writesOf {h : History Backend} (hw : writesOf h = []) : Unsent h := by
  intro ev hev
  obtain ⟨o, r⟩ := ev
  cases o with
  | session endpoint call =>
    cases call with
    | writeDpi | writePreferences | writeButtons =>
      have hmem := (mem_writesOf _ rfl).2 hev
      rw [hw] at hmem
      cases hmem
    | _ => trivial
  | _ => trivial

theorem accounted_of_allWritten (hsaved : ∃ deviceState, state.devices[device]? = some deviceState) {state' : StateFile}
    {h : History Backend} (hall : AllWritten state device profile update policy session state' h) :
    Accounted state device update state' h := by
  obtain ⟨writes, ⟨hdpi, hpreferences, hbuttons⟩, now, hwrites, hcommits, hstate⟩ := hall
  refine accounted_of_untaken (fun htaken => ?_) fun ⟨t, ht, heq, hv⟩ => ?_
  · rcases hstate with rfl | ⟨rfl, hv⟩
    · rfl
    · refine absurd ⟨.persistProfile device profile writes now, ?_, rfl, hv⟩ htaken
      rw [hcommits]
      exact List.mem_singleton_self _
  · refine ⟨allSent_of_sentParts hwrites hdpi hpreferences hbuttons, ?_⟩
    rw [hcommits, List.mem_singleton] at ht
    subst ht
    obtain ⟨outcome, after, happly, hadds⟩ := persistParts_apply profile writes now hsaved
    have hafter : (Txn.persistProfile device profile writes now).after state = after := congrArg Prod.snd happly
    rw [hafter] at heq
    subst heq
    exact evidenceKept_of_addsParts hwrites hadds hv

variable [Crc32fast]

/-- **Every end of a composite update** accounts for its writes, or loses them with its record. -/
theorem leads_accounted :
    Leads (S := Backend) Op.does (fun s h => s = state ∧ Untouched [] h)
      (applyProfileUpdateInner device profile update policy provided)
      (fun _ s h => Accounted state device update s h) fun _ s h => Accounted state device update s h := by
  have hfine : ∀ {c : Prop} [Decidable c] {e : ManagerError}, Leads (S := Backend) Op.does
      (fun s h => s = state ∧ Untouched [] h) (Fallible.ensure c e) (fun _ s h => s = state ∧ Untouched [] h)
      fun _ s h => Accounted state device update s h :=
    .ensure (fun _ _ _ => id) fun _ _ _ hh => accounted_of_unsent (unsent_of_writesOf hh.2.1)
  refine .bind hfine fun _ => .bind hfine fun _ => .bind hfine fun _ => .bind hfine fun _ => ?_
  refine .bind ((leads_openLocked (Untouched.stable [])).mono (fun _ _ => id) (fun _ _ _ => id)
    fun _ _ _ hh => accounted_of_unsent (unsent_of_writesOf hh.2.1)) fun opened => .of_pure fun hopens => ?_
  obtain ⟨identity, session⟩ := opened
  dsimp only
  cases update.pollingRate with
  | some rate =>
    have honly : Leads (S := Backend) Op.does (fun _ h => Unsent h) (applyPollingRate device profile rate policy session)
        (fun _ _ h => Unsent h) fun _ _ h => Unsent h :=
      .only (fun o _ r _ h ho hh _ ev hev => by
        rcases List.mem_cons.1 hev with rfl | hev
        · exact ho
        · exact hh ev hev) leavesSections_applyPollingRate
    exact honly.mono (fun _ _ hh => unsent_of_writesOf hh.2.1) (fun _ _ _ => accounted_of_unsent)
      fun _ _ _ => accounted_of_unsent
  | none =>
    refine (leads_applyParts (StateFile.saved_of_opens hopens) update identity.physicalId).mono (fun _ _ => id)
      (fun _ _ _ => accounted_of_allWritten (StateFile.saved_of_opens hopens)) ?_
    rintro e s h (⟨rfl, hcommits, -⟩ | ⟨hall, -⟩)
    · exact accounted_of_untaken (fun _ => rfl) fun htaken => absurd htaken (not_taken hcommits)
    · exact accounted_of_allWritten (StateFile.saved_of_opens hopens) hall

/-- **When a composite update loses no evidence.**  Whatever the session and the store do, each write that succeeded is on
record exactly when every part was written and the store took their record, or the store held all of it before. -/
theorem evidence_kept_iff (state : StateFile) (device : DeviceId) (profile : ProfileId) (update : ProfileUpdate)
    (policy : UpdatePolicy) (provided : Option ProfileUpdateBaseline) (result : Except ManagerError ProfileUpdateOutcome)
    (state' : StateFile) (h : History Backend)
    (hgoes : Goes (applyProfileUpdateInner device profile update policy provided) state result state' h) :
    EvidenceKept device h state' ↔ (AllSent update h ∧ Taken state state' h) ∨ EvidenceKept device h state := by
  have hend := leads_accounted state [] result state' h ⟨rfl, rfl, rfl⟩ hgoes
  cases result with
  | ok outcome => exact hend
  | error e => exact hend

end Call

namespace Rig

/-- A saved mouse of which nothing is on record. -/
def unrecorded : StateFile := holding (wired "a") .empty []

/-- Another stage and another debounce, against the mouse. -/
def stageAndDebounce : ProfileUpdate :=
  { dpi := some { stages := some [⟨1600, DpiValue.range_1600⟩] }, preferences := some { debounce := some 4 } }

/-- The bench whose mouse takes no preferences. -/
def refusingPreferences : Bench :=
  { bench [(wired "a", unit fun _ => some (token 1))] with
    session := fun endpoint call => match call with
      | .writePreferences .. => .error (.driver "transfer failed")
      | call => (bench [(wired "a", unit fun _ => some (token 1))]).session endpoint call }

/-- A DPI image was written with success that the store does not have as the desired one. -/
def losesDpi (device : DeviceId) (state : StateFile) (h : History Backend) : Bool :=
  h.any fun ev => match ev with
    | ⟨.session _ (.writeDpi value _), answer⟩ =>
      match (answer : Except ManagerError (SessionWrite DpiState)) with
      | .ok _ => (state.held .dpi device value.profile).desired.map (·.value) ≠ some value
      | .error _ => false
    | _ => false

def sendsDpi (ev : Event Backend) : Bool := match ev with
  | ⟨.session _ (.writeDpi ..), answer⟩ => (answer : Except ManagerError (SessionWrite DpiState)).toOption.isSome
  | _ => false

def sendsPreferences (ev : Event Backend) : Bool := match ev with
  | ⟨.session _ (.writePreferences ..), answer⟩ =>
    (answer : Except ManagerError (SessionWrite PreferencesState)).toOption.isSome
  | _ => false

theorem dpi_of_sends {ev : Event Backend} (hs : sendsDpi ev = true) : ∃ endpoint value verification write,
    ev = Did.session endpoint (.writeDpi value verification) (.ok write) := by
  unfold sendsDpi at hs
  split at hs
  · next endpoint value verification answer =>
    cases (answer : Except ManagerError (SessionWrite DpiState)) with
    | ok write => exact ⟨endpoint, value, verification, write, rfl⟩
    | error e => cases hs
  · cases hs

theorem preferences_of_sends {ev : Event Backend} (hs : sendsPreferences ev = true) : ∃ endpoint value verification write,
    ev = Did.session endpoint (.writePreferences value verification) (.ok write) := by
  unfold sendsPreferences at hs
  split at hs
  · next endpoint value verification answer =>
    cases (answer : Except ManagerError (SessionWrite PreferencesState)) with
    | ok write => exact ⟨endpoint, value, verification, write, rfl⟩
    | error e => cases hs
  · cases hs

/-- Both parts are written, and recorded. -/
theorem evidence_kept_both : ∃ result state' h,
    Goes (applyProfileUpdateInner mouse1 first stageAndDebounce {} none) unrecorded result state' h ∧
      AllSent stageAndDebounce h ∧ EvidenceKept mouse1 h state' := by
  have hrun : ((bench [(wired "a", unit fun _ => some (token 1))]).goes
      (applyProfileUpdateInner mouse1 first stageAndDebounce {} none) unrecorded).any (fun ended =>
        ended.2.2.any sendsDpi && ended.2.2.any sendsPreferences &&
          (commitsOf ended.2.2).any fun t => decide (ended.2.1 = t.after unrecorded ∧ ended.2.1.validate = .ok ())) = true := by
    decide +kernel
  obtain ⟨⟨result, state', h⟩, hgoes, htest⟩ := (Option.any_eq_true ..).1 hrun
  simp only [Bool.and_eq_true, List.any_eq_true, decide_eq_true_eq] at htest
  obtain ⟨⟨⟨sentDpi, hdpi, hd⟩, sentPreferences, hpreferences, hp⟩, t, ht, htaken⟩ := htest
  have hsent : AllSent stageAndDebounce h := by
    refine ⟨fun _ => ?_, fun _ => ?_, fun hne => absurd rfl hne⟩
    · obtain ⟨endpoint, value, verification, write, rfl⟩ := dpi_of_sends hd
      exact ⟨endpoint, value, verification, write, hdpi⟩
    · obtain ⟨endpoint, value, verification, write, rfl⟩ := preferences_of_sends hp
      exact ⟨endpoint, value, verification, write, hpreferences⟩
  have hends := Bench.goes_ends hgoes
  exact ⟨result, state', h, hends, hsent,
    (evidence_kept_iff _ _ _ _ _ _ _ _ _ hends).2 (.inl ⟨hsent, t, ht, htaken.1, htaken.2⟩)⟩

/-- **A DPI image is written, the preferences are refused, and the image is not recorded.** -/
theorem evidence_lost_refusingPreferences : unrecorded.validate = .ok () ∧
    ¬ ∀ (policy : UpdatePolicy) (result : Except ManagerError ProfileUpdateOutcome) (state' : StateFile)
      (h : History Backend), Goes (applyProfileUpdate mouse1 first stageAndDebounce policy) unrecorded result state' h →
        EvidenceKept mouse1 h state' := by
  refine ⟨by decide +kernel, fun hall => ?_⟩
  have hrun : (refusingPreferences.goes (applyProfileUpdate mouse1 first stageAndDebounce {}) unrecorded).any
      (fun ended => losesDpi mouse1 ended.2.1 ended.2.2) = true := by decide +kernel
  obtain ⟨⟨result, state', h⟩, hgoes, hloses⟩ := (Option.any_eq_true ..).1 hrun
  obtain ⟨ev, hev, hloses⟩ := List.any_eq_true.1 hloses
  have hkept := hall {} result state' h (Bench.goes_ends hgoes)
  split at hloses
  · next endpoint value verification answer =>
    cases (answer : Except ManagerError (SessionWrite DpiState)) with
    | ok write =>
      obtain ⟨desired, hdesired, rfl, -⟩ := hkept.dpi endpoint value verification write hev
      simp [hdesired] at hloses
    | error e => cases hloses
  · cases hloses

end Rig
end AttackSharkX3
