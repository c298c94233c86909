import AttackSharkX3.Alone
import AttackSharkX3.Records
import AttackSharkX3.Rig
/-!
# Composite — what a composite update writes, and what it records

The parts of an update are resolved and written one after the other, and recorded together at the end.  A part that fails
ends the call, and what was written before it stays unrecorded.
-/
namespace AttackSharkX3

open Effects (Fallible Leads ends_bind ends_stop ends_pure ends_perform ends_ensure)
open Effects.Prog (Event History)

/-! ## Before a write -/

/-- The errors of a part that cannot be made: no baseline, or an update that makes no image. -/
def ManagerError.OfPart : ManagerError → Prop
  | .missingBaseline .. | .invalidUpdate _ | .protocol .. => True
  | _ => False

/-- The last event is a session's error. -/
def SessionFailed (h : History Backend) : Prop :=
  ∃ endpoint call e before, h = (⟨Op.session endpoint call, (.error e : Except ManagerError call.Value)⟩ : Event Backend) ::
    before

/-- Whether baselines are taken from the store, and then whether captured defaults stand in for them. -/
def UpdatePolicy.fromStore (policy : UpdatePolicy) (transport : TransportKind) : Option Bool :=
  match transport, policy.baseline with
  | .ble, _ => some policy.allowExplicitDefaults
  | _, .live => none
  | _, .stored => some false

/-- What only looks leave alone. -/
def LookStable (P : History Backend → Prop) : Prop := ∀ o r h, Op.looks o = true → P h → P (⟨o, r⟩ :: h)

section Part

variable {T : Type} {state : StateFile} {P : History Backend → Prop} {sect : Section T} {name : String}
  {captured : ProfileId → Except ManagerError T} {device : DeviceId} {profile : ProfileId}

theorem leads_looks {α : Type} {x : Manager α} (hP : LookStable P) (hx : Looks x) :
    Leads (S := Backend) Op.does (fun s h => s = state ∧ P h) x (fun _ s h => s = state ∧ P h)
      fun _ s h => s = state ∧ P h :=
  .only (fun o _ r _ h ho hpre hd => ⟨(hd.of_looks ho).trans hpre.1, hP o r h ho hpre.2⟩) hx

/-- A load answers the state, or the store's error. -/
theorem leads_load (hP : LookStable P) : Leads (S := Backend) Op.does (fun s h => s = state ∧ P h) Manager.load
    (fun loaded s h => loaded = state ∧ s = state ∧ P h) fun e s h => (s = state ∧ P h) ∧ ¬ e.OfPart := by
  refine .perform fun s h r s' hpre hd => ?_
  obtain ⟨rfl, hP'⟩ := hpre
  obtain ⟨rfl, rfl | ⟨e, rfl⟩⟩ := hd
  · exact ⟨rfl, rfl, hP _ _ _ rfl hP'⟩
  · exact ⟨⟨rfl, hP _ _ _ rfl hP'⟩, id⟩

/-- **A stored baseline**: what is on record, or nothing to stand in for it. -/
theorem leads_storedBaseline (hP : LookStable P) (hcaptured : ∀ p, ∃ v, captured p = .ok v) (allow : Bool) :
    Leads (S := Backend) Op.does (fun s h => s = state ∧ P h) (loadStoredBaseline sect name captured device profile allow)
      (fun value s h => (allow = false → storedBaseline (state.resource sect device profile) false = some value) ∧
        s = state ∧ P h)
      fun e s h => (s = state ∧ P h) ∧
        (e.OfPart → allow = false ∧ storedBaseline (state.resource sect device profile) false = none) := by
  refine .bind ((leads_load hP).mono (fun _ _ => id) (fun _ _ _ => id) fun _ _ _ hh => ⟨hh.1, fun he => (hh.2 he).elim⟩)
    fun loaded => .of_pure ?_
  rintro rfl
  cases hstored : storedBaseline (loaded.resource sect device profile) allow with
  | some value =>
    refine .pure fun s h hh => ⟨?_, hh⟩
    rintro rfl
    exact hstored
  | none =>
    obtain ⟨value, hvalue⟩ := hcaptured profile
    cases allow with
    | true =>
      rw [if_pos rfl, hvalue]
      exact .pure fun s h hh => ⟨nofun, hh⟩
    | false =>
      rw [if_neg Bool.false_ne_true]
      exact .throw fun s h hh => ⟨hh, fun _ => ⟨rfl, hstored⟩⟩

/-- A session call: its answer is the last event. -/
theorem leads_call {session : Session} {call : SessionCall} :
    Leads (S := Backend) Op.does (fun s h => s = state ∧ P h) (session.call call)
      (fun value s h => s = state ∧ ∃ before,
        h = (⟨Op.session session.endpoint call, (.ok value : Except ManagerError call.Value)⟩ : Event Backend) :: before ∧
          P before)
      fun e s h => s = state ∧ ∃ before,
        h = (⟨Op.session session.endpoint call, (.error e : Except ManagerError call.Value)⟩ : Event Backend) :: before ∧
          P before := by
  refine .perform fun s h r s' hpre hd => ?_
  obtain ⟨rfl, hP⟩ := hpre
  have hsame : s' = s := hd
  subst hsame
  cases (r : Except ManagerError call.Value) with
  | ok value => exact ⟨rfl, h, rfl, hP⟩
  | error e => exact ⟨rfl, h, rfl, hP⟩

/-- A session read. -/
theorem leads_read {session : Session} {call : SessionCall} (hP : LookStable P) (hc : call.writes = false) :
    Leads (S := Backend) Op.does (fun s h => s = state ∧ P h) (session.call call) (fun _ s h => s = state ∧ P h)
      fun _ s h => (s = state ∧ P h) ∧ SessionFailed h := by
  have hlooks : Op.looks (.session session.endpoint call) = true := by simp [Op.looks, hc]
  refine leads_call.mono (fun _ _ => id) ?_ ?_
  · rintro value s _ ⟨hs, before, rfl, hbefore⟩
    exact ⟨hs, hP _ _ _ hlooks hbefore⟩
  · rintro e s _ ⟨hs, before, rfl, hbefore⟩
    exact ⟨⟨hs, hP _ _ _ hlooks hbefore⟩, session.endpoint, call, e, before, rfl⟩

/-! ### The mouse -/

/-- What an ordinary call on the mouse works on: its identity, and the endpoint that is opened. -/
def StateFile.opens (state : StateFile) (device : DeviceId) : Option (DeviceIdentity × DeviceEndpoint) :=
  if state.identitySetup.any (journalBlocksDevice · device) then none
  else state.devices[device]?.bind fun deviceState =>
    deviceState.identity.selectedEndpoint.map fun endpoint => (deviceState.identity, endpoint)

/-- **The session of an ordinary call** is at the endpoint the store selects. -/
theorem leads_openLocked [Crc32fast] {operation : String} (hP : LookStable P) :
    Leads (S := Backend) Op.does (fun s h => s = state ∧ P h) (openLocked device operation)
      (fun opened s h => state.opens device = some (opened.1, opened.2.endpoint) ∧ s = state ∧ P h)
      fun _ s h => s = state ∧ P h := by
  refine .bind (leads_looks hP (.perform rfl)) fun _ =>
    .bind ((leads_load hP).mono (fun _ _ => id) (fun _ _ _ => id) fun _ _ _ hh => hh.1) fun loaded => .of_pure ?_
  rintro rfl
  have hrefuse : Leads (S := Backend) Op.does (fun s h => s = loaded ∧ P h) (refuseInvolved loaded.identitySetup device)
      (fun _ s h => loaded.identitySetup.any (journalBlocksDevice · device) = false ∧ s = loaded ∧ P h)
      fun _ s h => s = loaded ∧ P h := by
    unfold refuseInvolved
    cases loaded.identitySetup with
    | none => exact .pure fun s h hh => ⟨rfl, hh⟩
    | some journal => exact .ensure (fun hc s h hh => ⟨hc, hh⟩) fun _ _ _ => id
  refine .bind hrefuse fun _ => .of_pure fun hfree => ?_
  refine .bind (Q := fun deviceState s h => loaded.devices[device]? = some deviceState ∧ s = loaded ∧ P h)
    (.ofOption (fun _ hd _ _ hh => ⟨hd, hh⟩) fun _ _ _ => id) fun deviceState => .of_pure fun hdevice => ?_
  refine .bind (Q := fun endpoint s h => deviceState.identity.selectedEndpoint = some endpoint ∧ s = loaded ∧ P h)
    (.ofOption (fun _ hd _ _ hh => ⟨hd, hh⟩) fun _ _ _ => id) fun endpoint => .of_pure fun hendpoint => ?_
  have hopen : Leads (S := Backend) Op.does (fun s h => s = loaded ∧ P h) (Manager.open_ endpoint)
      (fun session s h => session = ⟨endpoint⟩ ∧ s = loaded ∧ P h) fun _ s h => s = loaded ∧ P h := by
    refine .perform fun s h r s' hh hd => ?_
    have hs : s' = loaded := (show s' = s from hd).trans hh.1
    cases (r : Except ManagerError Unit) with
    | ok _ => exact ⟨rfl, hs, hP _ _ _ rfl hh.2⟩
    | error e => exact ⟨hs, hP _ _ _ rfl hh.2⟩
  refine .bind hopen fun session => .of_pure ?_
  rintro rfl
  have hgate : Looks (gateAttachment device deviceState.identity.physicalId endpoint ⟨endpoint⟩) := by
    unfold gateAttachment
    split
    · exact .bind looks_authenticateAttachment fun _ => .ensure
    · exact .pure
  refine .bind (leads_looks hP hgate) fun _ => .pure fun s h hh => ⟨?_, hh⟩
  simp [StateFile.opens, hfree, hdevice, hendpoint]

/-- A mouse the store can open is saved. -/
theorem StateFile.saved_of_opens {opened : DeviceIdentity × DeviceEndpoint} (h : state.opens device = some opened) :
    ∃ deviceState, state.devices[device]? = some deviceState := by
  unfold StateFile.opens at h
  split at h
  · cases h
  · obtain ⟨deviceState, hdevice, -⟩ := Option.bind_eq_some_iff.1 h
    exact ⟨deviceState, hdevice⟩

/-! ### The baseline -/

variable {transport : TransportKind} {policy : UpdatePolicy} {provided : Option ProfileUpdateBaseline}
  {get : ProfileUpdateBaseline → T} {read : Manager T}

/-- Without defaults the store has no baseline for the section. -/
def Lacks (state : StateFile) (sect : Section T) (device : DeviceId) (profile : ProfileId) (policy : UpdatePolicy)
    (transport : TransportKind) : Prop :=
  policy.fromStore transport = some false ∧ storedBaseline (state.resource sect device profile) false = none

/-- A baseline that comes of the store without defaults is the one on record. -/
def OnRecord (state : StateFile) (sect : Section T) (device : DeviceId) (profile : ProfileId) (policy : UpdatePolicy)
    (transport : TransportKind) (value : T) : Prop :=
  policy.fromStore transport = some false → storedBaseline (state.resource sect device profile) false = some value

theorem resolveBaseline_fromStore {stored : Bool → Manager T} {live : Manager T} {allow : Bool}
    (h : policy.fromStore transport = some allow) : resolveBaseline transport policy stored live = stored allow := by
  unfold UpdatePolicy.fromStore at h
  unfold resolveBaseline
  cases transport with
  | ble =>
    cases h
    rfl
  | wired | receiver =>
    cases hsource : policy.baseline with
    | live =>
      rw [hsource] at h
      cases h
    | stored =>
      rw [hsource] at h
      cases h
      rfl

theorem resolveBaseline_live {stored : Bool → Manager T} {live : Manager T} (h : policy.fromStore transport = none) :
    resolveBaseline transport policy stored live = live := by
  unfold UpdatePolicy.fromStore at h
  unfold resolveBaseline
  cases transport with
  | ble => cases h
  | wired | receiver =>
    cases hsource : policy.baseline with
    | live => rfl
    | stored =>
      rw [hsource] at h
      cases h

/-- **The baseline of a part**: without defaults it is what is on record, and it is missing only when nothing is. -/
theorem leads_baseline (hP : LookStable P) (hcaptured : ∀ p, ∃ v, captured p = .ok v)
    (hread : Leads (S := Backend) Op.does (fun s h => s = state ∧ P h) read (fun _ s h => s = state ∧ P h)
      fun _ s h => (s = state ∧ P h) ∧ SessionFailed h) :
    Leads (S := Backend) Op.does (fun s h => s = state ∧ P h)
      (resolveBaseline transport policy (loadStoredBaseline sect name captured device profile)
        (liveBaseline provided get read))
      (fun value s h => OnRecord state sect device profile policy transport value ∧ s = state ∧ P h)
      fun e s h => (s = state ∧ P h) ∧
        (e.OfPart → SessionFailed h ∨ Lacks state sect device profile policy transport) := by
  have hstored : ∀ allow, policy.fromStore transport = some allow →
      Leads (S := Backend) Op.does (fun s h => s = state ∧ P h)
        (loadStoredBaseline sect name captured device profile allow)
        (fun value s h => OnRecord state sect device profile policy transport value ∧ s = state ∧ P h)
        fun e s h => (s = state ∧ P h) ∧
          (e.OfPart → SessionFailed h ∨ Lacks state sect device profile policy transport) := by
    intro allow hallow
    refine (leads_storedBaseline hP hcaptured allow).mono (fun _ _ => id) ?_ ?_
    · intro value s h hh
      refine ⟨fun hfalse => hh.1 ?_, hh.2⟩
      rw [hallow] at hfalse
      exact Option.some.inj hfalse
    · intro e s h hh
      refine ⟨hh.1, fun he => .inr ?_⟩
      obtain ⟨rfl, hnone⟩ := hh.2 he
      exact ⟨hallow, hnone⟩
  have hlive : policy.fromStore transport = none → Leads (S := Backend) Op.does (fun s h => s = state ∧ P h)
      (liveBaseline provided get read)
      (fun value s h => OnRecord state sect device profile policy transport value ∧ s = state ∧ P h)
      fun e s h => (s = state ∧ P h) ∧
        (e.OfPart → SessionFailed h ∨ Lacks state sect device profile policy transport) := by
    intro hnone
    have hany : ∀ value, OnRecord state sect device profile policy transport value := by
      intro value hfalse
      rw [hnone] at hfalse
      cases hfalse
    cases provided with
    | some baseline => exact .pure fun s h hh => ⟨hany _, hh⟩
    | none => exact hread.mono (fun _ _ => id) (fun value s h hh => ⟨hany value, hh⟩) fun e s h hh => ⟨hh.1, fun _ => .inl hh.2⟩
  cases hfrom : policy.fromStore transport with
  | some allow =>
    rw [resolveBaseline_fromStore hfrom]
    exact hstored allow hfrom
  | none =>
    rw [resolveBaseline_live hfrom]
    exact hlive hfrom

end Part

/-! ## Parts -/

/-- The transactions asked of the store, the newest first. -/
def commitsOf (h : History Backend) : List Txn := h.filterMap fun ev => match ev.1 with
  | .commit t => some t
  | _ => none

/-- So much was written to the mouse, and nothing was asked of the store. -/
def Untouched (written : History Backend) (h : History Backend) : Prop := writesOf h = written ∧ commitsOf h = []

theorem Untouched.stable (written : History Backend) : LookStable (Untouched written) := by
  intro o r h ho hh
  refine ⟨(writesOf_looks ho).trans hh.1, ?_⟩
  have hsame : commitsOf (⟨o, r⟩ :: h) = commitsOf h := by
    unfold commitsOf
    cases o with
    | commit t => cases ho
    | _ => rfl
  exact hsame.trans hh.2

theorem Untouched.write {written h : History Backend} {endpoint : DeviceEndpoint} {call : SessionCall}
    (hh : Untouched written h) (hw : call.writes = true) (r : Except ManagerError call.Value) :
    Untouched (⟨Op.session endpoint call, r⟩ :: written) (⟨Op.session endpoint call, r⟩ :: h) := by
  refine ⟨?_, hh.2⟩
  rw [writesOf_write hw, hh.1]

section Part

variable {T : Type} {state : StateFile} {sect : Section T} {name : String}
  {captured : ProfileId → Except ManagerError T} {device : DeviceId} {profile : ProfileId} {transport : TransportKind}
  {policy : UpdatePolicy} {provided : Option ProfileUpdateBaseline} {get : ProfileUpdateBaseline → T} {read : Manager T}
  {written : History Backend}

/-- How a part fails: before its write, for want of a baseline or of an image, or by its write. -/
def PartFails (state : StateFile) (sect : Section T) (device : DeviceId) (profile : ProfileId) (policy : UpdatePolicy)
    (transport : TransportKind) (merge : T → Except ManagerError T) (written : History Backend) (e : ManagerError)
    (s : StateFile) (h : History Backend) : Prop :=
  s = state ∧
    ((Untouched written h ∧ (e.OfPart → SessionFailed h ∨ Lacks state sect device profile policy transport ∨
      ∃ baseline, merge baseline = .error e)) ∨
    (SessionFailed h ∧ ∃ endpoint call e', Untouched
      (⟨Op.session endpoint call, (.error e' : Except ManagerError call.Value)⟩ :: written) h))

/-- **A part of an update**: its baseline, merged and sent. -/
theorem leads_part {send : T → Manager (SessionWrite T)} (merge : T → Except ManagerError T)
    (event : T → SessionWrite T → Event Backend) (hcaptured : ∀ p, ∃ v, captured p = .ok v)
    (hread : Leads (S := Backend) Op.does (fun s h => s = state ∧ Untouched written h) read
      (fun _ s h => s = state ∧ Untouched written h) fun _ s h => (s = state ∧ Untouched written h) ∧ SessionFailed h)
    (hsend : ∀ desired, Leads (S := Backend) Op.does (fun s h => s = state ∧ Untouched written h) (send desired)
      (fun write s h => s = state ∧ Untouched (event desired write :: written) h)
      fun _ s h => s = state ∧ SessionFailed h ∧ ∃ endpoint call e', Untouched
        (⟨Op.session endpoint call, (.error e' : Except ManagerError call.Value)⟩ :: written) h) :
    Leads (S := Backend) Op.does (fun s h => s = state ∧ Untouched written h)
      (do
        let baseline ← resolveBaseline transport policy (loadStoredBaseline sect name captured device profile)
          (liveBaseline provided get read)
        let desired ← Fallible.ofExcept id (merge baseline)
        let write ← send desired
        return (desired, write))
      (fun made s h => (∃ baseline, OnRecord state sect device profile policy transport baseline ∧
          merge baseline = .ok made.1) ∧ s = state ∧ Untouched (event made.1 made.2 :: written) h)
      (PartFails state sect device profile policy transport merge written) := by
  refine .bind ((leads_baseline (Untouched.stable written) hcaptured hread).mono (fun _ _ => id) (fun _ _ _ => id) ?_)
    fun baseline => .of_pure fun hrecord => ?_
  · intro e s h hh
    refine ⟨hh.1.1, .inl ⟨hh.1.2, fun he => ?_⟩⟩
    rcases hh.2 he with hfailed | hlacks
    · exact .inl hfailed
    · exact .inr (.inl hlacks)
  refine .bind (Q := fun desired s h => merge baseline = .ok desired ∧ s = state ∧ Untouched written h)
    (.ofExcept (fun desired hd s h hh => ⟨hd, hh⟩) ?_) fun desired => .of_pure fun hmerge => ?_
  · intro e he s h hh
    exact ⟨hh.1, .inl ⟨hh.2, fun _ => .inr (.inr ⟨baseline, he⟩)⟩⟩
  refine .bind ((hsend desired).mono (fun _ _ => id) (fun _ _ _ => id) fun e s h hh => ⟨hh.1, .inr hh.2⟩) fun write => ?_
  exact .pure fun s h hh => ⟨⟨baseline, hrecord, hmerge⟩, hh⟩

end Part

section Parts

variable [Crc32fast] {state : StateFile} {device : DeviceId} {profile : ProfileId} {policy : UpdatePolicy}
  {provided : Option ProfileUpdateBaseline} {session : Session} {written : History Backend}

omit [Crc32fast] in
/-- A session write: what was written before, and its answer. -/
theorem leads_write {call : SessionCall} (hw : call.writes = true) :
    Leads (S := Backend) Op.does (fun s h => s = state ∧ Untouched written h) (session.call call)
      (fun value s h => s = state ∧ Untouched
        (⟨Op.session session.endpoint call, (.ok value : Except ManagerError call.Value)⟩ :: written) h)
      fun _ s h => s = state ∧ SessionFailed h ∧ ∃ endpoint call e, Untouched
        (⟨Op.session endpoint call, (.error e : Except ManagerError call.Value)⟩ :: written) h := by
  refine leads_call.mono (fun _ _ => id) ?_ ?_
  · rintro value s _ ⟨hs, before, rfl, hbefore⟩
    exact ⟨hs, hbefore.write hw _⟩
  · rintro e s _ ⟨hs, before, rfl, hbefore⟩
    exact ⟨hs, ⟨session.endpoint, call, e, before, rfl⟩, session.endpoint, call, e, hbefore.write hw _⟩

variable (state device profile policy provided session written)

/-- A DPI image as it is sent: the delta over a baseline, under the mouse's watermark. -/
def stampedDpi (delta : DpiDelta) (physicalId : Option PhysicalId) (baseline : DpiState) : Except ManagerError DpiState :=
  (mergeDpiDelta baseline delta).map (withPhysicalWatermark · physicalId)

/-- A part is its baseline, merged and sent. -/
theorem applyDpiPart_eq (delta : DpiDelta) (physicalId : Option PhysicalId) :
    applyDpiPart device profile delta physicalId policy provided session = (do
      let baseline ← resolveBaseline session.transport policy (loadStoredDpiBaseline device profile)
        (liveBaseline provided (·.dpi) (session.readDpi profile))
      let desired ← Fallible.ofExcept id (stampedDpi delta physicalId baseline)
      let write ← session.writeDpi desired policy.verification
      return (desired, write)) := by
  unfold applyDpiPart stampedDpi
  congr 1
  funext baseline
  cases mergeDpiDelta baseline delta with
  | ok merged => rfl
  | error e => rfl

theorem leads_applyDpiPart (delta : DpiDelta) (physicalId : Option PhysicalId) :
    Leads (S := Backend) Op.does (fun s h => s = state ∧ Untouched written h)
      (applyDpiPart device profile delta physicalId policy provided session)
      (fun made s h => (∃ baseline, OnRecord state .dpi device profile policy session.transport baseline ∧
          stampedDpi delta physicalId baseline = .ok made.1) ∧ s = state ∧
        Untouched (Did.session session.endpoint (.writeDpi made.1 policy.verification) (.ok made.2) :: written) h)
      (PartFails state .dpi device profile policy session.transport (stampedDpi delta physicalId) written) := by
  have hcaptured : ∀ p, ∃ v, capturedEvidenceDpi p = .ok v := by
    intro p
    exact ⟨_, rfl⟩
  rw [applyDpiPart_eq]
  exact leads_part _
    (fun desired write => Did.session session.endpoint (.writeDpi desired policy.verification) (.ok write)) hcaptured (leads_read (Untouched.stable written) rfl) fun desired => leads_write rfl

omit [Crc32fast] in
theorem applyPreferencesPart_eq (delta : PreferencesDelta) :
    applyPreferencesPart device profile delta policy provided session = (do
      let baseline ← resolveBaseline session.transport policy (loadStoredPreferencesBaseline device profile)
        (liveBaseline provided (·.preferences) (session.readPreferences profile))
      let desired ← Fallible.ofExcept id (.ok (mergePreferencesDelta baseline delta) : Except ManagerError PreferencesState)
      let write ← session.writePreferences desired policy.verification
      return (desired, write)) := rfl

omit [Crc32fast] in
theorem leads_applyPreferencesPart (delta : PreferencesDelta) :
    Leads (S := Backend) Op.does (fun s h => s = state ∧ Untouched written h)
      (applyPreferencesPart device profile delta policy provided session)
      (fun made s h => (∃ baseline, OnRecord state .preferences device profile policy session.transport baseline ∧
          (.ok (mergePreferencesDelta baseline delta) : Except ManagerError PreferencesState) = .ok made.1) ∧ s = state ∧
        Untouched (Did.session session.endpoint (.writePreferences made.1 policy.verification) (.ok made.2) :: written) h)
      (PartFails state .preferences device profile policy session.transport
        (fun baseline => .ok (mergePreferencesDelta baseline delta)) written) := by
  rw [applyPreferencesPart_eq]
  exact leads_part _
    (fun desired write => Did.session session.endpoint (.writePreferences desired policy.verification) (.ok write))
    (fun p => ⟨capturedEvidencePreferences p, rfl⟩) (leads_read (Untouched.stable written) rfl) fun desired =>
      leads_write rfl

omit [Crc32fast] in
theorem applyButtonsPart_eq (deltas : List ButtonSlotDelta) :
    applyButtonsPart device profile deltas policy provided session = (do
      let baseline ← resolveBaseline session.transport policy (loadStoredButtonsBaseline device profile)
        (liveBaseline provided (·.buttons) (session.readButtons profile))
      let desired ← Fallible.ofExcept id (.ok (deltas.foldl ButtonsState.assign baseline) : Except ManagerError ButtonsState)
      let write ← session.writeButtons desired policy.verification
      return (desired, write)) := rfl

omit [Crc32fast] in
theorem leads_applyButtonsPart (deltas : List ButtonSlotDelta) :
    Leads (S := Backend) Op.does (fun s h => s = state ∧ Untouched written h)
      (applyButtonsPart device profile deltas policy provided session)
      (fun made s h => (∃ baseline, OnRecord state .buttons device profile policy session.transport baseline ∧
          (.ok (deltas.foldl ButtonsState.assign baseline) : Except ManagerError ButtonsState) = .ok made.1) ∧ s = state ∧
        Untouched (Did.session session.endpoint (.writeButtons made.1 policy.verification) (.ok made.2) :: written) h)
      (PartFails state .buttons device profile policy session.transport
        (fun baseline => .ok (deltas.foldl ButtonsState.assign baseline)) written) := by
  rw [applyButtonsPart_eq]
  exact leads_part _
    (fun desired write => Did.session session.endpoint (.writeButtons desired policy.verification) (.ok write))
    (fun p => ⟨.defaultForProfile p, rfl⟩) (leads_read (Untouched.stable written) rfl) fun desired => leads_write rfl

end Parts

/-! ## The whole update -/

/-- The write of a part, if it was sent. -/
def partSent {T : Type} (event : T → SessionWrite T → Event Backend) (made : Option (T × SessionWrite T)) :
    History Backend :=
  (made.map fun made => event made.1 made.2).toList

/-- A part that may be left out. -/
theorem leads_optionally {T D : Type} {state : StateFile} {sect : Section T} {device : DeviceId} {profile : ProfileId}
    {policy : UpdatePolicy} {transport : TransportKind} {apply : D → Manager (T × SessionWrite T)}
    {written : History Backend} (part : Option D) (merge : D → T → Except ManagerError T)
    (event : T → SessionWrite T → Event Backend) (happly : ∀ d, Leads (S := Backend) Op.does (fun s h => s = state ∧ Untouched written h) (apply d)
      (fun made s h => (∃ baseline, OnRecord state sect device profile policy transport baseline ∧
        merge d baseline = .ok made.1) ∧ s = state ∧ Untouched (event made.1 made.2 :: written) h)
      (PartFails state sect device profile policy transport (merge d) written)) :
    Leads (S := Backend) Op.does (fun s h => s = state ∧ Untouched written h) (optionally part apply)
      (fun made s h => (made.isSome = part.isSome ∧ ∀ d ∈ part, ∃ baseline desired,
        OnRecord state sect device profile policy transport baseline ∧ merge d baseline = .ok desired) ∧
        s = state ∧ Untouched (partSent event made ++ written) h)
      fun e s h => ∃ d ∈ part, PartFails state sect device profile policy transport (merge d) written e s h := by
  cases part with
  | none => exact .pure fun s h hh => ⟨⟨rfl, nofun⟩, hh⟩
  | some d =>
    refine .bind ((happly d).mono (fun _ _ => id) (fun _ _ _ => id) fun e s h hh => ⟨d, rfl, hh⟩) fun made =>
      .pure fun s h hh => ⟨⟨rfl, fun d' hd => ?_⟩, hh.2⟩
    cases hd
    obtain ⟨⟨baseline, hrecord, hmerge⟩, -⟩ := hh
    exact ⟨baseline, made.1, hrecord, hmerge⟩

/-- **A baseline is found missing once something was written**: baselines come of the store without defaults, and a later
part has none while each part before it could be sent. -/
def BaselineLate (state : StateFile) (device : DeviceId) (profile : ProfileId) (update : ProfileUpdate)
    (policy : UpdatePolicy) (transport : TransportKind) : Prop :=
  policy.fromStore transport = some false ∧
  (∀ delta ∈ update.dpi, ∃ baseline desired, storedBaseline (state.resource .dpi device profile) false = some baseline ∧
    mergeDpiDelta baseline delta = .ok desired) ∧
  ((update.dpi.isSome ∧ update.preferences.isSome ∧
      storedBaseline (state.resource .preferences device profile) false = none) ∨
    ((update.dpi.isSome ∨ update.preferences.isSome) ∧ update.buttons ≠ [] ∧
      (update.preferences.isSome → storedBaseline (state.resource .preferences device profile) false ≠ none) ∧
      storedBaseline (state.resource .buttons device profile) false = none))

section Whole

variable [Crc32fast] {state : StateFile} {device : DeviceId} {profile : ProfileId} {policy : UpdatePolicy}
  {provided : Option ProfileUpdateBaseline} {session : Session}

/-- The writes of an update, the newest first. -/
def sentParts (session : Session) (policy : UpdatePolicy) (writes : ProfileWrites) : History Backend :=
  partSent (fun desired write => Did.session session.endpoint (.writeButtons desired policy.verification) (.ok write))
      writes.buttons ++
    (partSent (fun desired write => Did.session session.endpoint (.writePreferences desired policy.verification) (.ok write))
        writes.preferences ++
      (partSent (fun desired write => Did.session session.endpoint (.writeDpi desired policy.verification) (.ok write))
          writes.dpi ++ []))

/-- The store was asked once to record what was written, and did or did not. -/
def RecordAsked (state : StateFile) (device : DeviceId) (profile : ProfileId) (writes : ProfileWrites)
    (written : History Backend) (s : StateFile) (h : History Backend) : Prop :=
  ∃ now, writesOf h = written ∧ commitsOf h = [.persistProfile device profile writes now] ∧
    (s = state ∨ (s = (Txn.persistProfile device profile writes now).after state ∧ s.validate = .ok ()))

/-- **Every part was written**, and recorded or not. -/
def AllWritten (state : StateFile) (device : DeviceId) (profile : ProfileId) (update : ProfileUpdate)
    (policy : UpdatePolicy) (session : Session) (s : StateFile) (h : History Backend) : Prop :=
  ∃ writes, (writes.dpi.isSome = update.dpi.isSome ∧ writes.preferences.isSome = update.preferences.isSome ∧
      writes.buttons.isSome = !update.buttons.isEmpty) ∧
    RecordAsked state device profile writes (sentParts session policy writes) s h

/-- **A part failed**: nothing was recorded, and where the part could not be made, nothing was written unless a baseline
was found missing late. -/
def PartFailed (state : StateFile) (device : DeviceId) (profile : ProfileId) (update : ProfileUpdate)
    (policy : UpdatePolicy) (session : Session) (e : ManagerError) (s : StateFile) (h : History Backend) : Prop :=
  s = state ∧ commitsOf h = [] ∧ (e.OfPart → SessionFailed h ∨ writesOf h = [] ∨
    BaselineLate state device profile update policy session.transport)

omit [Crc32fast] in
theorem PartFails.failed {T : Type} {sect : Section T} {merge : T → Except ManagerError T} {written : History Backend}
    {update : ProfileUpdate} {e : ManagerError} {s : StateFile} {h : History Backend}
    (hf : PartFails state sect device profile policy session.transport merge written e s h)
    (hlate : written ≠ [] → Lacks state sect device profile policy session.transport ∨
      (∃ baseline, merge baseline = .error e) → BaselineLate state device profile update policy session.transport) :
    PartFailed state device profile update policy session e s h := by
  obtain ⟨rfl, ⟨⟨hwrites, hcommits⟩, hpart⟩ | ⟨hfailed, _, _, _, hwrites, hcommits⟩⟩ := hf
  · refine ⟨rfl, hcommits, fun he => ?_⟩
    by_cases hw : written = []
    · exact .inr (.inl (hwrites.trans hw))
    · rcases hpart he with hsession | hlacks
      · exact .inl hsession
      · exact .inr (.inr (hlate hw hlacks))
  · exact ⟨rfl, hcommits, fun _ => .inl hfailed⟩

omit [Crc32fast] in
theorem isSome_of_sent {T : Type} {event : T → SessionWrite T → Event Backend} {made : Option (T × SessionWrite T)}
    (h : partSent event made ≠ []) : made.isSome = true := by
  cases made with
  | none => exact absurd rfl h
  | some made => rfl

omit [Crc32fast] in
/-- **The record of what was written**: one transaction, whose own errors and mismatches are not those of a part. -/
theorem leads_record (hsaved : ∃ deviceState, state.devices[device]? = some deviceState) (writes : ProfileWrites)
    {written : History Backend} :
    Leads (S := Backend) Op.does (fun s h => s = state ∧ Untouched written h)
      (do
        let now ← Manager.now
        let outcome ← Manager.commit (.persistProfile device profile writes now)
        let dpi ← optionally outcome.dpi fun out => Fallible.ofExcept id (finishWrite out "DPI" profile)
        let preferences ← optionally outcome.preferences fun out =>
          Fallible.ofExcept id (finishWrite out "preferences" profile)
        let buttons ← optionally outcome.buttons fun out => Fallible.ofExcept id (finishWrite out "buttons" profile)
        return ({ dpi, preferences, buttons } : ProfileUpdateOutcome))
      (fun _ s h => RecordAsked state device profile writes written s h)
      fun e s h => RecordAsked state device profile writes written s h ∧ ¬ e.OfPart := by
  have hnow : Leads (S := Backend) Op.does (fun s h => s = state ∧ Untouched written h) Manager.now
      (fun _ s h => s = state ∧ Untouched written h)
      fun e s h => RecordAsked state device profile writes written s h ∧ ¬ e.OfPart :=
    .perform fun s h r s' hh hd => ⟨(show s' = s from hd).trans hh.1, Untouched.stable written _ _ _ rfl hh.2⟩
  refine .bind hnow fun now => ?_
  have hcommit : Leads (S := Backend) Op.does (fun s h => s = state ∧ Untouched written h)
      (Manager.commit (.persistProfile device profile writes now))
      (fun _ s h => RecordAsked state device profile writes written s h)
      fun e s h => RecordAsked state device profile writes written s h ∧ ¬ e.OfPart := by
    refine .perform fun s h r s' hh hd => ?_
    obtain ⟨rfl, hwrites, hcommits⟩ := hh
    have hd : Commits (.persistProfile device profile writes now) s r s' := hd
    have hasked : RecordAsked s device profile writes written s' (⟨Op.commit (.persistProfile device profile writes now), r⟩ :: h) := by
      refine ⟨now, hwrites, by rw [← hcommits]; rfl, ?_⟩
      rcases hd.cases with rfl | ⟨rfl, hv⟩
      · exact .inl rfl
      · exact .inr ⟨rfl, hv⟩
    obtain ⟨outcome, after, happly, -⟩ := persistParts_apply profile writes now hsaved
    have hanswer : (Txn.persistProfile device profile writes now).answer s = .ok outcome := congrArg Prod.fst happly
    cases hd with
    | unchanged _ | stored _ =>
      rw [hanswer]
      exact hasked
    | rejected _ | failed _ | unsynced _ _ => exact ⟨hasked, id⟩
  refine .bind hcommit fun outcome => ?_
  have hfinish : ∀ {T : Type} [DecidableEq T] (part : Option (WriteOutcome T)) (name : String),
      Leads (S := Backend) Op.does (RecordAsked state device profile writes written)
        (optionally part fun out => Fallible.ofExcept id (finishWrite out name profile))
        (fun _ s h => RecordAsked state device profile writes written s h)
        fun e s h => RecordAsked state device profile writes written s h ∧ ¬ e.OfPart := by
    intro T _ part name
    cases part with
    | none => exact .pure fun _ _ => id
    | some out =>
      refine .bind (Q := fun _ s h => RecordAsked state device profile writes written s h)
        (.ofExcept (fun _ _ _ _ => id) fun e he s h hh => ⟨hh, ?_⟩) fun _ => .pure fun _ _ => id
      unfold finishWrite at he
      split at he
      · cases he
        exact id
      · cases he
  exact .bind (hfinish outcome.dpi "DPI") fun _ => .bind (hfinish outcome.preferences "preferences") fun _ =>
    .bind (hfinish outcome.buttons "buttons") fun _ => .pure fun _ _ => id

/-- What the store has for a DPI part that was sent. -/
theorem dpi_ready {transport : TransportKind} {update : ProfileUpdate} {physicalId : Option PhysicalId}
    (hstore : policy.fromStore transport = some false) (hsent : ∀ delta ∈ update.dpi, ∃ baseline desired,
      OnRecord state .dpi device profile policy transport baseline ∧ stampedDpi delta physicalId baseline = .ok desired) :
    ∀ delta ∈ update.dpi, ∃ baseline desired,
      storedBaseline (state.resource .dpi device profile) false = some baseline ∧
        mergeDpiDelta baseline delta = .ok desired := by
  intro delta hdelta
  obtain ⟨baseline, desired, hrecord, hmerge⟩ := hsent delta hdelta
  unfold stampedDpi at hmerge
  cases hm : mergeDpiDelta baseline delta with
  | ok merged => exact ⟨baseline, merged, hrecord hstore, hm⟩
  | error e =>
    rw [hm] at hmerge
    cases hmerge

/-- **A composite update**: every part is written and recorded once, or one fails before anything is recorded. -/
theorem leads_applyParts (hsaved : ∃ deviceState, state.devices[device]? = some deviceState) (update : ProfileUpdate)
    (physicalId : Option PhysicalId) :
    Leads (S := Backend) Op.does (fun s h => s = state ∧ Untouched [] h)
      (applyParts device profile update policy provided physicalId session)
      (fun _ s h => AllWritten state device profile update policy session s h)
      fun e s h => PartFailed state device profile update policy session e s h ∨
        (AllWritten state device profile update policy session s h ∧ ¬ e.OfPart) := by
  refine .bind ((leads_optionally update.dpi (stampedDpi · physicalId)
    (fun desired write => Did.session session.endpoint (.writeDpi desired policy.verification) (.ok write))
    fun delta => leads_applyDpiPart state device profile policy provided session [] delta physicalId).mono
      (fun _ _ => id) (fun _ _ _ => id) ?_) fun dpi => .of_pure fun hdpi => ?_
  · rintro e s h ⟨delta, -, hf⟩
    exact .inl (hf.failed fun hne => absurd rfl hne)
  let dpiSent := partSent (fun desired write => Did.session session.endpoint (.writeDpi desired policy.verification) (.ok write)) dpi
  refine .bind ((leads_optionally update.preferences (fun delta baseline => .ok (mergePreferencesDelta baseline delta))
    (fun desired write => Did.session session.endpoint (.writePreferences desired policy.verification) (.ok write))
    fun delta => leads_applyPreferencesPart state device profile policy provided session (dpiSent ++ []) delta).mono
      (fun _ _ => id) (fun _ _ _ => id) ?_) fun preferences => .of_pure fun hpreferences => ?_
  · rintro e s h ⟨delta, hdelta, hf⟩
    refine .inl (hf.failed fun hne hlacks => ?_)
    rw [List.append_nil] at hne
    rcases hlacks with ⟨hstore, hnone⟩ | ⟨baseline, hmerge⟩
    · refine ⟨hstore, dpi_ready hstore hdpi.2, .inl ⟨?_, ?_, hnone⟩⟩
      · rw [← hdpi.1]
        exact isSome_of_sent hne
      · rw [Option.mem_def.1 hdelta]
        rfl
    · cases hmerge
  let preferencesSent := partSent (fun desired write => Did.session session.endpoint (.writePreferences desired policy.verification) (.ok write)) preferences
  refine .bind ((leads_optionally (if update.buttons.isEmpty then none else some update.buttons)
    (fun deltas baseline => .ok (deltas.foldl ButtonsState.assign baseline))
    (fun desired write => Did.session session.endpoint (.writeButtons desired policy.verification) (.ok write))
    fun deltas => leads_applyButtonsPart state device profile policy provided session (preferencesSent ++ (dpiSent ++ [])) deltas).mono
      (fun _ _ => id) (fun _ _ _ => id) ?_) fun buttons => .of_pure fun hbuttons => ?_
  · rintro e s h ⟨deltas, hdeltas, hf⟩
    refine .inl (hf.failed fun hne hlacks => ?_)
    rw [List.append_nil] at hne
    rcases hlacks with ⟨hstore, hnone⟩ | ⟨baseline, hmerge⟩
    · refine ⟨hstore, dpi_ready hstore hdpi.2, .inr ⟨?_, ?_, fun hsome => ?_, hnone⟩⟩
      · rw [← hdpi.1, ← hpreferences.1]
        by_cases hnone : preferencesSent = []
        · rw [hnone] at hne
          exact .inl (isSome_of_sent (show dpiSent ≠ [] from hne))
        · exact .inr (isSome_of_sent hnone)
      · rintro hempty
        simp [hempty] at hdeltas
      · obtain ⟨delta, hdelta⟩ := Option.isSome_iff_exists.1 hsome
        obtain ⟨baseline, desired, hrecord, -⟩ := hpreferences.2 delta hdelta
        rw [hrecord hstore]
        exact nofun
    · cases hmerge
  have hall : dpi.isSome = update.dpi.isSome ∧ preferences.isSome = update.preferences.isSome ∧
      buttons.isSome = !update.buttons.isEmpty := by
    refine ⟨hdpi.1, hpreferences.1, hbuttons.1.trans ?_⟩
    cases update.buttons <;> rfl
  refine (leads_record hsaved ⟨dpi, preferences, buttons⟩).mono (fun _ _ => id) ?_ ?_
  · intro outcome s h hh
    exact ⟨⟨dpi, preferences, buttons⟩, hall, hh⟩
  · intro e s h hh
    exact .inr ⟨⟨⟨dpi, preferences, buttons⟩, hall, hh.1⟩, hh.2⟩

end Whole
end AttackSharkX3
