import AttackSharkX3.Finalize
/-!
# Store — the transactions over the durable state

Every closure the manager runs under the state lock is one constructor of `Txn`, with what it captured, and `Txn.run` is
its body.  `Commits` says what a transaction may answer and leave: the changed state is checked and replaces the old one
as a whole, an error before that changes nothing, and an error of the final directory sync comes after the replacement.
-/
namespace AttackSharkX3

open Mutation (orError refuseIf)

/-! ## Evidence of writes -/

/-- What a session answers to a write. -/
inductive SessionWrite (T : Type) where
  | readbackVerified (value : T)
  | acknowledged
deriving DecidableEq

/-- One of the four sections of a profile. -/
structure Section (T : Type) where
  get : ProfileState → ResourceState T
  set : ProfileState → ResourceState T → ProfileState

def Section.dpi : Section DpiState := ⟨ProfileState.dpi, fun profile dpi => { profile with dpi }⟩
def Section.preferences : Section PreferencesState :=
  ⟨ProfileState.preferences, fun profile preferences => { profile with preferences }⟩
def Section.buttons : Section ButtonsState := ⟨ProfileState.buttons, fun profile buttons => { profile with buttons }⟩
def Section.pollingRate : Section PollingRate :=
  ⟨ProfileState.pollingRate, fun profile pollingRate => { profile with pollingRate }⟩

section Evidence

variable {T : Type} [DecidableEq T]

/-- The section's evidence after a write. -/
def recordWrite (resource : ResourceState T) (desired : T) (write : SessionWrite T) (now : Timestamp) :
    ResourceState T :=
  match write with
  | .readbackVerified readback => resource.recordReadbackWrite desired readback .userWrite now
  | .acknowledged => resource.recordAckWrite desired .userWrite now

/-- What the caller is told of a write. -/
def writeOutcome (desired : T) (write : SessionWrite T) : WriteOutcome T :=
  match write with
  | .readbackVerified readback =>
    ⟨desired, some readback, ⟨if desired = readback then .readbackVerified else .mismatch, .unknown⟩⟩
  | .acknowledged => ⟨desired, none, ⟨.acknowledged, .unknown⟩⟩

/-- **The record of a write**, on an existing device. -/
def persistWrite (sect : Section T) (device : DeviceId) (profile : ProfileId) (desired : T) (write : SessionWrite T)
    (now : Timestamp) : Mutation (WriteOutcome T) := do
  let state ← get
  let deviceState ← orError (.deviceNotFound device) state.devices[device]?
  let profileState := deviceState.profiles[profile]?.getD .empty
  let resource := recordWrite (sect.get profileState) desired write now
  let deviceState := { deviceState with profiles := deviceState.profiles.insert profile (sect.set profileState resource) }
  set { state with devices := state.devices.insert device deviceState }
  return writeOutcome desired write

/-- A write that was read back differently is an error, once it is recorded. -/
def finishWrite (outcome : WriteOutcome T) (resource : String) (profile : ProfileId) :
    Except ManagerError (WriteOutcome T) :=
  if outcome.verification.application = .mismatch then .error (.verificationMismatch resource (some profile))
  else .ok outcome

end Evidence

/-! ## Evidence of reads -/

/-- The persistence claims a matching re-read allows. -/
def ProfileState.claim (profile : ProfileState) : Option PersistenceVerification → ProfileState
  | some (.profileReloadVerified verifiedAt) => profile.tryMarkProfileReloadVerified verifiedAt
  | some (.powerCycleVerified verifiedAt) => profile.tryMarkPowerCycleVerified verifiedAt
  | some .unknown | none => profile

/-- **The record of a complete re-read**, with the persistence it proves. -/
def ProfileState.observe (profile : ProfileState) (snapshot : ProfileSnapshot) (pollingRate : PollingRate)
    (persistence : Option PersistenceVerification) (verifiedAt : Timestamp) : ProfileState :=
  ({ dpi := profile.dpi.reconcileObservation snapshot.dpi verifiedAt
     preferences := profile.preferences.reconcileObservation snapshot.preferences verifiedAt
     buttons := profile.buttons.reconcileObservation snapshot.buttons verifiedAt
     pollingRate := profile.pollingRate.reconcileObservation pollingRate verifiedAt } : ProfileState).claim persistence

/-- The sections of a profile that were read. -/
structure ProfileReads where
  dpi : Option DpiState := none
  preferences : Option PreferencesState := none
  buttons : Option ButtonsState := none
  pollingRate : Option PollingRate := none
deriving DecidableEq

/-- A section that was read, its fresh observation reconciled. -/
def ResourceState.reconcileRead {T : Type} [DecidableEq T] (resource : ResourceState T) (read : Option T)
    (now : Timestamp) : ResourceState T :=
  match read with
  | some value => resource.reconcileObservation value now
  | none => resource

/-- **The record of a read.** -/
def ProfileState.reconcile (profile : ProfileState) (reads : ProfileReads) (now : Timestamp) : ProfileState where
  dpi := profile.dpi.reconcileRead reads.dpi now
  preferences := profile.preferences.reconcileRead reads.preferences now
  buttons := profile.buttons.reconcileRead reads.buttons now
  pollingRate := profile.pollingRate.reconcileRead reads.pollingRate now

/-- A mouse of which profiles were read. -/
def DeviceState.reconcile (device : DeviceState) (metadata : Option ProfileMetadata)
    (profiles : List (ProfileId × ProfileReads)) (now : Timestamp) : DeviceState :=
  { device with
    profileMetadata := device.profileMetadata.reconcileRead metadata now
    profiles := profiles.foldl (fun stored read =>
      stored.insert read.1 ((stored[read.1]?.getD .empty).reconcile read.2 now)) device.profiles }

/-! ## Transactions -/

/-- What a composite update wrote: each part's image and the session's answer. -/
structure ProfileWrites where
  dpi : Option (DpiState × SessionWrite DpiState) := none
  preferences : Option (PreferencesState × SessionWrite PreferencesState) := none
  buttons : Option (ButtonsState × SessionWrite ButtonsState) := none
deriving DecidableEq

/-- **The transactions of the manager.** -/
inductive Txn where
  | ensureLegacyMouse (discovered : List DiscoveredEndpoint)
  | attachSilently (endpoint : DeviceEndpoint) (device : DeviceId) (now : Timestamp)
  | syncEndpointAssociations (rows : List ResolvedConnection) (selection : TransportSelection)
  | rememberResolution (endpoint : DeviceEndpoint) (device : DeviceId) (now : Timestamp)
  | beginCeremony (phase : IdentitySetupPhase)
  | pushSubject (phase : IdentitySetupPhase) (subject : IdentitySetupSubject) (allValid : Bool)
  | reserveToken (token : PhysicalId)
  | markStamped (profile : ProfileId)
  | finishStamping (phase : IdentitySetupPhase) (awaitSecond : Bool) (pendingLast : Option ProfileId)
  | finalizeMigration (skip : Bool)
  | associate (endpoint : DeviceEndpoint) (device : DeviceId)
  | cancelCeremony
  | persistDpi (device : DeviceId) (profile : ProfileId) (desired : DpiState) (write : SessionWrite DpiState)
      (now : Timestamp)
  | persistPreferences (device : DeviceId) (profile : ProfileId) (desired : PreferencesState)
      (write : SessionWrite PreferencesState) (now : Timestamp)
  | persistButtons (device : DeviceId) (profile : ProfileId) (desired : ButtonsState) (write : SessionWrite ButtonsState)
      (now : Timestamp)
  | persistPollingRate (device : DeviceId) (profile : ProfileId) (desired : PollingRate)
      (write : SessionWrite PollingRate) (now : Timestamp)
  | persistProfile (device : DeviceId) (profile : ProfileId) (writes : ProfileWrites) (now : Timestamp)
  | persistObservation (device : DeviceId) (target : ProfileId) (snapshot : ProfileSnapshot) (pollingRate : PollingRate)
      (persistence : Option PersistenceVerification) (verifiedAt : Timestamp)
  | persistMetadata (device : DeviceId) (target : ProfileMetadata) (observed : Option ProfileMetadata) (now : Timestamp)
  | reconcile (device : DeviceId) (metadata : Option ProfileMetadata) (profiles : List (ProfileId × ProfileReads))
      (now : Timestamp)
  | updateLocator (device : DeviceId) (endpoint : DeviceEndpoint)
deriving DecidableEq

/-- The transactions of ordinary calls. -/
def Txn.isOrdinary : Txn → Bool
  | .ensureLegacyMouse _ | .attachSilently .. | .syncEndpointAssociations .. | .rememberResolution .. | .persistDpi ..
  | .persistPreferences .. | .persistButtons .. | .persistPollingRate .. | .persistProfile .. | .persistObservation ..
  | .persistMetadata .. | .reconcile .. | .updateLocator .. => true
  | .beginCeremony _ | .pushSubject .. | .reserveToken _ | .markStamped _ | .finishStamping .. | .finalizeMigration _
  | .associate .. | .cancelCeremony => false

namespace Txn

/-- What the closure answers. -/
def Out : Txn → Type
  | associate .. => IdentityCeremonyProgress
  | persistDpi .. => WriteOutcome DpiState
  | persistPreferences .. => WriteOutcome PreferencesState
  | persistButtons .. => WriteOutcome ButtonsState
  | persistPollingRate .. => WriteOutcome PollingRate
  | persistProfile .. => ProfileUpdateOutcome
  | reconcile .. => DeviceState
  | _ => Unit

/-- The state with its journal replaced. -/
def setJournal (state : StateFile) (journal : IdentitySetupJournal) : StateFile :=
  { state with identitySetup := some journal }

/-- The journal, and its last subject changed by `f`. -/
def updateLastSubject (f : IdentitySetupSubject → IdentitySetupSubject) : Mutation IdentitySetupJournal := do
  let state ← get
  let current ← orError .noIdentityCeremony state.identitySetup
  let subject ← orError (.invalidCeremonyAction .stamp current.phase current.stage) current.subjects.getLast?
  let journal := { current with subjects := current.subjects.dropLast ++ [f subject] }
  set (setJournal state journal)
  return journal

def changeLastSubject (f : IdentitySetupSubject → IdentitySetupSubject) : Mutation Unit := do
  let _ ← updateLastSubject f

/-- A captured subject journalled; one that needs no stamp finishes its ceremony. -/
def journalSubject (phase : IdentitySetupPhase) (subject : IdentitySetupSubject) (allValid : Bool) : Mutation Unit := do
  let state ← get
  let current ← orError .noIdentityCeremony state.identitySetup
  refuseIf (current.phase ≠ phase ∨ current.stage ≠ .awaitingCapture)
    (.invalidCeremonyAction .reconnected current.phase current.stage)
  let subjects := current.subjects ++ [subject]
  if allValid then
    set (setJournal state { current with subjects, stage := .finalizing })
    finalizeCeremony false
  else set (setJournal state { current with subjects, stage := .stamping })

/-- The last stamp marked and the ceremony moved on: to the second mouse, to the migration decision, or to its end. -/
def advance (phase : IdentitySetupPhase) (awaitSecond : Bool) (pendingLast : Option ProfileId) : Mutation Unit := do
  let current ← updateLastSubject fun subject => pendingLast.elim subject subject.mark
  if awaitSecond then modify (setJournal · { current with stage := .awaitingCapture })
  else
    modify (setJournal · { current with stage := .finalizing })
    if phase ≠ .initialEnrollment then finalizeCeremony false

/-- The first other mouse that has the endpoint. -/
def endpointOwner (state : StateFile) (endpoint : DeviceEndpoint) (device : DeviceId) : Option (DeviceId × DeviceState) :=
  state.devices.toList.find? fun (otherId, other) =>
    otherId ≠ device ∧ other.identity.endpoints.values.any (·.locator = endpoint.locator)

/-- A BLE association, whole. -/
def associateEndpoint (endpoint : DeviceEndpoint) (device : DeviceId) : Mutation IdentityCeremonyProgress := do
  let state ← get
  let current ← orError .noIdentityCeremony state.identitySetup
  refuseIf (current.phase ≠ .bleAssociation ∨ current.stage ≠ .awaitingCapture ∨ current.subjects ≠ [])
    (.invalidCeremonyAction .associate current.phase current.stage)
  match endpointOwner state endpoint device with
  | some (otherId, _) => throw (.identityCeremonyRefused .bleAssociation "endpoint-taken"
      s!"BLE endpoint already belongs to {otherId}")
  | none =>
    let subjects := current.subjects ++ [⟨endpoint, some device, none, none, none, ∅⟩]
    set (setJournal state { current with subjects, stage := .finalizing })
    finalizeCeremony false
    return ⟨.bleAssociation, .complete, some 1, some 1, some device, none, some endpoint⟩

/-- A device's endpoints after a scan. -/
def syncDevice (rows : List ResolvedConnection) (selection : TransportSelection) (id : DeviceId) (device : DeviceState) :
    DeviceState :=
  let seen := rowsOf rows id
  if seen.isEmpty then device
  else { device with identity := { device.identity with
    endpoints := syncedEndpoints device.identity.endpoints selection.scanTransports seen } }

/-- An endpoint put under an existing mouse and remembered for it. -/
def attach (state : StateFile) (device : DeviceId) (deviceState : DeviceState) (endpoint : DeviceEndpoint)
    (now : Timestamp) : StateFile :=
  let deviceState := { deviceState with identity := deviceState.identity.upsertEndpoint endpoint }
  rememberEndpointMapping { state with devices := state.devices.insert device deviceState } endpoint device now

/-- Each part of a composite update recorded in turn. -/
def persistParts (device : DeviceId) (profile : ProfileId) (writes : ProfileWrites) (now : Timestamp) :
    Mutation ProfileUpdateOutcome := do
  let dpi ← writes.dpi.mapM fun (desired, write) => persistWrite .dpi device profile desired write now
  let preferences ← writes.preferences.mapM fun (desired, write) =>
    persistWrite .preferences device profile desired write now
  let buttons ← writes.buttons.mapM fun (desired, write) =>
    persistWrite .buttons device desired.profile desired write now
  return { dpi, preferences, buttons }

/-- A complete re-read of one profile recorded. -/
def observeProfile (device : DeviceId) (target : ProfileId) (snapshot : ProfileSnapshot) (pollingRate : PollingRate)
    (persistence : Option PersistenceVerification) (verifiedAt : Timestamp) : Mutation Unit := do
  let state ← get
  let deviceState ← orError (.deviceNotFound device) state.devices[device]?
  let profileState := (deviceState.profiles[target]?.getD .empty).observe snapshot pollingRate persistence verifiedAt
  set { state with devices := state.devices.insert device { deviceState with
    profiles := deviceState.profiles.insert target profileState } }

/-- The profile numbers a mouse was given, and what it answered. -/
def writeMetadata (device : DeviceId) (target : ProfileMetadata) (observed : Option ProfileMetadata) (now : Timestamp) :
    Mutation Unit := do
  let state ← get
  let deviceState ← orError (.deviceNotFound device) state.devices[device]?
  let resource := match observed with
    | some observed => deviceState.profileMetadata.recordReadbackWrite target observed .userWrite now
    | none => deviceState.profileMetadata.recordAckWrite target .userWrite now
  set { state with devices := state.devices.insert device { deviceState with profileMetadata := resource } }

/-- Fresh observations of a mouse, and its record with them. -/
def reconcileReads (device : DeviceId) (metadata : Option ProfileMetadata) (profiles : List (ProfileId × ProfileReads))
    (now : Timestamp) : Mutation DeviceState := do
  let state ← get
  let deviceState ← orError (.deviceNotFound device) state.devices[device]?
  let deviceState := deviceState.reconcile metadata profiles now
  set { state with devices := state.devices.insert device deviceState }
  return deviceState

/-- The place a mouse came back at. -/
def relocate (device : DeviceId) (endpoint : DeviceEndpoint) : Mutation Unit := do
  let state ← get
  let deviceState ← orError (.deviceNotFound device) state.devices[device]?
  set { state with devices := state.devices.insert device { deviceState with
    identity := deviceState.identity.upsertEndpoint endpoint } }

/-- **The body of each transaction.** -/
def run : (t : Txn) → Mutation t.Out
  | ensureLegacyMouse discovered => do
    let state ← get
    if state.devices.isEmpty then
      let newId ← Mutation.lift StateFile.allocateDeviceId
      let displayName := discovered.head?.bind (·.endpoint.displayName)
      let identity := discovered.foldl (fun identity disc => identity.upsertEndpoint disc.endpoint)
        (DeviceIdentity.new newId displayName)
      modify fun state => { state with devices := state.devices.insert newId (.new identity) }
  | attachSilently endpoint device now => do
    let state ← get
    match state.devices[device]? with
    | none => return ()
    | some deviceState => set (attach state device deviceState endpoint now)
  | syncEndpointAssociations rows selection =>
    modify fun state => { state with devices := state.devices.map (syncDevice rows selection) }
  | rememberResolution endpoint device now => do
    let state ← get
    let deviceState ← orError (.deviceNotFound device) state.devices[device]?
    set (attach state device deviceState endpoint now)
  | beginCeremony phase => modify (setJournal · ⟨phase, .awaitingCapture, []⟩)
  | pushSubject phase subject allValid => journalSubject phase subject allValid
  | reserveToken token => changeLastSubject ({ · with token := some token })
  | markStamped profile => changeLastSubject (·.mark profile)
  | finishStamping phase awaitSecond pendingLast => advance phase awaitSecond pendingLast
  | finalizeMigration skip => finalizeCeremony skip
  | associate endpoint device => associateEndpoint endpoint device
  | cancelCeremony => modify fun state => { state with identitySetup := none }
  | persistDpi device profile desired write now => persistWrite .dpi device profile desired write now
  | persistPreferences device profile desired write now => persistWrite .preferences device profile desired write now
  | persistButtons device profile desired write now => persistWrite .buttons device profile desired write now
  | persistPollingRate device profile desired write now => persistWrite .pollingRate device profile desired write now
  | persistProfile device profile writes now => persistParts device profile writes now
  | persistObservation device target snapshot pollingRate persistence verifiedAt =>
    observeProfile device target snapshot pollingRate persistence verifiedAt
  | persistMetadata device target observed now => writeMetadata device target observed now
  | reconcile device metadata profiles now => reconcileReads device metadata profiles now
  | updateLocator device endpoint => relocate device endpoint

/-- What the closure answers in a state. -/
def answer (t : Txn) (state : StateFile) : Except ManagerError t.Out := (t.run.apply state).1

/-- What the closure leaves of a state. -/
def after (t : Txn) (state : StateFile) : StateFile := (t.run.apply state).2

end Txn

/-- **What a transaction may answer, and the state it leaves.** -/
inductive Commits (t : Txn) (state : StateFile) : Except StateError (Except ManagerError t.Out) → StateFile → Prop where
  | unchanged (same : t.after state = state) : Commits t state (.ok (t.answer state)) state
  | stored (valid : (t.after state).validate = .ok ()) : Commits t state (.ok (t.answer state)) (t.after state)
  | rejected {e} (invalid : (t.after state).validate = .error e) : Commits t state (.error e) state
  /-- The lock was busy, or reading or writing failed before the replacement. -/
  | failed (e : StateError) : Commits t state (.error e) state
  /-- The replacement happened, and syncing its directory failed. -/
  | unsynced (e : StateError) (valid : (t.after state).validate = .ok ()) : Commits t state (.error e) (t.after state)

/-- The transaction on a store that never fails. -/
def commitReliably (t : Txn) (state : StateFile) : Except StateError (Except ManagerError t.Out) × StateFile :=
  if t.after state = state then (.ok (t.answer state), state)
  else match (t.after state).validate with
    | .ok () => (.ok (t.answer state), t.after state)
    | .error e => (.error e, state)

theorem commits_reliably (t : Txn) (state : StateFile) :
    Commits t state (commitReliably t state).1 (commitReliably t state).2 := by
  unfold commitReliably
  split
  · next h => exact .unchanged h
  · split
    · next h => exact .stored h
    · next h => exact .rejected h

/-- A transaction that leaves a valid state is stored. -/
theorem commitReliably_valid {t : Txn} {state : StateFile} (h : (t.after state).validate = .ok ()) :
    commitReliably t state = (.ok (t.answer state), t.after state) := by
  unfold commitReliably
  split
  · next hsame => rw [hsame]
  · rw [h]

/-- A transaction that was answered left what its closure leaves. -/
theorem of_commitReliably {t : Txn} {state : StateFile} {answer : Except ManagerError t.Out}
    (h : (commitReliably t state).1 = .ok answer) : (commitReliably t state).2 = t.after state ∧
      answer = t.answer state ∧ (t.after state = state ∨ (t.after state).validate = .ok ()) := by
  unfold commitReliably at *
  split
  · next hsame =>
    rw [if_pos hsame] at h
    cases h
    exact ⟨hsame.symm, rfl, .inl hsame⟩
  · next hsame =>
    rw [if_neg hsame] at h
    split at h
    · next hvalid =>
      cases h
      exact ⟨rfl, rfl, .inr hvalid⟩
    · cases h

/-- **A transaction leaves the state as it was, or as its closure left it and checked.** -/
theorem Commits.cases {t : Txn} {state state' : StateFile} {r} (h : Commits t state r state') :
    state' = state ∨ (state' = t.after state ∧ (t.after state).validate = .ok ()) := by
  cases h with
  | unchanged _ | rejected _ | failed _ => exact .inl rfl
  | stored valid | unsynced _ valid => exact .inr ⟨rfl, valid⟩

theorem Commits.valid {t : Txn} {state state' : StateFile} {r} (h : Commits t state r state')
    (hv : state.validate = .ok ()) : state'.validate = .ok () := by
  rcases h.cases with rfl | ⟨rfl, hv'⟩
  · exact hv
  · exact hv'

end AttackSharkX3
