import AttackSharkX3.Resolve
/-!
# Finalize — a finished ceremony applied to the durable state

A store closure may change the state and still answer an error, so a mutation answers a result and a state in both
cases.  `finalizeCeremony` creates or rotates the mice of a ceremony and clears its journal.
-/
namespace AttackSharkX3

/-- **A closure over the state**: what it changed stays changed when it fails. -/
abbrev Mutation (α : Type) : Type := ExceptT ManagerError (StateM StateFile) α

namespace Mutation

/-- The answer of the closure and the state it leaves. -/
def apply {α : Type} (m : Mutation α) (state : StateFile) : Except ManagerError α × StateFile := m.run.run state

/-- `ok_or`. -/
def orError {α : Type} (e : ManagerError) : Option α → Mutation α
  | some a => pure a
  | none => throw e

def refuseIf (c : Prop) [Decidable c] (e : ManagerError) : Mutation Unit := if c then throw e else pure ()

/-- A step of the state with an error of its own. -/
def lift {α : Type} (f : StateFile → Except StateError α × StateFile) : Mutation α :=
  ExceptT.mk fun state => ((f state).1.mapError .state, (f state).2)

section Apply

variable {α β : Type} (state : StateFile)

@[simp] theorem apply_pure (a : α) : (pure a : Mutation α).apply state = (.ok a, state) := rfl
@[simp] theorem apply_throw (e : ManagerError) : (throw e : Mutation α).apply state = (.error e, state) := rfl
@[simp] theorem apply_get : (get : Mutation StateFile).apply state = (.ok state, state) := rfl
@[simp] theorem apply_set (state' : StateFile) : (set state' : Mutation PUnit).apply state = (.ok ⟨⟩, state') := rfl
@[simp] theorem apply_modify (f : StateFile → StateFile) :
    (modify f : Mutation PUnit).apply state = (.ok ⟨⟩, f state) := rfl
@[simp] theorem apply_lift (f : StateFile → Except StateError α × StateFile) :
    (lift f).apply state = ((f state).1.mapError .state, (f state).2) := rfl
@[simp] theorem apply_orError_some (e : ManagerError) (a : α) : (orError e (some a)).apply state = (.ok a, state) := rfl
@[simp] theorem apply_orError_none (e : ManagerError) :
    (orError e (none : Option α)).apply state = (.error e, state) := rfl

theorem apply_bind (m : Mutation α) (f : α → Mutation β) : (m >>= f).apply state =
    match m.apply state with
    | (.ok a, state') => (f a).apply state'
    | (.error e, state') => (.error e, state') := by
  show (ExceptT.bindCont f (m.apply state).1) (m.apply state).2 = _
  cases m.apply state with
  | mk r state' => cases r <;> rfl

@[simp] theorem apply_map (f : α → β) (m : Mutation α) :
    (f <$> m).apply state = ((m.apply state).1.map f, (m.apply state).2) := by
  rw [← bind_pure_comp, apply_bind]
  rcases m.apply state with ⟨r, state'⟩
  cases r <;> rfl

end Apply

end Mutation

open Mutation (orError refuseIf)

def journalBlocksDevice (journal : IdentitySetupJournal) (device : DeviceId) : Bool :=
  journal.phase = .initialEnrollment || journal.subjects.any (·.deviceId = some device)

/-- The phase a ceremony kind is journalled as. -/
def IdentityCeremonyKind.phase : IdentityCeremonyKind → IdentitySetupPhase
  | initialEnrollment => .initialEnrollment
  | addMouse => .addMouse
  | restore => .restore
  | foreignAdoption => .foreignAdoption
  | bleAssociation => .bleAssociation

def IdentitySetupPhase.kind : IdentitySetupPhase → IdentityCeremonyKind
  | initialEnrollment => .initialEnrollment
  | addMouse => .addMouse
  | restore => .restore
  | foreignAdoption => .foreignAdoption
  | bleAssociation => .bleAssociation

/-- **A journal as a frontend sees it.** -/
def ceremonyProgressFromJournal (journal : IdentitySetupJournal) : IdentityCeremonyProgress :=
  let subject := journal.subjects.getLast?
  { kind := journal.phase.kind
    stage := match journal.stage with
      | .awaitingCapture => .awaitingReconnect
      | .stamping => .stamping
      | .finalizing => .complete
    step := match journal.phase, journal.stage with
      | .initialEnrollment, .awaitingCapture => some (if journal.subjects.isEmpty then 1 else 2)
      | .initialEnrollment, .stamping => some (max journal.subjects.length 1 % 256)
      | .initialEnrollment, .finalizing => some 2
      | _, _ => some 1
    totalSteps := if journal.phase = .initialEnrollment then some 2 else some 1
    identity := subject.bind (·.deviceId)
    physicalId := subject.bind fun s => s.token.or s.oldToken
    endpoint := subject.map (·.endpoint) }

/-- The old mouse is the captured one when their whole evidence agrees. -/
def legacyCaptureMatches (legacy : DeviceState) (captured : CapturedProfileImage) : Bool :=
  legacy.profileMetadata = captured.profileMetadata && legacy.profiles = captured.profiles

def applyCapturedImage (device : DeviceState) (captured : Option CapturedProfileImage) : DeviceState :=
  match captured with
  | some captured => { device with profileMetadata := captured.profileMetadata, profiles := captured.profiles }
  | none => device

/-- A new mouse made of a subject. -/
def enrolledDevice (id : DeviceId) (displayName : Option String) (subject : IdentitySetupSubject)
    (token : Option PhysicalId) : DeviceState :=
  let identity := { DeviceIdentity.new id displayName with physicalId := token }
  applyCapturedImage (.new (identity.upsertEndpoint subject.endpoint)) subject.captured

/-- A key for each of the first `n` subjects. -/
def allocateDeviceIds : Nat → Mutation (List DeviceId)
  | 0 => pure []
  | n + 1 => do
    let id ← Mutation.lift StateFile.allocateDeviceId
    return id :: (← allocateDeviceIds n)

/-- The subject the legacy name goes to: the only one that matches the legacy mouse. -/
def uniqueMatch (legacy : Option DeviceState) (journal : IdentitySetupJournal) (skipMigration : Bool) : Option Nat :=
  if skipMigration then none
  else legacy.bind fun legacy =>
    match (journal.subjects.zipIdx.filter fun (subject, _) => subject.captured.any (legacyCaptureMatches legacy)).map
        (·.2) with
    | [index] => some index
    | _ => none

/-- The devices of a finished enrollment. -/
def enrolledDevices (legacy : Option DeviceState) (matched : Option Nat) (subjects : List IdentitySetupSubject)
    (ids : List DeviceId) : BTreeMap DeviceId DeviceState :=
  ((subjects.zipIdx.zip ids).foldl (fun devices entry =>
    let displayName := if matched = some entry.1.2 then legacy.bind (·.identity.displayName)
      else some s!"Mouse {entry.1.2 + 1}"
    devices.insert entry.2 (enrolledDevice entry.2 displayName entry.1.1 entry.1.1.token)) ∅)

/-- **First-time setup, finished**: the legacy mouse gives way to the captured ones, and mice are told apart. -/
def finalizeInitialEnrollment (journal : IdentitySetupJournal) (skipMigration : Bool) : Mutation Unit := do
  let state ← get
  let legacy := state.devices.values.head?
  let matched := uniqueMatch legacy journal skipMigration
  let ids ← allocateDeviceIds journal.subjects.length
  modify fun state => { state with
    devices := enrolledDevices legacy matched journal.subjects ids
    identityMode := .persistent
    selectedDevice := ids.head? }

/-- A mouse whose token is rotated to the subject's, seen only where the subject is. -/
def restoredDevice (device : DeviceState) (subject : IdentitySetupSubject) (token : PhysicalId) : DeviceState :=
  let identity := { device.identity with
    physicalId := some token
    preferredTransport := none
    endpoints := (∅ : BTreeMap TransportKind DeviceEndpoint).insert subject.endpoint.transport subject.endpoint }
  applyCapturedImage { device with identity } subject.captured

/-- The subject a single-mouse ceremony is about. -/
def onlySubject (journal : IdentitySetupJournal) : Mutation IdentitySetupSubject :=
  orError (.identityCeremonyRefused journal.phase "no-subject" "finalizing requires a captured subject")
    journal.subjects.head?

/-- A new mouse under the subject's token. -/
def finalizeNewMouse (journal : IdentitySetupJournal) : Mutation Unit := do
  let subject ← onlySubject journal
  let token ← orError (.identityCeremonyRefused journal.phase "no-token" "finalizing requires a reserved token")
    subject.token
  let id ← Mutation.lift StateFile.allocateDeviceId
  modify fun state => { state with devices := state.devices.insert id (enrolledDevice id none subject (some token)) }

/-- The bound mouse's token rotated to the subject's. -/
def finalizeRestore (journal : IdentitySetupJournal) : Mutation Unit := do
  let state ← get
  let subject ← onlySubject journal
  let deviceId ← orError (.identityCeremonyRefused journal.phase "requires-target"
    "restore finalization requires the bound logical mouse") subject.deviceId
  let token ← orError (.identityCeremonyRefused journal.phase "no-token"
    "restore finalization requires the rotated-in token") subject.token
  let device ← orError (.deviceNotFound deviceId) state.devices[deviceId]?
  modify fun state => { state with devices := state.devices.insert deviceId (restoredDevice device subject token) }

/-- The subject's endpoint put under the bound mouse. -/
def finalizeAssociation (journal : IdentitySetupJournal) : Mutation Unit := do
  let state ← get
  let subject ← onlySubject journal
  let deviceId ← orError (.identityCeremonyRefused journal.phase "requires-target"
    "BLE association finalization requires the bound logical mouse") subject.deviceId
  let device ← orError (.deviceNotFound deviceId) state.devices[deviceId]?
  let associated := { device with identity := device.identity.upsertEndpoint subject.endpoint }
  modify fun state => { state with devices := state.devices.insert deviceId associated }

/-- What each kind of ceremony does to the mice. -/
def finalizePhase (journal : IdentitySetupJournal) (skipMigration : Bool) : Mutation Unit :=
  match journal.phase with
  | .initialEnrollment => finalizeInitialEnrollment journal skipMigration
  | .addMouse | .foreignAdoption => finalizeNewMouse journal
  | .restore => finalizeRestore journal
  | .bleAssociation => finalizeAssociation journal

/-- **A finished ceremony, applied**, and its journal cleared. -/
def finalizeCeremony (skipMigration : Bool) : Mutation Unit := do
  let state ← get
  let journal ← orError .noIdentityCeremony state.identitySetup
  finalizePhase journal skipMigration
  modify fun state => { state with identitySetup := none }

end AttackSharkX3
