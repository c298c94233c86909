import AttackSharkX3.Store
/-!
# Journal — what a transaction does to the running ceremony

`JournalStep` lists everything a transaction can do to the journal, with the guards it passed.  A transaction that
finalizes runs `finalizeCeremony` on the journal as it leaves it, and the journal is gone only if that succeeded.
-/
namespace AttackSharkX3

open Mutation (orError refuseIf apply_bind apply_get apply_set apply_orError_some apply_pure apply_throw)

/-! ## Closures that leave the journal alone -/

/-- The closure never changes what `f` reads of the state, whatever it answers. -/
def Retains {α β : Type} (f : StateFile → β) (m : Mutation α) : Prop := ∀ state, f (m.apply state).2 = f state

namespace Retains

variable {α β γ : Type} {f : StateFile → γ}

theorem of_pure {a : α} : Retains f (pure a) := fun _ => rfl
theorem of_throw {e : ManagerError} : Retains f (throw e : Mutation α) := fun _ => rfl
theorem of_get : Retains f (get : Mutation StateFile) := fun _ => rfl
theorem of_orError {e : ManagerError} {x : Option α} : Retains f (orError e x) := by
  cases x <;> exact fun _ => rfl
theorem of_modify {g : StateFile → StateFile} (h : ∀ state, f (g state) = f state) :
    Retains f (modify g : Mutation PUnit) := h

theorem bind {m : Mutation α} {g : α → Mutation β} (hm : Retains f m) (hg : ∀ a, Retains f (g a)) :
    Retains f (m >>= g) := by
  intro state
  have hs := hm state
  rw [apply_bind]
  split
  · next a state' heq => rw [hg a state', ← hs, heq]
  · next e state' heq => rw [← hs, heq]

theorem ite {c : Prop} [Decidable c] {m m' : Mutation α} (hm : Retains f m) (hm' : Retains f m') :
    Retains f (if c then m else m') := by
  split
  · exact hm
  · exact hm'

theorem mapM {g : α → Mutation β} (hg : ∀ a, Retains f (g a)) : ∀ x : Option α, Retains f (x.mapM g)
  | none => of_pure
  | some a => bind (hg a) fun _ => of_pure

end Retains

/-- The loop of `allocateDeviceId` counts on, and changes nothing else. -/
theorem allocateFrom_state : ∀ (fuel : Nat) (state : StateFile),
    ∃ n, (StateFile.allocateFrom fuel state).2 = { state with nextDeviceNumber := n }
  | 0, state => ⟨state.nextDeviceNumber, rfl⟩
  | fuel + 1, state => by
    unfold StateFile.allocateFrom
    split
    · exact ⟨state.nextDeviceNumber, rfl⟩
    · dsimp only
      split
      · exact ⟨state.nextDeviceNumber, rfl⟩
      · split
        · obtain ⟨n, hn⟩ := allocateFrom_state fuel { state with nextDeviceNumber := state.nextDeviceNumber + 1 }
          exact ⟨n, hn⟩
        · exact ⟨state.nextDeviceNumber + 1, rfl⟩

theorem foldl_upsertEndpoint_physicalId : ∀ (discovered : List DiscoveredEndpoint) (identity : DeviceIdentity),
    (discovered.foldl (fun identity disc => identity.upsertEndpoint disc.endpoint) identity).physicalId =
      identity.physicalId
  | [], _ => rfl
  | _ :: rest, _ => foldl_upsertEndpoint_physicalId rest _

/-- **What ordinary transactions do not change**: nothing an attachment, evidence, a new locator, a scan's endpoints, a new
key or a first mouse without a token changes. -/
structure OrdinarilyKept {γ : Type} (f : StateFile → γ) : Prop where
  attached : ∀ (state : StateFile) device mouse endpoint now, state.devices[device]? = some mouse →
    f (Txn.attach state device mouse endpoint now) = f state
  evidence : ∀ (state : StateFile) device mouse profileMetadata profiles, state.devices[device]? = some mouse →
    f { state with devices := state.devices.insert device { mouse with profileMetadata, profiles } } = f state
  relocated : ∀ (state : StateFile) device mouse endpoint, state.devices[device]? = some mouse →
    f { state with devices := state.devices.insert device { mouse with identity := mouse.identity.upsertEndpoint endpoint } } =
      f state
  synced : ∀ (state : StateFile) rows selection,
    f { state with devices := state.devices.map (Txn.syncDevice rows selection) } = f state
  allocated : ∀ (state : StateFile) n, f { state with nextDeviceNumber := n } = f state
  made : ∀ (state : StateFile) id identity, state.devices.isEmpty = true → identity.physicalId = none →
    f { state with devices := state.devices.insert id (.new identity) } = f state

namespace Retains

variable {γ : Type} {f : StateFile → γ}

theorem persistWrite (hf : OrdinarilyKept f) {T : Type} [DecidableEq T] {sect : Section T} {device profile desired write now} :
    Retains f (AttackSharkX3.persistWrite sect device profile desired write now) := by
  intro state
  cases h : state.devices[device]? with
  | none => simp [AttackSharkX3.persistWrite, apply_bind, h]
  | some mouse =>
    simp only [AttackSharkX3.persistWrite, apply_bind, apply_get, h, apply_orError_some, apply_set]
    exact hf.evidence state device mouse _ _ h

theorem attached (hf : OrdinarilyKept f) {endpoint device now} : Retains f (do
    let state ← get
    let deviceState ← orError (.deviceNotFound device) state.devices[device]?
    set (Txn.attach state device deviceState endpoint now) : Mutation Unit) := by
  intro state
  cases h : state.devices[device]? with
  | none => simp [apply_bind, h]
  | some mouse =>
    simp only [apply_bind, apply_get, h, apply_orError_some, apply_set]
    exact hf.attached state device mouse endpoint now h

theorem attachedSilently (hf : OrdinarilyKept f) {endpoint device now} : Retains f (do
    let state ← get
    match state.devices[device]? with
    | none => return ()
    | some deviceState => set (Txn.attach state device deviceState endpoint now) : Mutation Unit) := by
  intro state
  cases h : state.devices[device]? with
  | none => simp [apply_bind, h]
  | some mouse =>
    simp only [apply_bind, apply_get, h, apply_set]
    exact hf.attached state device mouse endpoint now h

theorem observed (hf : OrdinarilyKept f) {device : DeviceId} {target : ProfileId} {snapshot : ProfileSnapshot}
    {pollingRate : PollingRate} {persistence : Option PersistenceVerification} {verifiedAt : Timestamp} :
    Retains f (Txn.observeProfile device target snapshot pollingRate persistence verifiedAt) := by
  intro state
  cases h : state.devices[device]? with
  | none => simp [Txn.observeProfile, apply_bind, h]
  | some mouse =>
    simp only [Txn.observeProfile, apply_bind, apply_get, h, apply_orError_some, apply_set]
    exact hf.evidence state device mouse _ _ h

theorem metadataWritten (hf : OrdinarilyKept f) {device : DeviceId} {target : ProfileMetadata}
    {observed : Option ProfileMetadata} {now : Timestamp} : Retains f (Txn.writeMetadata device target observed now) := by
  intro state
  cases h : state.devices[device]? with
  | none => simp [Txn.writeMetadata, apply_bind, h]
  | some mouse =>
    simp only [Txn.writeMetadata, apply_bind, apply_get, h, apply_orError_some, apply_set]
    exact hf.evidence state device mouse _ _ h

theorem reconciled (hf : OrdinarilyKept f) {device : DeviceId} {metadata : Option ProfileMetadata}
    {profiles : List (ProfileId × ProfileReads)} {now : Timestamp} :
    Retains f (Txn.reconcileReads device metadata profiles now) := by
  intro state
  cases h : state.devices[device]? with
  | none => simp [Txn.reconcileReads, apply_bind, h]
  | some mouse =>
    simp only [Txn.reconcileReads, apply_bind, apply_get, h, apply_orError_some, apply_set, apply_pure]
    exact hf.evidence state device mouse _ _ h

theorem relocated (hf : OrdinarilyKept f) {device : DeviceId} {endpoint : DeviceEndpoint} :
    Retains f (Txn.relocate device endpoint) := by
  intro state
  cases h : state.devices[device]? with
  | none => simp [Txn.relocate, apply_bind, h]
  | some mouse =>
    simp only [Txn.relocate, apply_bind, apply_get, h, apply_orError_some, apply_set]
    exact hf.relocated state device mouse endpoint h

theorem ensuredLegacyMouse (hf : OrdinarilyKept f) {discovered : List DiscoveredEndpoint} {displayName : Option String} :
    Retains f (do
    let state ← get
    if state.devices.isEmpty then
      let newId ← Mutation.lift StateFile.allocateDeviceId
      let identity := discovered.foldl (fun identity disc => identity.upsertEndpoint disc.endpoint)
        (DeviceIdentity.new newId displayName)
      modify fun state => { state with devices := state.devices.insert newId (.new identity) } : Mutation Unit) := by
  intro state
  by_cases hempty : state.devices.isEmpty = true
  · obtain ⟨n, hstate⟩ := allocateFrom_state (state.devices.size + 1) state
    simp only [apply_bind, apply_get, if_pos hempty, Mutation.apply_lift, StateFile.allocateDeviceId]
    rcases hr : StateFile.allocateFrom (state.devices.size + 1) state with ⟨r, state'⟩
    rw [hr] at hstate
    cases hstate
    rcases r with e | id
    · exact hf.allocated state n
    · exact (hf.made { state with nextDeviceNumber := n } id _ hempty (foldl_upsertEndpoint_physicalId ..)).trans
        (hf.allocated state n)
  · simp only [apply_bind, apply_get, if_neg hempty]
    rfl

/-- **What ordinary transactions do not change, they retain**, whatever they answer. -/
theorem ordinary (hf : OrdinarilyKept f) {t : Txn} (ht : t.isOrdinary = true) : Retains f t.run := by
  cases t with
  | ensureLegacyMouse discovered => exact ensuredLegacyMouse hf
  | attachSilently endpoint device now => exact attachedSilently hf
  | syncEndpointAssociations rows selection => exact of_modify fun state => hf.synced state rows selection
  | rememberResolution endpoint device now => exact attached hf
  | persistDpi device profile desired write now => exact persistWrite hf
  | persistPreferences device profile desired write now => exact persistWrite hf
  | persistButtons device profile desired write now => exact persistWrite hf
  | persistPollingRate device profile desired write now => exact persistWrite hf
  | persistProfile device profile writes now =>
    refine bind (mapM (fun _ => persistWrite hf) _) fun _ => bind (mapM (fun _ => persistWrite hf) _) fun _ => ?_
    exact bind (mapM (fun _ => persistWrite hf) _) fun _ => of_pure
  | persistObservation device target snapshot pollingRate persistence verifiedAt => exact observed hf
  | persistMetadata device target observed now => exact metadataWritten hf
  | reconcile device metadata profiles now => exact reconciled hf
  | updateLocator device endpoint => exact relocated hf
  | _ => simp [Txn.isOrdinary] at ht

end Retains

theorem ordinarilyKept_identitySetup : OrdinarilyKept (·.identitySetup) where
  attached _ _ _ _ _ _ := rfl
  evidence _ _ _ _ _ _ := rfl
  relocated _ _ _ _ _ := rfl
  synced _ _ _ := rfl
  allocated _ _ := rfl
  made _ _ _ _ _ := rfl

/-- The closure never changes the journal. -/
abbrev KeepsJournal {α : Type} (m : Mutation α) : Prop := Retains (·.identitySetup) m

namespace KeepsJournal

open Retains

variable {α β : Type}

theorem allocate : KeepsJournal (Mutation.lift StateFile.allocateDeviceId) := fun state => by
  obtain ⟨n, hn⟩ := allocateFrom_state (state.devices.size + 1) state
  simp only [Mutation.apply_lift, StateFile.allocateDeviceId, hn]

theorem allocateDeviceIds : ∀ n, KeepsJournal (AttackSharkX3.allocateDeviceIds n)
  | 0 => of_pure
  | n + 1 => bind allocate fun _ => bind (allocateDeviceIds n) fun _ => of_pure

theorem finalizePhase (journal : IdentitySetupJournal) (skip : Bool) :
    KeepsJournal (AttackSharkX3.finalizePhase journal skip) := by
  have newMouse : KeepsJournal (finalizeNewMouse journal) :=
    bind of_orError fun _ => bind of_orError fun _ => bind allocate fun _ => of_modify fun _ => rfl
  unfold AttackSharkX3.finalizePhase
  split
  · exact bind of_get fun _ => bind (allocateDeviceIds _) fun _ => of_modify fun _ => rfl
  · exact newMouse
  · exact newMouse
  · exact bind of_get fun _ => bind of_orError fun _ => bind of_orError fun _ => bind of_orError fun _ =>
      bind of_orError fun _ => of_modify fun _ => rfl
  · exact bind of_get fun _ => bind of_orError fun _ => bind of_orError fun _ => bind of_orError fun _ =>
      of_modify fun _ => rfl

/-- **Ordinary transactions leave the journal alone.** -/
theorem ordinary {t : Txn} (ht : t.isOrdinary = true) : KeepsJournal t.run :=
  Retains.ordinary ordinarilyKept_identitySetup ht

end KeepsJournal

/-! ## Finalization -/

/-- **Finalization clears the journal if it succeeds, and keeps it if not.** -/
theorem finalizeCeremony_journal (skip : Bool) (state : StateFile) :
    ((finalizeCeremony skip).apply state).2.identitySetup = state.identitySetup ∨
      (((finalizeCeremony skip).apply state).1 = .ok () ∧
        ((finalizeCeremony skip).apply state).2.identitySetup = none) := by
  cases hj : state.identitySetup with
  | none => exact .inl (by simp [finalizeCeremony, apply_bind, hj])
  | some journal =>
    have hk : ((finalizePhase journal skip).apply state).2.identitySetup = state.identitySetup :=
      KeepsJournal.finalizePhase journal skip state
    rw [hj] at hk
    cases hp : (finalizePhase journal skip).apply state with
    | mk r state' =>
      rw [hp] at hk
      cases r with
      | error e => exact .inl (by simpa [finalizeCeremony, apply_bind, hj, hp] using hk)
      | ok _ => exact .inr (by simp [finalizeCeremony, apply_bind, hj, hp])

/-- A finalization that went through left no journal. -/
theorem finalizeCeremony_ok {skip : Bool} {state state' : StateFile}
    (h : (finalizeCeremony skip).apply state = (.ok (), state')) : state'.identitySetup = none := by
  cases hj : state.identitySetup with
  | none => simp [finalizeCeremony, apply_bind, hj] at h
  | some journal =>
    cases hp : (finalizePhase journal skip).apply state with
    | mk r state₁ =>
      cases r with
      | error e => simp [finalizeCeremony, apply_bind, hj, hp] at h
      | ok _ =>
        simp only [finalizeCeremony, apply_bind, apply_get, hj, apply_orError_some, hp, Mutation.apply_modify, Prod.mk.injEq] at h
        rw [← h.2]

/-! ## The steps -/

namespace IdentitySetupJournal

/-- The journal with its last subject replaced. -/
def withLast (journal : IdentitySetupJournal) (subject : IdentitySetupSubject) : IdentitySetupJournal :=
  { journal with subjects := journal.subjects.dropLast ++ [subject] }

def withStage (journal : IdentitySetupJournal) (stage : IdentitySetupStage) : IdentitySetupJournal :=
  { journal with stage }

/-- The journal with one more subject. -/
def push (journal : IdentitySetupJournal) (subject : IdentitySetupSubject) : IdentitySetupJournal :=
  { journal with subjects := journal.subjects ++ [subject] }

@[simp] theorem withLast_getLast? (journal : IdentitySetupJournal) (subject : IdentitySetupSubject) :
    (journal.withLast subject).subjects.getLast? = some subject := List.getLast?_concat

theorem withLast_self {journal : IdentitySetupJournal} {subject : IdentitySetupSubject}
    (h : journal.subjects.getLast? = some subject) : journal.withLast subject = journal := by
  obtain ⟨init, hinit⟩ := List.getLast?_eq_some_iff.1 h
  cases journal
  simp_all [withLast]

@[simp] theorem withLast_withLast (journal : IdentitySetupJournal) (subject subject' : IdentitySetupSubject) :
    (journal.withLast subject).withLast subject' = journal.withLast subject' := by
  simp [withLast]

@[simp] theorem withLast_phase (journal : IdentitySetupJournal) (subject : IdentitySetupSubject) :
    (journal.withLast subject).phase = journal.phase := rfl

@[simp] theorem withLast_stage (journal : IdentitySetupJournal) (subject : IdentitySetupSubject) :
    (journal.withLast subject).stage = journal.stage := rfl

end IdentitySetupJournal

/-- **The journal a transaction finalizes**, as it leaves it. -/
inductive Finalizes (t : Txn) (current : IdentitySetupJournal) : IdentitySetupJournal → Prop where
  | pushed {subject} (ht : t = .pushSubject current.phase subject true) (awaiting : current.stage = .awaitingCapture) :
      Finalizes t current ((current.push subject).withStage .finalizing)
  | finished {subject phase pendingLast} (ht : t = .finishStamping phase false pendingLast)
      (enrolls : phase ≠ .initialEnrollment) (last : current.subjects.getLast? = some subject) :
      Finalizes t current ((current.withLast (pendingLast.elim subject subject.mark)).withStage .finalizing)
  | migrated {skip} (ht : t = .finalizeMigration skip) : Finalizes t current current
  | associated {endpoint device} (ht : t = .associate endpoint device) (phase : current.phase = .bleAssociation)
      (empty : current.subjects = []) :
      Finalizes t current ((current.push ⟨endpoint, some device, none, none, none, ∅⟩).withStage .finalizing)

/-- **Everything a transaction can do to the journal.** -/
inductive JournalStep (t : Txn) (state state' : StateFile) : Prop where
  | same (keeps : state'.identitySetup = state.identitySetup)
  | begun {phase} (ht : t = .beginCeremony phase) (becomes : state'.identitySetup = some ⟨phase, .awaitingCapture, []⟩)
  | pushed {current subject allValid} (ht : t = .pushSubject current.phase subject allValid)
      (was : state.identitySetup = some current) (awaiting : current.stage = .awaitingCapture)
      (becomes : state'.identitySetup = some ((current.push subject).withStage
        (if allValid then .finalizing else .stamping)))
  | reserved {current subject token} (ht : t = .reserveToken token) (was : state.identitySetup = some current)
      (last : current.subjects.getLast? = some subject)
      (becomes : state'.identitySetup = some (current.withLast { subject with token := some token }))
  | marked {current subject profile} (ht : t = .markStamped profile) (was : state.identitySetup = some current)
      (last : current.subjects.getLast? = some subject)
      (becomes : state'.identitySetup = some (current.withLast (subject.mark profile)))
  | finished {current subject phase awaitSecond pendingLast} (ht : t = .finishStamping phase awaitSecond pendingLast)
      (was : state.identitySetup = some current) (last : current.subjects.getLast? = some subject)
      (becomes : state'.identitySetup = some ((current.withLast (pendingLast.elim subject subject.mark)).withStage
        (if awaitSecond then .awaitingCapture else .finalizing)))
  | associated {current endpoint device} (ht : t = .associate endpoint device)
      (was : state.identitySetup = some current) (phase : current.phase = .bleAssociation)
      (empty : current.subjects = [])
      (becomes : state'.identitySetup = some ((current.push ⟨endpoint, some device, none, none, none, ∅⟩).withStage
        .finalizing))
  | finalized {current final} (skip : Bool) (was : state.identitySetup = some current) (final_ : Finalizes t current final)
      (ran : (finalizeCeremony skip).apply { state with identitySetup := some final } = (.ok (), state'))
      (becomes : state'.identitySetup = none)
  | cancelled (ht : t = .cancelCeremony) (becomes : state'.identitySetup = none)

/-- A transaction that ends in finalization leaves its journal as it is, or none. -/
theorem finalize_cases (state : StateFile) (final : IdentitySetupJournal) (skip : Bool) :
    (((finalizeCeremony skip).apply { state with identitySetup := some final }).2.identitySetup = some final) ∨
      ∃ state', (finalizeCeremony skip).apply { state with identitySetup := some final } = (.ok (), state') ∧
        state'.identitySetup = none := by
  rcases finalizeCeremony_journal skip { state with identitySetup := some final } with h | ⟨hok, hnone⟩
  · exact .inl h
  · exact .inr ⟨_, Prod.ext hok rfl, hnone⟩

/-- The last subject changed. -/
theorem updateLastSubject_last (f : IdentitySetupSubject → IdentitySetupSubject) {state : StateFile}
    {current : IdentitySetupJournal} {subject : IdentitySetupSubject} (hj : state.identitySetup = some current)
    (hl : current.subjects.getLast? = some subject) : (Txn.updateLastSubject f).apply state =
      (.ok (current.withLast (f subject)), { state with identitySetup := some (current.withLast (f subject)) }) := by
  simp [Txn.updateLastSubject, apply_bind, hj, hl, Txn.setJournal, IdentitySetupJournal.withLast]
  rfl

/-- The last subject changed, where there is one. -/
theorem updateLastSubject_apply (f : IdentitySetupSubject → IdentitySetupSubject) (state : StateFile) :
    (∃ e, (Txn.updateLastSubject f).apply state = (.error e, state)) ∨
      ∃ current subject, state.identitySetup = some current ∧ current.subjects.getLast? = some subject ∧
        (Txn.updateLastSubject f).apply state =
          (.ok (current.withLast (f subject)), { state with identitySetup := some (current.withLast (f subject)) }) := by
  cases hj : state.identitySetup with
  | none => exact .inl ⟨_, by simp [Txn.updateLastSubject, apply_bind, hj]; rfl⟩
  | some current =>
    cases hl : current.subjects.getLast? with
    | none => exact .inl ⟨_, by simp [Txn.updateLastSubject, apply_bind, hj, hl]; rfl⟩
    | some subject => exact .inr ⟨current, subject, rfl, hl, updateLastSubject_last f hj hl⟩

namespace Txn

/-- The steps of a Reconnected transaction. -/
theorem pushSubject_step (phase : IdentitySetupPhase) (subject : IdentitySetupSubject) (allValid : Bool)
    (state : StateFile) :
    JournalStep (.pushSubject phase subject allValid) state ((journalSubject phase subject allValid).apply state).2 := by
  cases hj : state.identitySetup with
  | none => exact .same (by simp [journalSubject, apply_bind, hj])
  | some current =>
    by_cases hrefuse : current.phase ≠ phase ∨ current.stage ≠ .awaitingCapture
    · exact .same (by simp [journalSubject, apply_bind, hj, refuseIf, hrefuse])
    · have hguard := hrefuse
      rw [not_or, not_not, not_not] at hguard
      obtain ⟨rfl, awaiting⟩ := hguard
      cases allValid with
      | false => exact .pushed rfl hj awaiting (by simp [journalSubject, apply_bind, hj, refuseIf, awaiting]; rfl)
      | true =>
        have happly : (journalSubject current.phase subject true).apply state = (finalizeCeremony false).apply
            { state with identitySetup := some ((current.push subject).withStage .finalizing) } := by
          simp [journalSubject, apply_bind, hj, refuseIf, awaiting]
          rfl
        rw [happly]
        rcases finalize_cases state ((current.push subject).withStage .finalizing) false with
          hsame | ⟨state', hran, hnone⟩
        · exact .pushed rfl hj awaiting hsame
        · rw [hran]
          exact .finalized false hj (.pushed rfl awaiting) hran hnone

/-- **A captured subject that was journalled** ended its ceremony, or waits to be stamped. -/
theorem journalSubject_ok {phase : IdentitySetupPhase} {subject : IdentitySetupSubject} {allValid : Bool}
    {state state' : StateFile} (h : (journalSubject phase subject allValid).apply state = (.ok (), state')) :
    ∃ current, state.identitySetup = some current ∧ current.phase = phase ∧ current.stage = .awaitingCapture ∧
      ((allValid = true ∧ state'.identitySetup = none) ∨ (allValid = false ∧
        state' = { state with identitySetup := some ((current.push subject).withStage .stamping) })) := by
  cases hj : state.identitySetup with
  | none => simp [journalSubject, apply_bind, hj] at h
  | some current =>
    by_cases hrefuse : current.phase ≠ phase ∨ current.stage ≠ .awaitingCapture
    · simp [journalSubject, apply_bind, hj, refuseIf, hrefuse] at h
    · have hguard := hrefuse
      rw [not_or, not_not, not_not] at hguard
      obtain ⟨rfl, awaiting⟩ := hguard
      refine ⟨current, rfl, rfl, awaiting, ?_⟩
      cases allValid with
      | false =>
        simp only [journalSubject, apply_bind, apply_get, hj, apply_orError_some, refuseIf, hrefuse, ↓reduceIte,
          apply_pure, Bool.false_eq_true, apply_set, Prod.mk.injEq] at h
        exact .inr ⟨rfl, h.2.symm⟩
      | true =>
        have happly : (journalSubject current.phase subject true).apply state = (finalizeCeremony false).apply
            { state with identitySetup := some ((current.push subject).withStage .finalizing) } := by
          simp [journalSubject, apply_bind, hj, refuseIf, awaiting]
          rfl
        rw [happly] at h
        exact .inl ⟨rfl, finalizeCeremony_ok h⟩

/-- **A captured subject that was refused** changed nothing, unless its ceremony failed at its end. -/
theorem pushSubject_error {phase : IdentitySetupPhase} {subject : IdentitySetupSubject} {allValid : Bool} {e : ManagerError}
    {state : StateFile} (h : (Txn.pushSubject phase subject allValid).answer state = .error e) :
    (Txn.pushSubject phase subject allValid).after state = state ∨ (allValid = true ∧ ∃ current,
      state.identitySetup = some current ∧ current.phase = phase ∧ current.stage = .awaitingCapture ∧
      (finalizeCeremony false).apply { state with identitySetup := some ((current.push subject).withStage .finalizing) } =
        (.error e, (Txn.pushSubject phase subject allValid).after state)) := by
  have happly : (journalSubject phase subject allValid).apply state =
      (.error e, (Txn.pushSubject phase subject allValid).after state) := Prod.ext h rfl
  generalize (Txn.pushSubject phase subject allValid).after state = state' at happly ⊢
  cases hj : state.identitySetup with
  | none =>
    simp [journalSubject, apply_bind, hj] at happly
    exact .inl happly.2.symm
  | some current =>
    by_cases hrefuse : current.phase ≠ phase ∨ current.stage ≠ .awaitingCapture
    · simp [journalSubject, apply_bind, hj, refuseIf, hrefuse] at happly
      exact .inl happly.2.symm
    · have hguard := hrefuse
      rw [not_or, not_not, not_not] at hguard
      obtain ⟨rfl, awaiting⟩ := hguard
      cases allValid with
      | false => simp [journalSubject, apply_bind, hj, refuseIf, awaiting] at happly
      | true =>
        refine .inr ⟨rfl, current, rfl, rfl, awaiting, ?_⟩
        rw [← happly]
        simp [journalSubject, apply_bind, hj, refuseIf, awaiting]
        rfl

/-- The end of a stamping call, where it finalizes. -/
theorem advance_finalizes {state : StateFile} {current : IdentitySetupJournal} {subject : IdentitySetupSubject}
    (hj : state.identitySetup = some current) (hl : current.subjects.getLast? = some subject) {phase : IdentitySetupPhase}
    (hphase : phase ≠ .initialEnrollment) (pendingLast : Option ProfileId) :
    (advance phase false pendingLast).apply state = (finalizeCeremony false).apply { state with
      identitySetup := some ((current.withLast (pendingLast.elim subject subject.mark)).withStage .finalizing) } := by
  have hu := updateLastSubject_last (fun subject => pendingLast.elim subject subject.mark) hj hl
  simp [advance, apply_bind, hu, hphase]
  rfl

/-- The steps of the transaction that ends a stamping call. -/
theorem finishStamping_step (phase : IdentitySetupPhase) (awaitSecond : Bool) (pendingLast : Option ProfileId)
    (state : StateFile) :
    JournalStep (.finishStamping phase awaitSecond pendingLast) state
      ((advance phase awaitSecond pendingLast).apply state).2 := by
  rcases updateLastSubject_apply (fun subject => pendingLast.elim subject subject.mark) state with
    ⟨e, he⟩ | ⟨current, subject, hj, hl, hu⟩
  · exact .same (by simp [advance, apply_bind, he])
  · cases awaitSecond with
    | true => exact .finished rfl hj hl (by simp [advance, apply_bind, hu]; rfl)
    | false =>
      by_cases hphase : phase = .initialEnrollment
      · exact .finished rfl hj hl (by simp [advance, apply_bind, hu, hphase]; rfl)
      · rw [advance_finalizes hj hl hphase]
        rcases finalize_cases state ((current.withLast (pendingLast.elim subject
          subject.mark)).withStage .finalizing) false with hsame | ⟨state', hran, hnone⟩
        · exact .finished rfl hj hl hsame
        · rw [hran]
          exact .finalized false hj (.finished rfl hphase hl) hran hnone

/-- Where the end of a stamping call leaves a journal, its last subject is marked. -/
theorem finishStamping_subjects {state : StateFile} {current journal' : IdentitySetupJournal}
    {subject : IdentitySetupSubject} (hj : state.identitySetup = some current)
    (hl : current.subjects.getLast? = some subject) (phase : IdentitySetupPhase) (awaitSecond : Bool)
    (pendingLast : Option ProfileId)
    (h : ((advance phase awaitSecond pendingLast).apply state).2.identitySetup = some journal') :
    journal'.subjects = (current.withLast (pendingLast.elim subject subject.mark)).subjects := by
  have hu := updateLastSubject_last (fun subject => pendingLast.elim subject subject.mark) hj hl
  cases awaitSecond with
  | true =>
    simp [advance, apply_bind, hu, setJournal] at h
    rw [← h]
  | false =>
    by_cases hphase : phase = .initialEnrollment
    · simp [advance, apply_bind, hu, hphase, setJournal] at h
      rw [← h]
    · rw [advance_finalizes hj hl hphase] at h
      rcases finalize_cases state ((current.withLast (pendingLast.elim subject subject.mark)).withStage .finalizing)
        false with hsame | ⟨state', hran, hnone⟩
      · rw [hsame, Option.some.injEq] at h
        rw [← h]
        rfl
      · rw [hran, hnone] at h
        cases h

/-- The steps of a BLE association. -/
theorem associate_step (endpoint : DeviceEndpoint) (device : DeviceId) (state : StateFile) :
    JournalStep (.associate endpoint device) state ((associateEndpoint endpoint device).apply state).2 := by
  cases hj : state.identitySetup with
  | none => exact .same (by simp [associateEndpoint, apply_bind, hj])
  | some current =>
    by_cases hrefuse : current.phase ≠ .bleAssociation ∨ current.stage ≠ .awaitingCapture ∨ current.subjects ≠ []
    · exact .same (by simp [associateEndpoint, apply_bind, hj, refuseIf, hrefuse])
    · have hguard := hrefuse
      simp only [not_or, not_not] at hguard
      obtain ⟨hphase, awaiting, hempty⟩ := hguard
      cases hfind : endpointOwner state endpoint device with
      | some taken =>
        exact .same (by simp [associateEndpoint, apply_bind, hj, refuseIf, hphase, awaiting, hempty, hfind])
      | none =>
        have happly : ((associateEndpoint endpoint device).apply state).2 = ((finalizeCeremony false).apply
            { state with identitySetup := some ((current.push ⟨endpoint, some device, none, none, none, ∅⟩).withStage
              .finalizing) }).2 := by
          simp only [associateEndpoint, apply_bind, apply_get, hj, apply_orError_some, refuseIf, hrefuse, ↓reduceIte,
            apply_pure, hfind, apply_set]
          split
          · next heq => exact (congrArg Prod.snd heq).symm
          · next heq => exact (congrArg Prod.snd heq).symm
        rw [happly]
        rcases finalize_cases state ((current.push ⟨endpoint, some device, none, none, none,
          ∅⟩).withStage .finalizing) false with hsame | ⟨state', hran, hnone⟩
        · exact .associated rfl hj hphase hempty hsame
        · rw [hran]
          exact .finalized false hj (.associated rfl hphase hempty) hran hnone

theorem changeLastSubject_apply (f : IdentitySetupSubject → IdentitySetupSubject) (state : StateFile) :
    ((changeLastSubject f).apply state).2 = state ∨ ∃ current subject, state.identitySetup = some current ∧
      current.subjects.getLast? = some subject ∧
      ((changeLastSubject f).apply state).2 = { state with identitySetup := some (current.withLast (f subject)) } := by
  rcases updateLastSubject_apply f state with ⟨e, he⟩ | ⟨current, subject, hj, hl, hu⟩
  · exact .inl (by simp [changeLastSubject, he])
  · exact .inr ⟨current, subject, hj, hl, by simp [changeLastSubject, hu]⟩

/-- **What each transaction does to the journal.** -/
theorem journalStep (t : Txn) (state : StateFile) : JournalStep t state (t.after state) := by
  cases t with
  | beginCeremony phase => exact .begun rfl rfl
  | pushSubject phase subject allValid => exact pushSubject_step phase subject allValid state
  | reserveToken token =>
    rcases changeLastSubject_apply ({ · with token := some token }) state with h | ⟨current, subject, hj, hl, h⟩
    · exact .same (congrArg StateFile.identitySetup h)
    · exact .reserved rfl hj hl (congrArg StateFile.identitySetup h)
  | markStamped profile =>
    rcases changeLastSubject_apply (·.mark profile) state with h | ⟨current, subject, hj, hl, h⟩
    · exact .same (congrArg StateFile.identitySetup h)
    · exact .marked rfl hj hl (congrArg StateFile.identitySetup h)
  | finishStamping phase awaitSecond pendingLast => exact finishStamping_step phase awaitSecond pendingLast state
  | finalizeMigration skip =>
    cases hj : state.identitySetup with
    | none =>
      refine .same ?_
      rcases finalizeCeremony_journal skip state with h | ⟨-, h⟩
      · exact h
      · exact h.trans hj.symm
    | some current =>
      rcases finalizeCeremony_journal skip state with h | ⟨hok, h⟩
      · exact .same h
      · refine .finalized skip hj (.migrated rfl) (Prod.ext ?_ ?_) h
        · rw [← hj]
          exact hok
        · rw [← hj]
          rfl
  | associate endpoint device => exact associate_step endpoint device state
  | cancelCeremony => exact .cancelled rfl rfl
  | ensureLegacyMouse | attachSilently | syncEndpointAssociations | rememberResolution | persistDpi | persistPreferences
  | persistButtons | persistPollingRate | persistProfile | persistObservation | persistMetadata | reconcile | updateLocator =>
    exact .same (KeepsJournal.ordinary rfl state)

end Txn

/-- **What a commit leaves of the journal.** -/
theorem Commits.journalStep {t : Txn} {state state' : StateFile} {r} (h : Commits t state r state') :
    JournalStep t state state' := by
  rcases h.cases with rfl | ⟨rfl, -⟩
  · exact .same rfl
  · exact t.journalStep state

end AttackSharkX3
