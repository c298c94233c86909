import AttackSharkX3.Finalized
import AttackSharkX3.Imports
import AttackSharkX3.Managed
/-!
# Issued — keys are issued once

A new key is named by the counter, which every transaction leaves where it was or moves on.  A mouse that comes with its own
key moves the counter past it, so what the counter names next was never a key before.
-/
namespace AttackSharkX3

open Mutation (apply_bind apply_get)

/-! ## What a closure leaves -/

/-- Run in this state, the closure leaves one that `R` relates to it. -/
def LeavesAt {α : Type} (R : StateFile → StateFile → Prop) (state : StateFile) (m : Mutation α) : Prop :=
  R state (m.apply state).2

namespace LeavesAt

variable {α β : Type} {R : StateFile → StateFile → Prop} {state : StateFile}

theorem of_modify {f : StateFile → StateFile} (hf : R state (f state)) : LeavesAt R state (modify f) := hf

/-- After a first closure, wherever it ends. -/
theorem bind_of {m : Mutation α} {f : α → Mutation β} (hm : LeavesAt R state m)
    (hf : ∀ a state', m.apply state = (.ok a, state') → R state ((f a).apply state').2) : LeavesAt R state (m >>= f) := by
  unfold LeavesAt at *
  rw [apply_bind]
  split
  · next a state' heq => exact hf a state' heq
  · next e state' heq =>
    rw [heq] at hm
    exact hm

theorem bind_get {f : StateFile → Mutation β} (hf : LeavesAt R state (f state)) : LeavesAt R state (get >>= f) := by
  unfold LeavesAt
  rw [apply_bind]
  exact hf

theorem ite {c : Prop} [Decidable c] {m m' : Mutation α} (hm : LeavesAt R state m) (hm' : LeavesAt R state m') :
    LeavesAt R state (if c then m else m') := by
  split
  · exact hm
  · exact hm'

variable [IsPreorder StateFile R]

theorem of_pure {a : α} : LeavesAt R state (pure a) := refl state
theorem of_throw {e : ManagerError} : LeavesAt R state (throw e : Mutation α) := refl state

theorem bind {m : Mutation α} {f : α → Mutation β} (hm : LeavesAt R state m)
    (hf : ∀ a state', m.apply state = (.ok a, state') → LeavesAt R state' (f a)) : LeavesAt R state (m >>= f) := by
  refine bind_of hm fun a state' heq => ?_
  have hm : R state state' := by
    unfold LeavesAt at hm
    rwa [heq] at hm
  exact IsTrans.trans _ _ _ hm (hf a state' heq)

theorem bind_orError {e : ManagerError} {x : Option α} {f : α → Mutation β} (hf : ∀ a, x = some a → LeavesAt R state (f a)) :
    LeavesAt R state (Mutation.orError e x >>= f) := by
  cases x with
  | none => exact of_throw
  | some a => exact hf a rfl

theorem bind_refuseIf {c : Prop} [Decidable c] {e : ManagerError} {f : Unit → Mutation β} (hf : LeavesAt R state (f ())) :
    LeavesAt R state (Mutation.refuseIf c e >>= f) := by
  unfold Mutation.refuseIf
  split
  · exact of_throw
  · exact hf

theorem mapM {f : α → Mutation β} : ∀ {part : Option α}, (∀ a, part = some a → LeavesAt R state (f a)) →
    LeavesAt R state (part.mapM f)
  | none, _ => of_pure
  | some a, hf => bind (hf a rfl) fun _ _ _ => of_pure

end LeavesAt

/-! ## The counter -/

/-- **The counter does not go back, and a new key is one it was yet to name.** -/
structure Issues (state after : StateFile) : Prop where
  counter : state.nextDeviceNumber ≤ after.nextDeviceNumber
  keys : ∀ id, after.devices.contains id = true → state.devices.contains id = true ∨
    ∃ n, id.number = some n ∧ state.nextDeviceNumber ≤ n

namespace Issues

variable {state after : StateFile}

instance : IsPreorder StateFile Issues where
  refl state := ⟨Nat.le_refl _, fun _ => .inl⟩
  trans a b c hab hbc := by
    refine ⟨Nat.le_trans hab.counter hbc.counter, fun id hid => ?_⟩
    rcases hbc.keys id hid with hid | ⟨n, hn, hle⟩
    · exact hab.keys id hid
    · exact .inr ⟨n, hn, Nat.le_trans hab.counter hle⟩

/-- A change that brings no key and leaves the counter. -/
theorem of_same (hcounter : after.nextDeviceNumber = state.nextDeviceNumber)
    (hkeys : ∀ id, after.devices.contains id = true → state.devices.contains id = true) : Issues state after :=
  ⟨Nat.le_of_eq hcounter.symm, fun id hid => .inl (hkeys id hid)⟩

theorem contains_insert {device : DeviceId} {deviceState deviceState' : DeviceState}
    (hd : state.devices[device]? = some deviceState) (id : DeviceId)
    (hid : (state.devices.insert device deviceState').contains id = true) : state.devices.contains id = true := by
  rw [Std.ExtTreeMap.contains_insert, Bool.or_eq_true] at hid
  rcases hid with heq | hid
  · have heq : device = id := Std.compare_eq_iff_eq.1 (by simpa using heq)
    subst heq
    rw [Std.ExtTreeMap.contains_eq_isSome_getElem?, hd]
    rfl
  · exact hid

/-- A saved mouse replaced. -/
theorem of_insert {device : DeviceId} {deviceState deviceState' : DeviceState} {mapping : EndpointMapping}
    (hd : state.devices[device]? = some deviceState) :
    Issues state { state with devices := state.devices.insert device deviceState', endpointMapping := mapping } :=
  of_same rfl (contains_insert hd)

/-- A new mouse under an issued key. -/
theorem of_issued {id : DeviceId} {deviceState : DeviceState} {middle : StateFile} (hsame : middle.devices = state.devices)
    {number : Nat} (hid : id.number = some number) (hle : state.nextDeviceNumber ≤ number)
    (hcounter : state.nextDeviceNumber ≤ middle.nextDeviceNumber) :
    Issues state { middle with devices := middle.devices.insert id deviceState } := by
  refine ⟨hcounter, fun key hkey => ?_⟩
  rw [Std.ExtTreeMap.contains_insert, Bool.or_eq_true] at hkey
  rcases hkey with heq | hkey
  · have heq : id = key := Std.compare_eq_iff_eq.1 (by simpa using heq)
    exact .inr ⟨number, heq ▸ hid, hle⟩
  · exact .inl (hsame ▸ hkey)

end Issues

abbrev IssuesAt {α : Type} (state : StateFile) (m : Mutation α) : Prop := LeavesAt Issues state m

section Keys

variable {state : StateFile}

/-- The loop of `allocateDeviceId` only counts on. -/
theorem allocateFrom_counts : ∀ (fuel : Nat) (state : StateFile),
    state.nextDeviceNumber ≤ (StateFile.allocateFrom fuel state).2.nextDeviceNumber
  | 0, _ => Nat.le_refl _
  | fuel + 1, state => by
    unfold StateFile.allocateFrom
    split
    · exact Nat.le_refl _
    · dsimp only
      split
      · exact Nat.le_refl _
      · split
        · exact Nat.le_of_succ_le (allocateFrom_counts fuel { state with nextDeviceNumber := state.nextDeviceNumber + 1 })
        · exact Nat.le_succ _

/-- **A key that is issued is numbered at or past the counter.** -/
theorem allocateDeviceId_number {id : DeviceId} {state' : StateFile} (h : state.allocateDeviceId = (.ok id, state')) :
    (∃ number, id.number = some number ∧ state.nextDeviceNumber ≤ number) ∧ state'.devices = state.devices ∧
      state.nextDeviceNumber ≤ state'.nextDeviceNumber := by
  obtain ⟨number, hnumber, hle, -⟩ := allocateFrom_number _ _ h
  have hcounts := allocateFrom_counts (state.devices.size + 1) state
  obtain ⟨n, hstate⟩ := allocateFrom_state (state.devices.size + 1) state
  have hend : (StateFile.allocateFrom (state.devices.size + 1) state).2 = state' := congrArg Prod.snd h
  rw [hend] at hcounts hstate
  refine ⟨⟨number, DeviceId.number_fromNumber hnumber, hle⟩, ?_, hcounts⟩
  rw [hstate]

theorem issues_allocate : IssuesAt state (Mutation.lift StateFile.allocateDeviceId) := by
  have hcounts := allocateFrom_counts (state.devices.size + 1) state
  obtain ⟨n, hstate⟩ := allocateFrom_state (state.devices.size + 1) state
  show Issues state (StateFile.allocateFrom (state.devices.size + 1) state).2
  refine ⟨hcounts, fun id hid => .inl ?_⟩
  rw [hstate] at hid
  exact hid

theorem issues_allocateDeviceIds : ∀ (n : Nat) (state : StateFile), IssuesAt state (allocateDeviceIds n)
  | 0, _ => .of_pure
  | n + 1, _ => .bind issues_allocate fun _ _ _ => .bind (issues_allocateDeviceIds n _) fun _ _ _ => .of_pure

/-- **A new mouse under a new key.** -/
theorem issues_new {f : DeviceId → StateFile → StateFile} {deviceState : DeviceId → DeviceState}
    (hf : ∀ {id}, (state' : StateFile) → f id state' = { state' with devices := state'.devices.insert id (deviceState id) }) :
    IssuesAt state (Mutation.lift StateFile.allocateDeviceId >>= fun id => modify (f id)) := by
  refine .bind_of issues_allocate fun id state' hallocate => ?_
  have hallocate : state.allocateDeviceId = (.ok id, state') := by
    rw [Mutation.apply_lift] at hallocate
    cases hrun : state.allocateDeviceId with
    | mk r s =>
      rw [hrun] at hallocate
      cases r with
      | error e => cases hallocate
      | ok id' =>
        cases hallocate
        rfl
  obtain ⟨⟨number, hid, hle⟩, hsame, hcounter⟩ := allocateDeviceId_number hallocate
  show Issues state (f id state')
  rw [hf]
  exact .of_issued hsame hid hle hcounter

/-! ## Ceremonies -/

theorem enrolledDevices_keys {legacy : Option DeviceState} {matched : Option Nat} {subjects : List IdentitySetupSubject}
    {ids : List DeviceId} {id : DeviceId} (hid : (enrolledDevices legacy matched subjects ids).contains id = true) : id ∈ ids := by
  by_contra hne
  rw [Std.ExtTreeMap.contains_eq_isSome_getElem?] at hid
  unfold enrolledDevices at hid
  rw [BTreeMap.get_foldl_insert_of_ne (fun entry : (IdentitySetupSubject × Nat) × DeviceId => entry.2) _ _ _ ?_] at hid
  · simp at hid
  · rintro entry hentry rfl
    exact hne (List.of_mem_zip hentry).2

/-- **A finished ceremony gives new mice new keys.** -/
theorem issues_finalizePhase (journal : IdentitySetupJournal) (skip : Bool) : IssuesAt state (finalizePhase journal skip) := by
  have hnew : IssuesAt state (finalizeNewMouse journal) := by
    exact .bind_orError fun subject _ => .bind_orError fun token _ => issues_new fun _ => rfl
  unfold finalizePhase
  split
  · refine .bind_get (.bind_of (issues_allocateDeviceIds _ _) fun ids state' hallocate => ?_)
    have hcounts := issues_allocateDeviceIds journal.subjects.length state
    unfold IssuesAt LeavesAt at hcounts
    rw [hallocate] at hcounts
    obtain ⟨-, -, hnumbers⟩ := allocateDeviceIds_ok _ _ hallocate
    refine ⟨hcounts.counter, fun id hid => .inr ?_⟩
    obtain ⟨number, hnumber, hle⟩ := hnumbers id (enrolledDevices_keys hid)
    exact ⟨number, DeviceId.number_fromNumber hnumber, hle⟩
  · exact hnew
  · exact hnew
  · exact .bind_get (.bind_orError fun subject _ => .bind_orError fun id _ => .bind_orError fun token _ =>
      .bind_orError fun device hdevice => .of_modify (.of_insert hdevice))
  · exact .bind_get (.bind_orError fun subject _ => .bind_orError fun id _ => .bind_orError fun device hdevice =>
      .of_modify (.of_insert hdevice))

/-- Only the journal is changed. -/
theorem issues_setup (setup : Option IdentitySetupJournal) : Issues state { state with identitySetup := setup } :=
  .of_same rfl fun _ => id

theorem issues_finalizeCeremony (skip : Bool) : IssuesAt state (finalizeCeremony skip) :=
  .bind_get (.bind_orError fun journal _ => .bind (issues_finalizePhase journal skip) fun _ _ _ => .of_modify (issues_setup _))

theorem issues_updateLastSubject (f : IdentitySetupSubject → IdentitySetupSubject) :
    IssuesAt state (Txn.updateLastSubject f) := by
  refine .bind_get (.bind_orError fun journal _ => .bind_orError fun subject _ => ?_)
  have hset : IssuesAt state (set (Txn.setJournal state
      { journal with subjects := journal.subjects.dropLast ++ [f subject] }) : Mutation PUnit) := issues_setup _
  exact .bind hset fun _ _ _ => .of_pure

end Keys

/-! ## Transactions -/

section Transactions

variable {state : StateFile}

theorem issues_journalSubject {phase : IdentitySetupPhase} {subject : IdentitySetupSubject} {allValid : Bool} :
    IssuesAt state (Txn.journalSubject phase subject allValid) := by
  refine .bind_get (.bind_orError fun journal _ => .bind_refuseIf ?_)
  cases allValid with
  | true => exact .bind (issues_setup _) fun _ _ _ => issues_finalizeCeremony false
  | false => exact issues_setup _

theorem issues_advance {phase : IdentitySetupPhase} {awaitSecond : Bool} {pendingLast : Option ProfileId} :
    IssuesAt state (Txn.advance phase awaitSecond pendingLast) := by
  refine .bind (issues_updateLastSubject _) fun journal _ _ => ?_
  cases awaitSecond with
  | true => exact .of_modify (issues_setup _)
  | false =>
    refine .bind (.of_modify (issues_setup _)) fun _ _ _ => ?_
    split
    · exact issues_finalizeCeremony false
    · exact .of_pure

theorem issues_associate {endpoint : DeviceEndpoint} {device : DeviceId} :
    IssuesAt state (Txn.associateEndpoint endpoint device) := by
  refine .bind_get (.bind_orError fun journal _ => .bind_refuseIf ?_)
  split
  · exact .of_throw
  · exact .bind (issues_setup _) fun _ _ _ => .bind (issues_finalizeCeremony false) fun _ _ _ => .of_pure

theorem issues_persistWrite {T : Type} [DecidableEq T] {sect : Section T} {device : DeviceId} {profile : ProfileId}
    {desired : T} {write : SessionWrite T} {now : Timestamp} :
    IssuesAt state (persistWrite sect device profile desired write now) := by
  refine .bind_get (.bind_orError fun deviceState hd => ?_)
  exact .bind (Issues.of_insert hd) fun _ _ _ => .of_pure

/-- **Every transaction of the manager issues new keys only.** -/
theorem Txn.issues (t : Txn) (state : StateFile) : Issues state (t.after state) := by
  show IssuesAt state t.run
  cases t with
  | ensureLegacyMouse discovered =>
    exact .bind_get (.ite (issues_new fun _ => rfl) .of_pure)
  | attachSilently endpoint device now =>
    refine .bind_get ?_
    split
    · exact .of_pure
    · next deviceState hd => exact Issues.of_insert hd
  | syncEndpointAssociations rows selection =>
    refine .of_modify (.of_same rfl fun id hid => ?_)
    simpa using hid
  | rememberResolution endpoint device now => exact .bind_get (.bind_orError fun deviceState hd => Issues.of_insert hd)
  | beginCeremony phase => exact .of_modify (issues_setup _)
  | pushSubject phase subject allValid => exact issues_journalSubject
  | reserveToken token | markStamped profile => exact .bind (issues_updateLastSubject _) fun _ _ _ => .of_pure
  | finishStamping phase awaitSecond pendingLast => exact issues_advance
  | finalizeMigration skip => exact issues_finalizeCeremony skip
  | associate endpoint device => exact issues_associate
  | cancelCeremony => exact .of_modify (issues_setup _)
  | persistDpi | persistPreferences | persistButtons | persistPollingRate => exact issues_persistWrite
  | persistProfile device profile writes now =>
    exact .bind (.mapM fun _ _ => issues_persistWrite) fun _ _ _ => .bind (.mapM fun _ _ => issues_persistWrite) fun _ _ _ =>
      .bind (.mapM fun _ _ => issues_persistWrite) fun _ _ _ => .of_pure
  | persistObservation device target snapshot pollingRate persistence verifiedAt =>
    exact .bind_get (.bind_orError fun deviceState hd => Issues.of_insert hd)
  | persistMetadata device target observed now => exact .bind_get (.bind_orError fun deviceState hd => Issues.of_insert hd)
  | reconcile device metadata profiles now =>
    exact .bind_get (.bind_orError fun deviceState hd => .bind (Issues.of_insert hd) fun _ _ _ => .of_pure)
  | updateLocator device endpoint => exact .bind_get (.bind_orError fun deviceState hd => Issues.of_insert hd)

end Transactions

/-! ## Runs -/

/-- **One operation of the manager on the store**, and the state it leaves.  `admits` says which transactions calls commit. -/
inductive Manages (admits : Txn → Prop) (state : StateFile) : StateFile → Prop where
  | transaction {t r state'} (admitted : admits t) (h : Commits t state r state') : Manages admits state state'
  | registerDevice {identity r state'} (h : Transacts (registerDevice identity) state r state') : Manages admits state state'
  | importConfiguration {identity configuration now r state'}
      (h : importConfiguration identity configuration now state r state') : Manages admits state state'
  | forgetDevice {device force r state'} (h : Transacts (removeDevice device force) state r state') : Manages admits state state'
  | renameDevice {device name r state'} (h : Transacts (renameDevice device name) state r state') : Manages admits state state'
  | setProfileName {device profile name r state'} (h : Transacts (setProfileName device profile name) state r state') :
      Manages admits state state'
  | removeProfileName {device profile r state'} (h : Transacts (removeProfileName device profile) state r state') :
      Manages admits state state'
  | invalidateState {device r state'} (h : Transacts (invalidateState device) state r state') : Manages admits state state'
  | selectDevice {device r state'} (h : Transacts (selectDevice device) state r state') : Manages admits state state'
  | setPreferredTransport {device transport r state'} (h : Transacts (setPreferredTransport device transport) state r state') :
      Manages admits state state'

/-- **The states the store has held**, the newest first, from an empty store on. -/
inductive Committed (admits : Txn → Prop) : List StateFile → Prop where
  | start : Committed admits [.default]
  | step {state state' past} (before : Committed admits (state :: past)) (manages : Manages admits state state') :
      Committed admits (state' :: state :: past)

/-- The body never moves the counter back. -/
def CountsOn {A : Type} (body : StateFile → Except ManagerError (A × StateFile)) : Prop :=
  ∀ state a after, body state = .ok (a, after) → state.nextDeviceNumber ≤ after.nextDeviceNumber

section Run

variable {admits : Txn → Prop} {state state' : StateFile} {past : List StateFile}

theorem Transacts.step {A : Type} {body : StateFile → Except ManagerError (A × StateFile)} {r : Except ManagerError A}
    (h : Transacts body state r state') (hbody : CountsOn body) (hv : state.validate = .ok ()) :
    state'.validate = .ok () ∧ state.nextDeviceNumber ≤ state'.nextDeviceNumber := by
  rcases h.cases with rfl | ⟨a, hgives, hvalid⟩
  · exact ⟨hv, Nat.le_refl _⟩
  · exact ⟨hvalid, hbody _ _ _ hgives⟩

theorem countsOn_changeDevice {device : DeviceId} {change : DeviceState → DeviceState} :
    CountsOn (changeDevice device change) := by
  intro state a after h
  unfold changeDevice at h
  split at h
  · cases h
  · cases h
    exact Nat.le_refl _

theorem countsOn_registerDevice {identity : DeviceIdentity} : CountsOn (registerDevice identity) := by
  intro state a after h
  unfold registerDevice at h
  cases hreserve : state.reserveNumber identity.id with
  | error e =>
    rw [hreserve] at h
    cases h
  | ok reserved =>
    obtain ⟨n, hle, rfl, -⟩ := reserveNumber_ok hreserve
    rw [hreserve] at h
    cases h
    exact hle

theorem countsOn_importInto {identity : DeviceIdentity} {configuration : ConfigurationExport} {now : Timestamp} :
    CountsOn (importInto identity configuration now) := by
  intro state a after h
  obtain ⟨n, _, _, hle, -, -, -, rfl⟩ := importInto_ok h
  exact hle

theorem countsOn_removeDevice {device : DeviceId} {force : Bool} : CountsOn (removeDevice device force) := by
  intro state a after h
  unfold removeDevice at h
  split at h
  · cases h
  · split at h
    · cases h
      exact Nat.le_refl _
    · cases h
      exact Nat.le_refl _

theorem countsOn_setProfileName {device : DeviceId} {profile : ProfileId} {name : String} :
    CountsOn (setProfileName device profile name) := by
  intro state a after h
  unfold setProfileName at h
  split at h
  · cases h
  · exact countsOn_changeDevice _ _ _ h
  · exact countsOn_changeDevice _ _ _ h

theorem countsOn_selectDevice {device : DeviceId} : CountsOn (selectDevice device) := by
  intro state a after h
  unfold selectDevice at h
  split at h
  · cases h
    exact Nat.le_refl _
  · cases h

/-- **One operation keeps the store valid, and the counter where it was or further on.** -/
theorem Manages.step (h : Manages admits state state') (hv : state.validate = .ok ()) :
    state'.validate = .ok () ∧ state.nextDeviceNumber ≤ state'.nextDeviceNumber := by
  cases h with
  | @transaction t r _ _ h =>
    refine ⟨h.valid hv, ?_⟩
    rcases h.cases with rfl | ⟨rfl, -⟩
    · exact Nat.le_refl _
    · exact (Txn.issues t state).counter
  | registerDevice h => exact h.step countsOn_registerDevice hv
  | importConfiguration h =>
    unfold AttackSharkX3.importConfiguration at h
    split at h
    · obtain ⟨-, rfl⟩ := h
      exact ⟨hv, Nat.le_refl _⟩
    · exact h.step countsOn_importInto hv
  | forgetDevice h => exact h.step countsOn_removeDevice hv
  | renameDevice h | removeProfileName h | invalidateState h | setPreferredTransport h =>
    exact h.step countsOn_changeDevice hv
  | setProfileName h => exact h.step countsOn_setProfileName hv
  | selectDevice h => exact h.step countsOn_selectDevice hv

/-- A saved mouse of a valid state is numbered below the counter. -/
theorem StateFile.number_lt (hv : state.validate = .ok ()) {id : DeviceId} (hid : state.devices.contains id = true) :
    ∃ n, id.number = some n ∧ n < state.nextDeviceNumber := by
  obtain ⟨n, hn, -⟩ := DeviceId.number_key id
  rw [Std.ExtTreeMap.contains_eq_isSome_getElem?] at hid
  obtain ⟨deviceState, hd⟩ := Option.isSome_iff_exists.1 hid
  exact ⟨n, hn, (StateFile.maxNumber_lt.1 (StateFile.validate_ok.1 hv).2.2.1).2 id deviceState hd n hn⟩

/-- What holds of every state held so far, next to the newest. -/
theorem Committed.held : ∀ {past : List StateFile} {state : StateFile}, Committed admits (state :: past) →
    ∀ s ∈ state :: past, s.validate = .ok () ∧ s.nextDeviceNumber ≤ state.nextDeviceNumber
  | _, _, .start => by
    intro s hs
    rw [List.mem_singleton.1 hs]
    exact ⟨by decide, Nat.le_refl _⟩
  | _, _, .step before manages => by
    have hbefore := Committed.held before
    obtain ⟨hv, hle⟩ := manages.step (hbefore _ List.mem_cons_self).1
    intro s hs
    rcases List.mem_cons.1 hs with rfl | hs
    · exact ⟨hv, Nat.le_refl _⟩
    · exact ⟨(hbefore s hs).1, Nat.le_trans (hbefore s hs).2 hle⟩

/-- Every stretch of a run that ends earlier is one. -/
theorem Committed.pairwise : ∀ {held : List StateFile}, Committed admits held →
    held.Pairwise fun later earlier => earlier.nextDeviceNumber ≤ later.nextDeviceNumber
  | _, .start => List.pairwise_singleton ..
  | _, .step before manages => by
    refine List.pairwise_cons.2 ⟨fun s hs => ?_, before.pairwise⟩
    exact ((Committed.step before manages).held s (List.mem_cons_of_mem _ hs)).2

/-- A key numbered at or past the counter was never one. -/
theorem Committed.unused (h : Committed admits (state :: past)) {id : DeviceId} {n : Nat} (hid : id.number = some n)
    (hle : state.nextDeviceNumber ≤ n) : ∀ s ∈ state :: past, s.devices.contains id = false := by
  intro s hs
  by_contra hcontains
  rw [Bool.not_eq_false] at hcontains
  obtain ⟨hv, hcounter⟩ := h.held s hs
  obtain ⟨number, hnumber, hlt⟩ := StateFile.number_lt hv hcontains
  have hsame : number = n := Option.some.inj (hnumber.symm.trans hid)
  omega

/-- **Keys are never reused.**  Every state is valid and the counter never goes back; it is past the number of every mouse
there ever was, and so is every key that is issued, at whatever point of a transaction. -/
theorem keys_never_reused (h : Committed admits (state :: past)) :
    (∀ s ∈ state :: past, s.validate = .ok ()) ∧
    (state :: past).Pairwise (fun later earlier => earlier.nextDeviceNumber ≤ later.nextDeviceNumber) ∧
    (∀ s ∈ state :: past, ∀ id, s.devices.contains id = true → ∃ n, id.number = some n ∧ n < state.nextDeviceNumber) ∧
    (∀ (during : StateFile) id during', state.nextDeviceNumber ≤ during.nextDeviceNumber → during.allocateDeviceId = (.ok id, during') →
      ∀ s ∈ state :: past, s.devices.contains id = false) ∧
    ∀ t r state', Commits t state r state' → ∀ id, state'.devices.contains id = true → state.devices.contains id = true ∨
      ∀ s ∈ state :: past, s.devices.contains id = false := by
  refine ⟨fun s hs => (h.held s hs).1, h.pairwise, ?_, ?_, ?_⟩
  · intro s hs id hid
    obtain ⟨hv, hcounter⟩ := h.held s hs
    obtain ⟨n, hn, hlt⟩ := StateFile.number_lt hv hid
    exact ⟨n, hn, Nat.lt_of_lt_of_le hlt hcounter⟩
  · intro during id during' hcounter hallocate
    obtain ⟨⟨n, hn, hle⟩, -, -⟩ := allocateDeviceId_number hallocate
    exact h.unused hn (Nat.le_trans hcounter hle)
  · intro t r state' hcommits id hid
    rcases hcommits.cases with rfl | ⟨rfl, -⟩
    · exact .inl hid
    · rcases (Txn.issues t state).keys id hid with hid | ⟨n, hn, hle⟩
      · exact .inl hid
      · exact .inr (h.unused hn hle)

end Run

end AttackSharkX3

namespace AttackSharkX3.Rig

/-- A mouse under a key of the caller's own. -/
def outsider : DeviceIdentity := .new ⟨"mouse-7", by decide⟩ (some "Desk")

/-- Once it is registered and forgotten, its key is not issued again. -/
theorem never_reuses_outsider : ∃ registered forgotten, Committed (fun _ => True) [forgotten, registered, .default] ∧
    registered.devices.contains outsider.id = true ∧ ∀ id after, forgotten.allocateDeviceId = (.ok id, after) →
      id ≠ outsider.id := by
  have hrun : (match registerDevice outsider .default with
      | .ok (_, registered) => decide (registered.validate = .ok () ∧ registered.devices.contains outsider.id = true) &&
        match removeDevice outsider.id true registered with
        | .ok (_, forgotten) => decide (forgotten.validate = .ok ())
        | .error _ => false
      | .error _ => false) = true := by decide +kernel
  split at hrun
  · next registered hregister =>
    split at hrun
    · next hremove =>
      obtain ⟨hregistered, hforgotten⟩ := Bool.and_eq_true_iff.1 hrun
      obtain ⟨hvalid, hcontains⟩ := of_decide_eq_true hregistered
      have hstart : Committed (fun _ => True) [.default] := .start
      have hheld := (hstart.step (.registerDevice (.stored hregister hvalid))).step
        (.forgetDevice (.stored hremove (of_decide_eq_true hforgotten)))
      refine ⟨registered, _, hheld, hcontains, ?_⟩
      rintro id after hallocate rfl
      have hunused := (keys_never_reused hheld).2.2.2.1 _ _ _ (Nat.le_refl _) hallocate registered (by simp)
      rw [hcontains] at hunused
      cases hunused
    · simp at hrun
  · cases hrun

end AttackSharkX3.Rig
