import AttackSharkX3.Finishes
import AttackSharkX3.Guards
import AttackSharkX3.Migrated
import AttackSharkX3.Rig
import AttackSharkX3.Stamping
import AttackSharkX3.Tokens
/-!
# Closures — closures that fail

A closure under the state lock may change the state and fail afterwards, and its change is committed all the same.  The
closures of the manager fail before they change anything, but for those that finalize a ceremony: they mark its journal
first, and then no number may be left for the mice they make.
-/
namespace AttackSharkX3

open Effects.Prog (History)
open Effects.Machine (Config Step Reaches)
open Mutation (orError refuseIf apply_bind apply_get apply_set apply_orError_some apply_pure)

/-! ## Closures that change nothing when they fail -/

/-- Run in this state, the closure succeeds, or leaves it as it was. -/
def SparesAt {α : Type} (state : StateFile) (m : Mutation α) : Prop :=
  ∀ e, (m.apply state).1 = .error e → (m.apply state).2 = state

namespace SparesAt

variable {α β : Type} {state : StateFile}

theorem of_ok {m : Mutation α} {a : α} (h : (m.apply state).1 = .ok a) : SparesAt state m := by
  intro e he
  rw [h] at he
  cases he

theorem of_error {m : Mutation α} {r} (h : m.apply state = (r, state)) : SparesAt state m :=
  fun _ _ => congrArg Prod.snd h

theorem of_throw {e : ManagerError} : SparesAt state (throw e : Mutation α) := of_error rfl

theorem bind_get {f : StateFile → Mutation β} (hf : SparesAt state (f state)) : SparesAt state (get >>= f) := by
  unfold SparesAt
  rw [apply_bind]
  exact hf

theorem ite {c : Prop} [Decidable c] {m m' : Mutation α} (hm : SparesAt state m) (hm' : SparesAt state m') :
    SparesAt state (if c then m else m') := by
  split
  · exact hm
  · exact hm'

theorem bind_orError {e : ManagerError} {x : Option α} {f : α → Mutation β} (hf : ∀ a, x = some a → SparesAt state (f a)) :
    SparesAt state (orError e x >>= f) := by
  cases x with
  | none => exact of_throw
  | some a => exact hf a rfl

theorem bind_refuseIf {c : Prop} [Decidable c] {e : ManagerError} {f : Unit → Mutation β}
    (hf : SparesAt state (f ())) : SparesAt state (refuseIf c e >>= f) := by
  unfold refuseIf
  split
  · exact of_throw
  · exact hf

end SparesAt

/-- The choice of the only candidate, in the closure of `resolve_device`. -/
def selectCandidate (candidate : DeviceId) : Mutation Unit := do
  let state ← get
  refuseIf (state.devices.contains candidate = false) (.deviceNotFound candidate)
  set { state with selectedDevice := some candidate }

/-- A transport preferred for a mouse, in the closure of `set_preferred_transport`. -/
def preferTransport (device : DeviceId) (transport : TransportKind) : Mutation Unit := do
  let state ← get
  let deviceState ← orError (.deviceNotFound device) state.devices[device]?
  set { state with devices := state.devices.insert device { deviceState with
    identity := { deviceState.identity with preferredTransport := some transport } } }

section Spared

variable {state : StateFile}

theorem spares_selectCandidate {candidate : DeviceId} : SparesAt state (selectCandidate candidate) :=
  .bind_get (.bind_refuseIf (.of_ok rfl))

theorem spares_preferTransport {device : DeviceId} {transport : TransportKind} :
    SparesAt state (preferTransport device transport) :=
  .bind_get (.bind_orError fun _ _ => .of_ok rfl)

theorem spares_persistWrite {T : Type} [DecidableEq T] {sect : Section T} {device : DeviceId} {profile : ProfileId}
    {desired : T} {write : SessionWrite T} {now : Timestamp} :
    SparesAt state (persistWrite sect device profile desired write now) :=
  .bind_get (.bind_orError fun _ _ => .of_ok rfl)

/-- The record of a part of an update, on a mouse that is saved, and on one that is not. -/
theorem persistPart_saved {T : Type} [DecidableEq T] (sect : Section T) (profile : T → ProfileId)
    (part : Option (T × SessionWrite T)) (now : Timestamp) {device : DeviceId} (hsaved : state.devices.contains device = true) :
    ∃ out state', (part.mapM fun entry => persistWrite sect device (profile entry.1) entry.1 entry.2 now).apply state =
      (.ok out, state') ∧ state'.devices.contains device = true := by
  cases part with
  | none => exact ⟨none, state, rfl, hsaved⟩
  | some entry =>
    obtain ⟨mouse, hmouse⟩ : ∃ mouse, state.devices[device]? = some mouse := by
      rw [Std.ExtTreeMap.contains_eq_isSome_getElem?] at hsaved
      exact Option.isSome_iff_exists.1 hsaved
    obtain ⟨out, state', hran, hkept⟩ : ∃ out state', (persistWrite sect device (profile entry.1) entry.1 entry.2 now).apply
        state = (.ok out, state') ∧ state'.devices.contains device = true := by
      refine ⟨_, _, by simp only [persistWrite, apply_bind, apply_get, hmouse, apply_orError_some, apply_set]; rfl, ?_⟩
      simp
    refine ⟨some out, state', ?_, hkept⟩
    rw [Option.mapM_some, ← bind_pure_comp, apply_bind, hran]
    rfl

theorem persistPart_unknown {T : Type} [DecidableEq T] (sect : Section T) (profile : T → ProfileId)
    (part : Option (T × SessionWrite T)) (now : Timestamp) {device : DeviceId} (hnone : state.devices[device]? = none) :
    ∃ r, (part.mapM fun entry => persistWrite sect device (profile entry.1) entry.1 entry.2 now).apply state = (r, state) := by
  cases part with
  | none => exact ⟨_, rfl⟩
  | some entry =>
    have hran : (persistWrite sect device (profile entry.1) entry.1 entry.2 now).apply state =
        (.error (.deviceNotFound device), state) := by
      rw [persistWrite, apply_bind, apply_get]
      dsimp only
      rw [apply_bind, hnone]
      rfl
    refine ⟨.error (.deviceNotFound device), ?_⟩
    rw [Option.mapM_some, ← bind_pure_comp, apply_bind, hran]

/-- **The parts of an update** are all recorded, or none is: they are about one mouse. -/
theorem spares_persistParts {device : DeviceId} {profile : ProfileId} {writes : ProfileWrites} {now : Timestamp} :
    SparesAt state (Txn.persistParts device profile writes now) := by
  cases hsaved : state.devices.contains device with
  | true =>
    obtain ⟨dpi, s₁, hdpi, h₁⟩ := persistPart_saved .dpi (fun _ => profile) writes.dpi now hsaved
    obtain ⟨preferences, s₂, hpreferences, h₂⟩ := persistPart_saved .preferences (fun _ => profile) writes.preferences now h₁
    obtain ⟨buttons, s₃, hbuttons, -⟩ := persistPart_saved .buttons ButtonsState.profile writes.buttons now h₂
    have hran : (Txn.persistParts device profile writes now).apply state =
        (.ok { dpi := dpi, preferences := preferences, buttons := buttons }, s₃) := by
      unfold Txn.persistParts
      rw [apply_bind, hdpi]
      dsimp only
      rw [apply_bind, hpreferences]
      dsimp only
      rw [apply_bind, hbuttons]
      rfl
    exact .of_ok (congrArg Prod.fst hran)
  | false =>
    have hnone : state.devices[device]? = none := by
      rw [Std.ExtTreeMap.contains_eq_isSome_getElem?] at hsaved
      exact Option.not_isSome_iff_eq_none.1 (by simp [hsaved])
    obtain ⟨dpi, hdpi⟩ := persistPart_unknown .dpi (fun _ => profile) writes.dpi now hnone
    obtain ⟨preferences, hpreferences⟩ := persistPart_unknown .preferences (fun _ => profile) writes.preferences now hnone
    obtain ⟨buttons, hbuttons⟩ := persistPart_unknown .buttons ButtonsState.profile writes.buttons now hnone
    obtain ⟨r, hr⟩ : ∃ r, (Txn.persistParts device profile writes now).apply state = (r, state) := by
      unfold Txn.persistParts
      rw [apply_bind, hdpi]
      cases dpi with
      | error e => exact ⟨_, rfl⟩
      | ok dpi =>
        dsimp only
        rw [apply_bind, hpreferences]
        cases preferences with
        | error e => exact ⟨_, rfl⟩
        | ok preferences =>
          dsimp only
          rw [apply_bind, hbuttons]
          cases buttons with
          | error e => exact ⟨_, rfl⟩
          | ok buttons => exact ⟨_, rfl⟩
    exact .of_error hr

/-- What follows a new key succeeds, or there was no key left. -/
theorem SparesAt.bind_allocate {β : Type} (hmax : state.maxNumber < state.nextDeviceNumber) {f : DeviceId → Mutation β}
    (hf : ∀ id state', ∃ b, ((f id).apply state').1 = .ok b) :
    SparesAt state (Mutation.lift StateFile.allocateDeviceId >>= f) := by
  unfold SparesAt
  rw [apply_bind, Mutation.apply_lift]
  by_cases hnext : state.nextDeviceNumber + 1 < 2 ^ 64
  · obtain ⟨id, -, -, halloc⟩ := allocateDeviceId_fresh hmax hnext
    rw [halloc]
    intro e he
    obtain ⟨b, hb⟩ := hf id { state with nextDeviceNumber := state.nextDeviceNumber + 1 }
    cases hb.symm.trans he
  · obtain ⟨e, halloc⟩ := allocateDeviceId_full (Nat.le_of_not_lt hnext)
    rw [halloc]
    exact fun _ _ => rfl

/-- **Ordinary closures that fail change nothing.** -/
theorem spares_ordinary (hmax : state.maxNumber < state.nextDeviceNumber) {t : Txn} (ht : t.isOrdinary = true) :
    SparesAt state t.run := by
  cases t with
  | ensureLegacyMouse discovered =>
    exact .bind_get (.ite (.bind_allocate hmax fun _ _ => ⟨_, rfl⟩) (.of_ok rfl))
  | attachSilently endpoint device now =>
    refine .bind_get ?_
    split
    · exact .of_ok rfl
    · exact .of_ok rfl
  | syncEndpointAssociations rows selection => exact .of_ok rfl
  | rememberResolution endpoint device now => exact .bind_get (.bind_orError fun _ _ => .of_ok rfl)
  | persistDpi | persistPreferences | persistButtons | persistPollingRate => exact spares_persistWrite
  | persistProfile device profile writes now => exact spares_persistParts
  | persistObservation device target snapshot pollingRate persistence verifiedAt =>
    exact .bind_get (.bind_orError fun _ _ => .of_ok rfl)
  | persistMetadata device target observed now => exact .bind_get (.bind_orError fun _ _ => .of_ok rfl)
  | reconcile device metadata profiles now => exact .bind_get (.bind_orError fun _ _ => .of_ok rfl)
  | updateLocator device endpoint => exact .bind_get (.bind_orError fun _ _ => .of_ok rfl)
  | _ => simp [Txn.isOrdinary] at ht

end Spared

/-! ## Finalization that fails -/

/-- No number is left for a mouse the ceremony makes. -/
def NoNumberLeft (state : StateFile) (journal : IdentitySetupJournal) : Prop :=
  journal.phase ≠ .restore ∧ journal.phase ≠ .bleAssociation ∧ 2 ^ 64 ≤ state.nextDeviceNumber + 1

/-- One number is left for the two mice of an enrollment. -/
def OneNumberLeft (state : StateFile) (journal : IdentitySetupJournal) : Prop :=
  journal.phase = .initialEnrollment ∧ journal.subjects.length = 2 ∧ state.nextDeviceNumber + 2 = 2 ^ 64

section Finalization

variable {state state' : StateFile} {journal : IdentitySetupJournal} {skip : Bool}

theorem allocate_cases (hmax : state.maxNumber < state.nextDeviceNumber) :
    (state.nextDeviceNumber + 1 < 2 ^ 64 ∧ ∃ id, (Mutation.lift StateFile.allocateDeviceId).apply state =
      (.ok id, { state with nextDeviceNumber := state.nextDeviceNumber + 1 })) ∨
    (2 ^ 64 ≤ state.nextDeviceNumber + 1 ∧ ∃ e, (Mutation.lift StateFile.allocateDeviceId).apply state = (.error e, state)) := by
  by_cases hnext : state.nextDeviceNumber + 1 < 2 ^ 64
  · obtain ⟨id, -, -, halloc⟩ := allocateDeviceId_fresh hmax hnext
    exact .inl ⟨hnext, id, by rw [Mutation.apply_lift, halloc]; rfl⟩
  · obtain ⟨e, halloc⟩ := allocateDeviceId_full (Nat.le_of_not_lt hnext)
    exact .inr ⟨Nat.le_of_not_lt hnext, .state e, by rw [Mutation.apply_lift, halloc]; rfl⟩

/-- **Keys that could not be issued**: the first of two is used up when the second is not there. -/
theorem allocateDeviceIds_error (hmax : state.maxNumber < state.nextDeviceNumber) {n : Nat} (hn : n ≤ 2) {e : ManagerError}
    (h : (allocateDeviceIds n).apply state = (.error e, state')) : state' = state ∨ (n = 2 ∧
      state.nextDeviceNumber + 2 = 2 ^ 64 ∧ state' = { state with nextDeviceNumber := state.nextDeviceNumber + 1 }) := by
  cases n with
  | zero => cases h
  | succ n =>
    rw [allocateDeviceIds, apply_bind] at h
    rcases allocate_cases hmax with ⟨hnext, id, halloc⟩ | ⟨-, e', halloc⟩
    · rw [halloc] at h
      dsimp only at h
      cases n with
      | zero => cases h
      | succ n =>
        obtain rfl : n = 0 := by omega
        rw [apply_bind, allocateDeviceIds, apply_bind] at h
        rcases @allocate_cases { state with nextDeviceNumber := state.nextDeviceNumber + 1 } (Nat.lt_succ_of_lt hmax) with
          ⟨-, id', halloc'⟩ | ⟨hfull, e', halloc'⟩
        · rw [halloc'] at h
          cases h
        · rw [halloc'] at h
          cases h
          refine .inr ⟨rfl, ?_, rfl⟩
          have hlast : 2 ^ 64 ≤ state.nextDeviceNumber + 1 + 1 := hfull
          omega
    · rw [halloc] at h
      cases h
      exact .inl rfl

/-- **Finalization that fails** leaves the state as it was, or has used up the last number. -/
theorem finalizeCeremony_error (hmax : state.maxNumber < state.nextDeviceNumber) (hj : state.identitySetup = some journal)
    (hcount : journal.subjects.length ≤ 2) {e : ManagerError} (h : (finalizeCeremony skip).apply state = (.error e, state')) :
    state' = state ∨ (OneNumberLeft state journal ∧
      state' = { state with nextDeviceNumber := state.nextDeviceNumber + 1 }) := by
  have hphase : (finalizePhase journal skip).apply state = (.error e, state') := by
    rw [finalizeCeremony, apply_bind, apply_get] at h
    dsimp only at h
    rw [hj, apply_bind, apply_orError_some] at h
    dsimp only at h
    rw [apply_bind] at h
    rcases hrun : (finalizePhase journal skip).apply state with ⟨r, s⟩
    rw [hrun] at h
    cases r with
    | ok _ => cases h
    | error e' =>
      cases h
      rfl
  have hspares {m : Mutation Unit} (hm : SparesAt state m) (hran : m.apply state = (.error e, state')) : state' = state := by
    have hs := hm e (congrArg Prod.fst hran)
    rw [hran] at hs
    exact hs
  have hnew : SparesAt state (finalizeNewMouse journal) :=
    .bind_orError fun _ _ => .bind_orError fun _ _ => .bind_allocate hmax fun _ _ => ⟨_, rfl⟩
  cases hkind : journal.phase with
  | initialEnrollment =>
    rw [finalizePhase, hkind] at hphase
    dsimp only at hphase
    rw [finalizeInitialEnrollment, apply_bind, apply_get] at hphase
    dsimp only at hphase
    rw [apply_bind] at hphase
    rcases hrun : (allocateDeviceIds journal.subjects.length).apply state with ⟨r, s⟩
    rw [hrun] at hphase
    cases r with
    | ok ids => cases hphase
    | error e' =>
      cases hphase
      rcases allocateDeviceIds_error hmax hcount hrun with hsame | ⟨htwo, hlast, hused⟩
      · exact .inl hsame
      · exact .inr ⟨⟨hkind, htwo, hlast⟩, hused⟩
  | addMouse | foreignAdoption =>
    rw [finalizePhase, hkind] at hphase
    exact .inl (hspares hnew hphase)
  | restore =>
    rw [finalizePhase, hkind] at hphase
    exact .inl (hspares (.bind_get (.bind_orError fun _ _ => .bind_orError fun _ _ => .bind_orError fun _ _ =>
      .bind_orError fun _ _ => .of_ok rfl)) hphase)
  | bleAssociation =>
    rw [finalizePhase, hkind] at hphase
    exact .inl (hspares (.bind_get (.bind_orError fun _ _ => .bind_orError fun _ _ => .bind_orError fun _ _ =>
      .of_ok rfl)) hphase)

/-- Where a ceremony has its numbers and its mouse, it is finalized. -/
theorem finalizes_numbered (hv : state.validate = .ok ()) (hj : state.identitySetup = some journal)
    (hstage : journal.stage = .finalizing) (hnone : ¬ NoNumberLeft state journal) (hone : ¬ OneNumberLeft state journal)
    (hbound : journal.phase = .bleAssociation → ∀ subject ∈ journal.subjects, subject.deviceId.isSome = true) (skip : Bool) :
    ∃ state', (finalizeCeremony skip).apply state = (.ok (), state') := by
  have hnumbers (hrestore : journal.phase ≠ .restore) (hble : journal.phase ≠ .bleAssociation) :
      state.nextDeviceNumber + 1 < 2 ^ 64 :=
    Nat.lt_of_not_le fun hfull => hnone ⟨hrestore, hble, hfull⟩
  cases hphase : journal.phase with
  | initialEnrollment =>
    have hnext := hnumbers (by rw [hphase]; nofun) (by rw [hphase]; nofun)
    obtain ⟨hcount, -⟩ := (IdentitySetupJournal.validateStage_finalizing hstage).1 (StateFile.valid_stage hv hj)
    rw [if_pos hphase] at hcount
    have htwo : state.nextDeviceNumber + 2 ≠ 2 ^ 64 := fun hlast => hone ⟨hphase, hcount, hlast⟩
    obtain ⟨_, _, _, _, _, _, -, -, -, -, -, -, -, -, hran⟩ := enrollment_ran hv hj hstage skip hphase (by omega)
    exact ⟨_, hran⟩
  | addMouse =>
    obtain ⟨_, _, _, -, -, -, -, -, hran⟩ := newMouse_ran hv hj hstage skip (.inl hphase)
      (hnumbers (by rw [hphase]; nofun) (by rw [hphase]; nofun))
    exact ⟨_, hran⟩
  | foreignAdoption =>
    obtain ⟨_, _, _, -, -, -, -, -, hran⟩ := newMouse_ran hv hj hstage skip (.inr hphase)
      (hnumbers (by rw [hphase]; nofun) (by rw [hphase]; nofun))
    exact ⟨_, hran⟩
  | restore =>
    obtain ⟨_, _, _, _, -, -, -, -, -, hran⟩ := restore_ran hv hj hstage skip hphase
    exact ⟨_, hran⟩
  | bleAssociation =>
    obtain ⟨-, subject, hsubjects, -, -⟩ := valid_subject hv hj hstage (by rw [hphase]; nofun)
    obtain ⟨d, hd⟩ := Option.isSome_iff_exists.1 (hbound hphase subject (by rw [hsubjects]; exact List.mem_singleton_self _))
    obtain ⟨_, -, hran⟩ := association_ran hv hj hstage skip hphase hsubjects hd
    exact ⟨_, hran⟩

/-- Where it has no number, it is not, and where it has one of two, that one is used up. -/
theorem fails_unnumbered (hmax : state.maxNumber < state.nextDeviceNumber) (hj : state.identitySetup = some journal)
    (hsubjects : journal.subjects ≠ []) (h : NoNumberLeft state journal) (skip : Bool) :
    ∃ e, (finalizeCeremony skip).apply state = (.error e, state) := by
  obtain ⟨hrestore, hble, hfull⟩ := h
  obtain ⟨e, halloc⟩ : ∃ e, (Mutation.lift StateFile.allocateDeviceId).apply state = (.error e, state) := by
    rcases allocate_cases hmax with ⟨hnext, -⟩ | ⟨-, hfails⟩
    · exact absurd hfull (Nat.not_le_of_lt hnext)
    · exact hfails
  have hnew : ∃ e, (finalizeNewMouse journal).apply state = (.error e, state) := by
    rw [finalizeNewMouse, apply_bind, onlySubject]
    cases journal.subjects.head? with
    | none => exact ⟨_, rfl⟩
    | some subject =>
      rw [apply_orError_some]
      dsimp only
      rw [apply_bind]
      cases subject.token with
      | none => exact ⟨_, rfl⟩
      | some token =>
        rw [apply_orError_some]
        dsimp only
        rw [apply_bind, halloc]
        exact ⟨_, rfl⟩
  have hphase : ∃ e, (finalizePhase journal skip).apply state = (.error e, state) := by
    cases hkind : journal.phase with
    | initialEnrollment =>
      obtain ⟨n, hn⟩ : ∃ n, journal.subjects.length = n + 1 := Nat.exists_eq_succ_of_ne_zero fun hzero =>
        hsubjects (List.eq_nil_of_length_eq_zero hzero)
      rw [finalizePhase, hkind]
      dsimp only
      rw [finalizeInitialEnrollment, apply_bind, apply_get]
      dsimp only
      rw [hn, apply_bind, allocateDeviceIds, apply_bind, halloc]
      exact ⟨_, rfl⟩
    | addMouse | foreignAdoption =>
      rw [finalizePhase, hkind]
      exact hnew
    | restore => exact absurd hkind hrestore
    | bleAssociation => exact absurd hkind hble
  obtain ⟨e, hrun⟩ := hphase
  refine ⟨e, ?_⟩
  rw [finalizeCeremony, apply_bind, apply_get]
  dsimp only
  rw [hj, apply_bind, apply_orError_some]
  dsimp only
  rw [apply_bind, hrun]

theorem fails_halfway (hmax : state.maxNumber < state.nextDeviceNumber) (hj : state.identitySetup = some journal)
    (h : OneNumberLeft state journal) (skip : Bool) : ∃ e, (finalizeCeremony skip).apply state =
      (.error e, { state with nextDeviceNumber := state.nextDeviceNumber + 1 }) := by
  obtain ⟨hkind, htwo, hlast⟩ := h
  obtain ⟨id, halloc⟩ : ∃ id, (Mutation.lift StateFile.allocateDeviceId).apply state =
      (.ok id, { state with nextDeviceNumber := state.nextDeviceNumber + 1 }) := by
    rcases allocate_cases hmax with ⟨-, hissued⟩ | ⟨hfull, -⟩
    · exact hissued
    · omega
  obtain ⟨e, hfails⟩ : ∃ e, (Mutation.lift StateFile.allocateDeviceId).apply { state with
      nextDeviceNumber := state.nextDeviceNumber + 1 } =
      (.error e, { state with nextDeviceNumber := state.nextDeviceNumber + 1 }) := by
    rcases @allocate_cases { state with nextDeviceNumber := state.nextDeviceNumber + 1 } (Nat.lt_succ_of_lt hmax) with
      ⟨hnext, -⟩ | ⟨-, hfails⟩
    · have hroom : state.nextDeviceNumber + 1 + 1 < 2 ^ 64 := hnext
      omega
    · exact hfails
  refine ⟨e, ?_⟩
  rw [finalizeCeremony, apply_bind, apply_get]
  dsimp only
  rw [hj, apply_bind, apply_orError_some]
  dsimp only
  rw [apply_bind, finalizePhase, hkind]
  dsimp only
  rw [finalizeInitialEnrollment, apply_bind, apply_get]
  dsimp only
  rw [htwo, apply_bind, allocateDeviceIds, apply_bind, halloc]
  dsimp only
  rw [apply_bind, allocateDeviceIds, apply_bind, hfails, ← hj]

end Finalization

/-! ## The closures of the manager -/

/-- The transactions the manager's calls commit: only an adoption finds a mouse wholly stamped, and only an enrollment goes
on with a second mouse. -/
def Txn.Offered : Txn → Prop
  | .pushSubject phase _ allValid => allValid = true → phase = .foreignAdoption
  | .finishStamping phase awaitSecond _ => awaitSecond = true → phase = .initialEnrollment
  | _ => True

theorem offered_of_mayCommit [Crc32fast] {h : History Backend} {t : Txn} (hmay : MayCommit h t) : t.Offered := by
  cases t with
  | pushSubject phase subject allValid =>
    obtain ⟨_, _, -, -, -, hpresented, -⟩ := hmay
    exact fun hall => (hpresented.all.1 hall).1
  | finishStamping phase awaitSecond pendingLast =>
    obtain ⟨_, -, -, hawait, -⟩ := hmay
    intro hsecond
    rw [hsecond] at hawait
    exact of_decide_eq_true (Bool.and_eq_true_iff.1 hawait.symm).1
  | _ => trivial

/-- **What a call commits is offered**, in every run, whatever the others do. -/
theorem commits_offered [Crc32fast] {ι μ : Type} [DecidableEq ι] [DecidableEq μ] {H : Hardware} {owner : ι → μ}
    {ok : Config (machine H owner) → Effects.Move Backend ι Call Outcome H.Env → Prop} {w : World H ι μ}
    {c c' : Config (machine H owner)} (run : Reaches (machine H owner) ok (.idle w) c) {i : ι} {t : Txn} {r}
    (next : Step (machine H owner) c (.op i (.commit t) r) c') : t.Offered := by
  obtain ⟨call, -, hrule⟩ := run.issued Call.keeps next
  rcases MayCommit.of_rule hrule with hmay | hordinary
  · exact offered_of_mayCommit hmay
  · cases t with
    | pushSubject | finishStamping => cases hordinary
    | _ => trivial

/-- **The closure marks a journal, and no number is left to finalize it**: the marked journal is one the validator accepts. -/
def RunsOut (t : Txn) (state : StateFile) : Prop :=
  ∃ current journal, state.identitySetup = some current ∧ Finalizes t current journal ∧
    { state with identitySetup := some journal }.validate = .ok () ∧
    ((journal ≠ current ∧ NoNumberLeft state journal) ∨ OneNumberLeft state journal)

/-- **A closure that fails changes nothing** of the stored state. -/
def FailsCleanly (t : Txn) (state : StateFile) : Prop :=
  ∀ e state', Commits t state (.ok (.error e)) state' → state' = state

section Closures

variable {t : Txn} {state : StateFile} {current journal : IdentitySetupJournal}

theorem spares_changeLastSubject (f : IdentitySetupSubject → IdentitySetupSubject) :
    SparesAt state (Txn.changeLastSubject f) := by
  intro e he
  rcases updateLastSubject_apply f state with ⟨e', hfails⟩ | ⟨current, subject, -, -, hran⟩
  · rw [Txn.changeLastSubject, apply_bind, hfails]
  · rw [Txn.changeLastSubject, apply_bind, hran] at he
    cases he

/-- The failure of the transaction that ends a stamping call. -/
theorem advance_error {phase : IdentitySetupPhase} {awaitSecond : Bool} {pendingLast : Option ProfileId} {e : ManagerError}
    {state' : StateFile} (h : (Txn.advance phase awaitSecond pendingLast).apply state = (.error e, state')) :
    state' = state ∨ ∃ current journal, state.identitySetup = some current ∧
      Finalizes (.finishStamping phase awaitSecond pendingLast) current journal ∧
      (finalizeCeremony false).apply { state with identitySetup := some journal } = (.error e, state') := by
  rcases updateLastSubject_apply (fun subject => pendingLast.elim subject subject.mark) state with
    ⟨e', hfails⟩ | ⟨current, subject, hj, hl, hran⟩
  · rw [Txn.advance, apply_bind, hfails] at h
    cases h
    exact .inl rfl
  · cases awaitSecond with
    | true =>
      rw [Txn.advance, apply_bind, hran] at h
      cases h
    | false =>
      by_cases hphase : phase = .initialEnrollment
      · simp [Txn.advance, apply_bind, hran, hphase] at h
      · rw [Txn.advance_finalizes hj hl hphase] at h
        exact .inr ⟨current, _, hj, .finished rfl hphase hl, h⟩

/-- The failure of a BLE association. -/
theorem associateEndpoint_error {endpoint : DeviceEndpoint} {device : DeviceId} {e : ManagerError} {state' : StateFile}
    (h : (Txn.associateEndpoint endpoint device).apply state = (.error e, state')) :
    state' = state ∨ ∃ current journal, state.identitySetup = some current ∧
      Finalizes (.associate endpoint device) current journal ∧
      (finalizeCeremony false).apply { state with identitySetup := some journal } = (.error e, state') := by
  cases hj : state.identitySetup with
  | none =>
    simp [Txn.associateEndpoint, apply_bind, hj] at h
    exact .inl h.2.symm
  | some current =>
    by_cases hrefuse : current.phase ≠ .bleAssociation ∨ current.stage ≠ .awaitingCapture ∨ current.subjects ≠ []
    · simp [Txn.associateEndpoint, apply_bind, hj, refuseIf, hrefuse] at h
      exact .inl h.2.symm
    · have hguard := hrefuse
      simp only [not_or, not_not] at hguard
      obtain ⟨hphase, -, hempty⟩ := hguard
      cases hfind : Txn.endpointOwner state endpoint device with
      | some taken =>
        simp [Txn.associateEndpoint, apply_bind, hj, refuseIf, hrefuse, hfind] at h
        exact .inl h.2.symm
      | none =>
        refine .inr ⟨current, _, rfl, .associated rfl hphase hempty, ?_⟩
        simp only [Txn.associateEndpoint, apply_bind, apply_get, hj, apply_orError_some, refuseIf, hrefuse, ↓reduceIte,
          apply_pure, hfind, apply_set] at h
        split at h
        · cases h
        · next heq =>
          cases h
          exact heq

/-- **How a closure fails**: it left the state as it was, or its ceremony could not be finalized. -/
theorem Txn.answer_error (hmax : state.maxNumber < state.nextDeviceNumber) {e : ManagerError} (h : t.answer state = .error e) :
    t.after state = state ∨ ∃ current journal skip, state.identitySetup = some current ∧ Finalizes t current journal ∧
      (finalizeCeremony skip).apply { state with identitySetup := some journal } = (.error e, t.after state) := by
  have hran : t.run.apply state = (.error e, t.after state) := Prod.ext h rfl
  cases ht : t.isOrdinary with
  | true => exact .inl (spares_ordinary hmax ht e h)
  | false =>
    cases t with
    | beginCeremony phase => cases h
    | cancelCeremony => cases h
    | pushSubject phase subject allValid =>
      rcases pushSubject_error h with hsame | ⟨rfl, current, hj, rfl, hawaiting, hfails⟩
      · exact .inl hsame
      · exact .inr ⟨current, _, false, hj, .pushed rfl hawaiting, hfails⟩
    | reserveToken token => exact .inl (spares_changeLastSubject _ e h)
    | markStamped profile => exact .inl (spares_changeLastSubject _ e h)
    | finishStamping phase awaitSecond pendingLast =>
      rcases advance_error hran with hsame | ⟨current, journal, hj, hfinal, hfails⟩
      · exact .inl hsame
      · exact .inr ⟨current, journal, false, hj, hfinal, hfails⟩
    | finalizeMigration skip =>
      have hran : (finalizeCeremony skip).apply state = (.error e, (Txn.finalizeMigration skip).after state) := hran
      cases hj : state.identitySetup with
      | none =>
        rw [finalizeCeremony, apply_bind, apply_get] at hran
        dsimp only at hran
        rw [hj] at hran
        exact .inl (Prod.ext_iff.1 hran).2.symm
      | some current =>
        refine .inr ⟨current, current, skip, rfl, .migrated rfl, ?_⟩
        rw [← hj]
        exact hran
    | associate endpoint device =>
      rcases associateEndpoint_error hran with hsame | ⟨current, journal, hj, hfinal, hfails⟩
      · exact .inl hsame
      · exact .inr ⟨current, journal, false, hj, hfinal, hfails⟩
    | _ => cases ht

/-- Only its counter differs. -/
theorem validate_counter {next : Nat} (hv : state.validate = .ok ()) (hnext : state.nextDeviceNumber ≤ next) :
    { state with nextDeviceNumber := next }.validate = .ok () := by
  obtain ⟨hschema, hpos, hmax, hselected, hdevices, hmode, hsetup, hmapping⟩ := StateFile.validate_ok.1 hv
  refine StateFile.validate_ok.2 ⟨hschema, ?_, Nat.lt_of_lt_of_le hmax hnext, hselected, hdevices, hmode, hsetup, hmapping⟩
  exact Nat.pos_iff_ne_zero.1 (Nat.lt_of_lt_of_le (Nat.pos_iff_ne_zero.2 hpos) hnext)

/-- Its journal is that of a valid document, whatever the counter there. -/
theorem validate_setup {setup : Option IdentitySetupJournal} {next : Nat} (hv : state.validate = .ok ())
    (h : { state with identitySetup := setup, nextDeviceNumber := next }.validate = .ok ()) :
    { state with identitySetup := setup }.validate = .ok () := by
  obtain ⟨hschema, hpos, hmax, hselected, hdevices, hmode, -, hmapping⟩ := StateFile.validate_ok.1 hv
  obtain ⟨-, -, -, -, -, -, hsetup, -⟩ := StateFile.validate_ok.1 h
  exact StateFile.validate_ok.2 ⟨hschema, hpos, hmax, hselected, hdevices, hmode, hsetup, hmapping⟩

theorem Finalizes.stage (hfinal : Finalizes t current journal) (hne : journal ≠ current) : journal.stage = .finalizing := by
  cases hfinal with
  | pushed | finished | associated => rfl
  | migrated => exact absurd rfl hne

theorem Finalizes.subjects (hfinal : Finalizes t current journal) (hne : journal ≠ current) : journal.subjects ≠ [] := by
  cases hfinal with
  | pushed | finished | associated => exact List.append_ne_nil_of_right_ne_nil _ (List.cons_ne_nil _ _)
  | migrated => exact absurd rfl hne

/-- The closure ends as the finalization of the journal does. -/
theorem Finalizes.ends (hj : state.identitySetup = some current) (hfinal : Finalizes t current journal)
    (hble : journal.phase ≠ .bleAssociation) : ∃ skip, ∀ e state',
      (finalizeCeremony skip).apply { state with identitySetup := some journal } = (.error e, state') →
      t.answer state = .error e ∧ t.after state = state' := by
  have hsplit {t : Txn} {e : ManagerError} {state' : StateFile}
      (hrun : t.run.apply state = (.error e, state')) : t.answer state = .error e ∧ t.after state = state' :=
    ⟨congrArg Prod.fst hrun, congrArg Prod.snd hrun⟩
  cases hfinal with
  | @pushed subject ht hawaiting =>
    subst ht
    refine ⟨false, fun e state' hrun => hsplit (Eq.trans ?_ hrun)⟩
    show (Txn.journalSubject current.phase subject true).apply state = _
    simp [Txn.journalSubject, apply_bind, hj, refuseIf, hawaiting]
    rfl
  | finished ht henrolls hlast =>
    subst ht
    exact ⟨false, fun e state' hrun => hsplit ((Txn.advance_finalizes hj hlast henrolls _).trans hrun)⟩
  | @migrated skip ht =>
    subst ht
    refine ⟨skip, fun e state' hrun => hsplit (Eq.trans ?_ hrun)⟩
    rw [← hj]
    rfl
  | associated ht hphase hempty => exact absurd hphase hble

theorem validateShape_association {devices : BTreeMap DeviceId DeviceState} (hphase : journal.phase = .bleAssociation)
    (h : journal.validateShape devices = .ok ()) : ∀ subject ∈ journal.subjects, subject.stampProgress.isEmpty = true := by
  unfold IdentitySetupJournal.validateShape at h
  rw [hphase] at h
  intro subject hsubject
  have hchecks := forM_ok.1 h subject hsubject
  simp only [StateFile.then_ok, check_ok] at hchecks
  exact hchecks.2.1

/-- A marked BLE journal is bound to its mouse. -/
theorem Finalizes.bound (hoffered : t.Offered) (hv : state.validate = .ok ()) (hj : state.identitySetup = some current)
    (hfinal : Finalizes t current journal) (hmarked : { state with identitySetup := some journal }.validate = .ok ())
    (hne : journal ≠ current) (hphase : journal.phase = .bleAssociation) :
    ∀ subject ∈ journal.subjects, subject.deviceId.isSome = true := by
  cases hfinal with
  | pushed ht hawaiting =>
    subst ht
    cases (hoffered rfl).symm.trans hphase
  | @finished subject phase pendingLast ht henrolls hlast =>
    exfalso
    obtain ⟨-, -, -, -, hshape⟩ := StateFile.validateIdentitySetup_ok.1 (StateFile.valid_setup hmarked rfl)
    cases pendingLast with
    | some p =>
      have hempty := validateShape_association hphase hshape (subject.mark p)
        (List.mem_append_right _ (List.mem_singleton_self _))
      simp [IdentitySetupSubject.mark] at hempty
    | none =>
      -- nothing was marked: a BLE journal with a subject is in its last stage already
      refine hne ?_
      show (current.withLast subject).withStage .finalizing = current
      rw [IdentitySetupJournal.withLast_self hlast]
      have hvalid := StateFile.valid_stage hv hj
      have hsubjects : current.subjects ≠ [] := by
        intro hnil
        rw [hnil] at hlast
        cases hlast
      cases hstage : current.stage with
      | awaitingCapture =>
        have hble : current.phase ≠ .initialEnrollment := by
          intro henrollment
          cases henrollment.symm.trans hphase
        exact absurd (((IdentitySetupJournal.validateStage_awaiting hstage).1 hvalid).2 hble) hsubjects
      | stamping => exact absurd hphase ((IdentitySetupJournal.validateStage_stamping hstage).1 hvalid).1
      | finalizing =>
        cases current
        cases hstage
        rfl
  | migrated => exact absurd rfl hne
  | associated ht hble hempty =>
    intro subject hsubject
    have honly := List.mem_append.1 hsubject
    rw [hempty] at honly
    rcases honly with hnone | honly
    · cases hnone
    · rw [List.mem_singleton.1 honly]
      rfl

/-- **A closure that fails changes nothing, unless numbers ran out.** -/
theorem failsCleanly_iff (hoffered : t.Offered) (hv : state.validate = .ok ()) : FailsCleanly t state ↔ ¬ RunsOut t state := by
  have hmax := (StateFile.validate_ok.1 hv).2.2.1
  constructor
  · rintro hclean ⟨current, journal, hj, hfinal, hmarked, ⟨hne, hnone⟩ | hone⟩
    · obtain ⟨skip, hends⟩ := hfinal.ends hj hnone.2.1
      obtain ⟨e, hfails⟩ := @fails_unnumbered { state with identitySetup := some journal } _ hmax rfl (hfinal.subjects hne)
        hnone skip
      obtain ⟨hanswer, hafter⟩ := hends e _ hfails
      have hcommit : Commits t state (.ok (t.answer state)) (t.after state) := .stored (by rw [hafter]; exact hmarked)
      rw [hanswer, hafter] at hcommit
      have hsame := congrArg StateFile.identitySetup (hclean e _ hcommit)
      exact hne (Option.some.inj (hsame.trans hj))
    · obtain ⟨skip, hends⟩ := hfinal.ends hj (by rw [hone.1]; nofun)
      obtain ⟨e, hfails⟩ := @fails_halfway { state with identitySetup := some journal } _ hmax rfl hone skip
      obtain ⟨hanswer, hafter⟩ := hends e _ hfails
      have hcommit : Commits t state (.ok (t.answer state)) (t.after state) :=
        .stored (by rw [hafter]; exact validate_counter hmarked (Nat.le_succ _))
      rw [hanswer, hafter] at hcommit
      exact absurd (congrArg StateFile.nextDeviceNumber (hclean e _ hcommit)) (Nat.succ_ne_self _)
  · intro hnot e state' hcommit
    generalize hr : (Except.ok (Except.error e) : Except StateError (Except ManagerError t.Out)) = r at hcommit
    cases hcommit with
    | unchanged _ => rfl
    | rejected _ | failed _ | unsynced _ _ => cases hr
    | stored hvalid =>
      have hanswer : t.answer state = .error e := (Except.ok.inj hr).symm
      rcases t.answer_error hmax hanswer with hsame | ⟨current, journal, skip, hj, hfinal, hfails⟩
      · exact hsame
      -- the journal stays when its finalization fails
      have hjournal : (t.after state).identitySetup = some journal := by
        rcases finalizeCeremony_journal skip { state with identitySetup := some journal } with hkept | ⟨hok, -⟩
        · rw [hfails] at hkept
          exact hkept
        · rw [hfails] at hok
          cases hok
      have hcount : journal.subjects.length ≤ 2 := by
        obtain ⟨-, hcounts, -⟩ := StateFile.validateIdentitySetup_ok.1 (StateFile.valid_setup hvalid hjournal)
        rw [IdentitySetupJournal.validateCounts_ok] at hcounts
        split at hcounts
        · exact hcounts
        · exact Nat.le_succ_of_le hcounts
      rcases @finalizeCeremony_error { state with identitySetup := some journal } _ _ _ hmax rfl hcount _ hfails with
        hsame | ⟨hone, hused⟩
      · rw [hsame] at hvalid ⊢
        by_cases hne : journal = current
        · rw [hne, ← hj]
        · exfalso
          obtain ⟨_, hran⟩ := finalizes_numbered hvalid rfl (hfinal.stage hne)
            (fun hnone => hnot ⟨current, journal, hj, hfinal, hvalid, .inl ⟨hne, hnone⟩⟩)
            (fun hone => hnot ⟨current, journal, hj, hfinal, hvalid, .inr hone⟩)
            (hfinal.bound hoffered hv hj hvalid hne) skip
          cases hfails.symm.trans hran
      · rw [hused] at hvalid
        exact absurd ⟨current, journal, hj, hfinal, validate_setup hv hvalid, .inr hone⟩ hnot

theorem FailsCleanly.after (hclean : FailsCleanly t state) (hvalid : (t.after state).validate = .ok ()) {e : ManagerError}
    (h : t.answer state = .error e) : t.after state = state := by
  have hcommit : Commits t state (.ok (t.answer state)) (t.after state) := .stored hvalid
  rw [h] at hcommit
  exact hclean e _ hcommit

end Closures

/-! ## Ceremonies that go on -/

/-- A stamping call ends on a journal of the phase it stamped for. -/
def Txn.OnOwnPhase (state : StateFile) : Txn → Prop
  | .finishStamping phase _ _ => ∀ current, state.identitySetup = some current → current.phase = phase
  | _ => True

/-- In its last stage a ceremony waits for the user's decision, which only first-time setup does. -/
def StateFile.AwaitsDecision (state : StateFile) : Prop :=
  ∀ journal, state.identitySetup = some journal → journal.stage = .finalizing → journal.phase = .initialEnrollment

/-- **The states the store has held**, the newest first, while numbers lasted. -/
inductive Numbered : List StateFile → Prop where
  | start {state} (valid : state.validate = .ok ()) (idle : state.identitySetup = none) : Numbered [state]
  | step {state state' past} (before : Numbered (state :: past))
      (manages : Manages (fun t => t.Offered ∧ ¬ RunsOut t state ∧ t.OnOwnPhase state) state state') :
      Numbered (state' :: state :: past)

section Waiting

variable {t : Txn} {state state' : StateFile} {journal : IdentitySetupJournal}

theorem StateFile.AwaitsDecision.of_same (hw : state.AwaitsDecision) (h : state'.identitySetup = state.identitySetup) :
    state'.AwaitsDecision := fun journal hj => hw journal (h.symm.trans hj)

theorem StateFile.AwaitsDecision.of_none (h : state.identitySetup = none) : state.AwaitsDecision := by
  intro journal hj
  cases h.symm.trans hj

/-- A journal that only changed its subjects. -/
theorem StateFile.AwaitsDecision.of_withLast (hw : state.AwaitsDecision) (hj : state.identitySetup = some journal)
    {subject : IdentitySetupSubject} (h : state'.identitySetup = some (journal.withLast subject)) : state'.AwaitsDecision := by
  intro journal' hj' hstage
  cases h.symm.trans hj'
  exact hw journal hj hstage

theorem StateFile.AwaitsDecision.of_stage (h : state.identitySetup = some journal) (hstage : journal.stage ≠ .finalizing) :
    state.AwaitsDecision := by
  intro journal' hj' hstage'
  cases h.symm.trans hj'
  exact absurd hstage' hstage

/-- A BLE association that was made ended its ceremony. -/
theorem associateEndpoint_ok {endpoint : DeviceEndpoint} {device : DeviceId}
    {out : IdentityCeremonyProgress} (h : (Txn.associateEndpoint endpoint device).apply state = (.ok out, state')) :
    state'.identitySetup = none := by
  cases hj : state.identitySetup with
  | none => simp [Txn.associateEndpoint, apply_bind, hj] at h
  | some current =>
    by_cases hrefuse : current.phase ≠ .bleAssociation ∨ current.stage ≠ .awaitingCapture ∨ current.subjects ≠ []
    · simp [Txn.associateEndpoint, apply_bind, hj, refuseIf, hrefuse] at h
    · cases hfind : Txn.endpointOwner state endpoint device with
      | some taken => simp [Txn.associateEndpoint, apply_bind, hj, refuseIf, hrefuse, hfind] at h
      | none =>
        simp only [Txn.associateEndpoint, apply_bind, apply_get, hj, apply_orError_some, refuseIf, hrefuse, ↓reduceIte,
          apply_pure, hfind, apply_set] at h
        split at h
        · next heq =>
          cases h
          exact finalizeCeremony_ok heq
        · cases h

/-- **A transaction leaves no ceremony in its last stage** but the one that waits there. -/
theorem Txn.awaitsDecision (hoffered : t.Offered) (hnumbers : ¬ RunsOut t state) (hown : t.OnOwnPhase state)
    (hv : state.validate = .ok ()) (hvalid : (t.after state).validate = .ok ()) (hw : state.AwaitsDecision) :
    (t.after state).AwaitsDecision := by
  cases hanswer : t.answer state with
  | error e =>
    rw [((failsCleanly_iff hoffered hv).2 hnumbers).after hvalid hanswer]
    exact hw
  | ok out =>
    have hran : t.run.apply state = (.ok out, t.after state) := Prod.ext hanswer rfl
    have hstep : JournalStep t state (t.after state) := t.journalStep state
    cases hstep with
    | same keeps => exact hw.of_same keeps
    | begun ht becomes => exact .of_stage becomes nofun
    | @pushed current subject allValid ht was awaiting becomes =>
      subst ht
      obtain ⟨_, -, -, -, ⟨-, hnone⟩ | ⟨rfl, -⟩⟩ := journalSubject_ok hran
      · exact .of_none hnone
      · exact .of_stage becomes nofun
    | reserved ht was last becomes => exact hw.of_withLast was becomes
    | marked ht was last becomes => exact hw.of_withLast was becomes
    | @finished current subject phase awaitSecond pendingLast ht was last becomes =>
      subst ht
      cases awaitSecond with
      | true => exact .of_stage becomes nofun
      | false =>
        by_cases hphase : phase = .initialEnrollment
        · intro journal hj hstage
          cases becomes.symm.trans hj
          exact (hown current was).trans hphase
        · exact .of_none (finalizeCeremony_ok ((advance_finalizes was last hphase pendingLast).symm.trans hran))
    | associated ht was phase empty becomes =>
      subst ht
      exact .of_none (associateEndpoint_ok hran)
    | finalized skip was final_ ran becomes => exact .of_none becomes
    | cancelled ht becomes => exact .of_none becomes

/-- **One operation leaves no ceremony in its last stage** but the one that waits there. -/
theorem Manages.awaitsDecision
    (h : Manages (fun t => t.Offered ∧ ¬ RunsOut t state ∧ t.OnOwnPhase state) state state')
    (hv : state.validate = .ok ()) (hw : state.AwaitsDecision) : state'.AwaitsDecision := by
  rcases h.unhandled with ⟨t, r, ⟨hoffered, hnumbers, hown⟩, h⟩ | ⟨-, hsetup⟩
  · rcases h.cases with rfl | ⟨rfl, hvalid⟩
    · exact hw
    · exact Txn.awaitsDecision hoffered hnumbers hown hv hvalid hw
  · exact hw.of_same hsetup

theorem Numbered.held : ∀ {past : List StateFile} {state : StateFile}, Numbered (state :: past) →
    state.validate = .ok () ∧ state.AwaitsDecision
  | _, _, .start valid idle => ⟨valid, .of_none idle⟩
  | _, _, .step before manages => by
    obtain ⟨hv, hw⟩ := before.held
    exact ⟨(manages.step hv).1, manages.awaitsDecision hv hw⟩

/-- **A ceremony goes on**, unless one that waits for nothing is in its last stage. -/
theorem IdentitySetupJournal.admits_some (hv : journal.validateStage = .ok ())
    (hw : journal.stage = .finalizing → journal.phase = .initialEnrollment) :
    ∃ action ∈ [IdentityCeremonyAction.reconnected, .stamp, .adopt, .associate, .acceptMigration, .skipMigration, .cancel],
      journal.admits action = true := by
  cases hstage : journal.stage with
  | awaitingCapture =>
    obtain ⟨henrolls, hothers⟩ := (validateStage_awaiting hstage).1 hv
    by_cases hble : journal.phase = .bleAssociation
    · have hempty := hothers (by rw [hble]; decide)
      exact ⟨.associate, by decide, admits_associate.2 (by simp [hble, hstage, hempty])⟩
    · refine ⟨.reconnected, by decide, admits_reconnected.2 ⟨hstage, fun h => h.2 (hothers h.1), fun h => ?_⟩⟩
      exact Nat.not_lt_of_le (henrolls h.1).1 h.2
  | stamping =>
    obtain ⟨hble, subject, captured, hlast, -⟩ := (validateStage_stamping hstage).1 hv
    refine ⟨.stamp, by decide, admits_stamp.2 ⟨hstage, hble, fun hnil => ?_⟩⟩
    rw [hnil] at hlast
    cases hlast
  | finalizing =>
    have hphase := hw hstage
    obtain ⟨hcount, hready⟩ := (validateStage_finalizing hstage).1 hv
    rw [if_pos hphase] at hcount
    refine ⟨.acceptMigration, by decide, (admits_migration (.inl rfl)).2 ⟨hphase, hstage, hcount, ?_⟩⟩
    exact List.all_eq_true.2 fun subject hsubject => (hready (by rw [hphase]; decide) subject hsubject).2

end Waiting

/-- **Closures that fail change nothing** exactly where no ceremony runs out of numbers.  While numbers last, and stamping
calls end on journals of their own phase, a ceremony that is in its last stage waits for the user, and every ceremony can go
on or be cancelled. -/
theorem closures_fail_cleanly (state : StateFile) :
    (∀ t, state.validate = .ok () → t.Offered → (FailsCleanly t state ↔ ¬ RunsOut t state)) ∧
    (∀ candidate, SparesAt state (selectCandidate candidate)) ∧
    (∀ device transport, SparesAt state (preferTransport device transport)) ∧
    ∀ past, Numbered (state :: past) → ∀ journal, state.identitySetup = some journal →
      (journal.stage = .finalizing → journal.phase = .initialEnrollment) ∧
      ∃ action ∈ [IdentityCeremonyAction.reconnected, .stamp, .adopt, .associate, .acceptMigration, .skipMigration, .cancel],
        journal.admits action = true := by
  refine ⟨fun t hv hoffered => failsCleanly_iff hoffered hv, fun candidate => spares_selectCandidate,
    fun device transport => spares_preferTransport, fun past hrun journal hj => ?_⟩
  obtain ⟨hv, hw⟩ := hrun.held
  exact ⟨hw journal hj, IdentitySetupJournal.admits_some (StateFile.valid_stage hv hj) (hw journal hj)⟩

end AttackSharkX3

namespace AttackSharkX3.Rig

open Effects.Machine (Config Reaches)

/-- An installation that has no number left, as after a mouse registered under the last key. -/
def exhausted : StateFile := { saved [] with nextDeviceNumber := 2 ^ 64 - 1 }

/-- The end of the last stamping call of a mouse to add. -/
def lastStamp : Txn := .finishStamping .addMouse false (some .MAX_ID)

/-- **A stamping call that fails strands its mouse**: the state it leaves is not the one it found, and the journal there
admits no action.  So it happens in a whole run. -/
theorem strands_addMouse :
    (∃ e state', ({ exhausted with identitySetup := some halfStamped } : StateFile).validate = .ok () ∧
      Commits lastStamp { exhausted with identitySetup := some halfStamped } (.ok (.error e)) state' ∧
      state' ≠ { exhausted with identitySetup := some halfStamped }) ∧
    exhausted.validate = .ok () ∧
    ∃ (c : Config (machine (mice Unit) (id : Unit → Unit))) (journal : IdentitySetupJournal),
      Reaches (machine (mice Unit) id) (fun _ _ => True)
        (.idle (world exhausted (fun _ => unit fun _ => none) [(wired "a", ())])) c ∧
      c.world.store.identitySetup = some journal ∧ journal.phase = .addMouse ∧ journal.stage = .finalizing ∧
      ∀ action ∈ [IdentityCeremonyAction.reconnected, .stamp, .adopt, .associate, .acceptMigration, .skipMigration, .cancel],
        journal.admits action = false := by
  refine ⟨?_, by decide +kernel, ?_⟩
  · have hran : (match lastStamp.answer { exhausted with identitySetup := some halfStamped } with
        | .error _ => decide ((lastStamp.after { exhausted with identitySetup := some halfStamped }).validate = .ok () ∧
          (lastStamp.after { exhausted with identitySetup := some halfStamped }).identitySetup ≠ some halfStamped)
        | .ok _ => false) = true := by decide +kernel
    split at hran
    · next e hanswer =>
      obtain ⟨hvalid, hchanged⟩ := of_decide_eq_true hran
      have hcommit : Commits lastStamp { exhausted with identitySetup := some halfStamped } _ _ := .stored hvalid
      rw [hanswer] at hcommit
      refine ⟨e, _, by decide +kernel, hcommit, fun hsame => hchanged ?_⟩
      rw [hsame]
    · cases hran
  · obtain ⟨c, run, htest⟩ := drawingOne.played id (world exhausted (fun _ => unit fun _ => none) [(wired "a", ())])
      [.enter () addMouse, .finish (), .enter () presentWired, .finish (), .enter () stamp, .finish ()]
      (fun c => c.world.store.identitySetup.any fun (journal : IdentitySetupJournal) =>
        decide (journal.phase = .addMouse ∧ journal.stage = .finalizing) &&
          [IdentityCeremonyAction.reconnected, .stamp, .adopt, .associate, .acceptMigration, .skipMigration, .cancel].all
            fun action => !journal.admits action) (by decide +kernel)
    obtain ⟨journal, hj, htest⟩ := (Option.any_eq_true ..).1 htest
    obtain ⟨hends, hstuck⟩ := Bool.and_eq_true_iff.1 htest
    obtain ⟨hphase, hstage⟩ := of_decide_eq_true hends
    refine ⟨c, journal, run, hj, hphase, hstage, fun action haction => ?_⟩
    exact Bool.not_eq_true' _ ▸ List.all_eq_true.1 hstuck action haction

/-- Where numbers are left, the same stamping call fails cleanly, and a ceremony that is begun can go on. -/
theorem numbered_fails_cleanly : FailsCleanly lastStamp (persistentWith halfStamped) ∧
    ∃ journal, ((Txn.beginCeremony .addMouse).after (saved [])).identitySetup = some journal ∧
      ∃ action ∈ [IdentityCeremonyAction.reconnected, .stamp, .adopt, .associate, .acceptMigration, .skipMigration, .cancel],
        journal.admits action = true := by
  have hnumbers (t : Txn) {state : StateFile} (hnext : state.nextDeviceNumber = 1) : ¬ RunsOut t state := by
    rintro ⟨_, _, -, -, -, ⟨-, -, -, hfull⟩ | ⟨-, -, hlast⟩⟩
    · rw [hnext] at hfull
      exact absurd hfull (by decide)
    · rw [hnext] at hlast
      exact absurd hlast (by decide)
  constructor
  · exact ((closures_fail_cleanly _).1 lastStamp (by decide +kernel) nofun).2 (hnumbers _ rfl)
  · have hstart : Numbered [saved []] := .start (by decide +kernel) rfl
    have hbegun : Numbered [(Txn.beginCeremony .addMouse).after (saved []), saved []] :=
      hstart.step (.transaction (t := .beginCeremony .addMouse) ⟨trivial, hnumbers _ rfl, trivial⟩
        (.stored (by decide +kernel)))
    exact ⟨_, rfl, ((closures_fail_cleanly _).2.2.2 _ hbegun _ rfl).2⟩

end AttackSharkX3.Rig
