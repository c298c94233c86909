import AttackSharkX3.Migrated
/-!
# Meanwhile — what leaves a mouse where it is

A mouse has other endpoints, or another token, only after a scan, a ceremony or an answer about it.  The other operations
leave it where it is.
-/
namespace AttackSharkX3

open Mutation (apply_bind apply_get)

/-! ## What leaves a mouse where it is -/

/-- The mouse, if it is still saved, has the endpoints and the token it had. -/
def StaysPut (d : DeviceId) (state after : StateFile) : Prop :=
  ∀ mouse', after.devices[d]? = some mouse' → ∃ mouse, state.devices[d]? = some mouse ∧
    mouse'.identity.endpoints = mouse.identity.endpoints ∧ mouse'.identity.physicalId = mouse.identity.physicalId

namespace StaysPut

variable {d : DeviceId} {state after : StateFile}

instance : IsPreorder StateFile (StaysPut d) where
  refl _ mouse hd := ⟨mouse, hd, rfl, rfl⟩
  trans a b c hab hbc := by
    intro mouse'' hd
    obtain ⟨mouse', hd', hendpoints', htoken'⟩ := hbc mouse'' hd
    obtain ⟨mouse, hd, hendpoints, htoken⟩ := hab mouse' hd'
    exact ⟨mouse, hd, hendpoints'.trans hendpoints, htoken'.trans htoken⟩

theorem of_same (h : after.devices[d]? = state.devices[d]?) : StaysPut d state after :=
  fun mouse hd => ⟨mouse, h.symm.trans hd, rfl, rfl⟩

/-- A saved mouse replaced by one with the same endpoints and token. -/
theorem of_insert {id : DeviceId} {mouse mouse' : DeviceState} (hid : state.devices[id]? = some mouse)
    (hendpoints : mouse'.identity.endpoints = mouse.identity.endpoints)
    (htoken : mouse'.identity.physicalId = mouse.identity.physicalId) :
    StaysPut d state { state with devices := state.devices.insert id mouse' } := by
  intro found hfound
  have hfound : (state.devices.insert id mouse')[d]? = some found := hfound
  by_cases hne : id = d
  · subst hne
    rw [BTreeMap.get_insert_self] at hfound
    cases hfound
    exact ⟨mouse, hid, hendpoints, htoken⟩
  · rw [BTreeMap.get_insert_of_ne _ hne] at hfound
    exact ⟨found, hfound, rfl, rfl⟩

/-- Another mouse put in. -/
theorem of_insert_ne {id : DeviceId} {mouse' : DeviceState} {mapping : EndpointMapping} (hne : id ≠ d) :
    StaysPut d state { state with devices := state.devices.insert id mouse', endpointMapping := mapping } :=
  of_same (BTreeMap.get_insert_of_ne state.devices hne mouse')

end StaysPut

/-- The transaction is no scan's and answers no question about the mouse. -/
def Txn.Away (d : DeviceId) : Txn → Prop
  | .attachSilently .. | .syncEndpointAssociations .. => False
  | .rememberResolution _ device _ | .updateLocator device _ => device ≠ d
  | t => t.isOrdinary = true

section Transactions

variable {d : DeviceId} {state state' : StateFile}

abbrev StaysPutAt {α : Type} (d : DeviceId) (state : StateFile) (m : Mutation α) : Prop := LeavesAt (StaysPut d) state m

theorem stays_persistWrite {T : Type} [DecidableEq T] {sect : Section T} {device : DeviceId} {profile : ProfileId}
    {desired : T} {write : SessionWrite T} {now : Timestamp} :
    StaysPutAt d state (persistWrite sect device profile desired write now) := by
  refine .bind_get (.bind_orError fun deviceState hd => ?_)
  refine .bind (StaysPut.of_insert hd ?_ ?_) fun _ _ _ => .of_pure
  · rfl
  · rfl

/-- The key was issued: a mouse that is forgotten does not come back under it. -/
def Issued (state : StateFile) (d : DeviceId) : Prop :=
  ∃ n, d.number = some n ∧ n < state.nextDeviceNumber

theorem Issued.mono (hd : Issued state d) (h : state.nextDeviceNumber ≤ state'.nextDeviceNumber) : Issued state' d := by
  obtain ⟨n, hn, hlt⟩ := hd
  exact ⟨n, hn, Nat.lt_of_lt_of_le hlt h⟩

/-- Nothing appears under a key that was issued. -/
theorem Issued.contains (hd : Issued state d) (t : Txn) (h : (t.after state).devices.contains d = true) :
    state.devices.contains d = true := by
  obtain ⟨n, hn, hlt⟩ := hd
  rcases (Txn.issues t state).keys d h with hsaved | ⟨m, hm, hle⟩
  · exact hsaved
  · rw [hn] at hm
    cases hm
    omega

/-- **An ordinary transaction leaves a mouse where it is**, unless it puts an endpoint under it. -/
theorem Txn.staysPut {t : Txn} (ht : t.Away d) (hd : Issued state d) : StaysPut d state (t.after state) := by
  show StaysPutAt d state t.run
  cases t with
  | ensureLegacyMouse discovered =>
    by_cases hempty : state.devices.isEmpty = true
    · intro mouse hmouse
      have hsaved : state.devices.contains d = true := by
        refine hd.contains (.ensureLegacyMouse discovered) ?_
        rw [Std.ExtTreeMap.contains_eq_isSome_getElem?]
        exact Option.isSome_of_mem hmouse
      rw [Std.ExtTreeMap.isEmpty_iff] at hempty
      rw [hempty] at hsaved
      simp at hsaved
    · refine .bind_get ?_
      show StaysPut d state ((if state.devices.isEmpty = true then _ else pure () : Mutation Unit).apply state).2
      rw [if_neg hempty]
      exact refl state
  | attachSilently | syncEndpointAssociations => exact ht.elim
  | rememberResolution endpoint device now =>
    exact .bind_get (.bind_orError fun deviceState hd => StaysPut.of_insert_ne ht)
  | persistDpi | persistPreferences | persistButtons | persistPollingRate => exact stays_persistWrite
  | persistProfile device profile writes now =>
    exact .bind (.mapM fun _ _ => stays_persistWrite) fun _ _ _ => .bind (.mapM fun _ _ => stays_persistWrite) fun _ _ _ =>
      .bind (.mapM fun _ _ => stays_persistWrite) fun _ _ _ => .of_pure
  | persistObservation device target snapshot pollingRate persistence verifiedAt =>
    refine .bind_get (.bind_orError fun deviceState hd => StaysPut.of_insert hd ?_ ?_)
    · rfl
    · rfl
  | persistMetadata device target observed now =>
    refine .bind_get (.bind_orError fun deviceState hd => StaysPut.of_insert hd ?_ ?_)
    · rfl
    · rfl
  | reconcile device metadata profiles now =>
    refine .bind_get (.bind_orError fun deviceState hd => .bind (StaysPut.of_insert hd ?_ ?_) fun _ _ _ => .of_pure)
    · rfl
    · rfl
  | updateLocator device endpoint =>
    exact .bind_get (.bind_orError fun deviceState hd => StaysPut.of_insert_ne ht)
  | beginCeremony | pushSubject | reserveToken | markStamped | finishStamping | finalizeMigration | associate
  | cancelCeremony => cases ht

theorem Txn.Away.isOrdinary {t : Txn} (ht : t.Away d) : t.isOrdinary = true := by
  cases t with
  | attachSilently | syncEndpointAssociations => exact ht.elim
  | rememberResolution | updateLocator => rfl
  | _ => exact ht

end Transactions

/-! ## Other operations -/

/-- **One operation that is no scan**, and answers no question about the mouse. -/
inductive Meanwhile (d : DeviceId) (state : StateFile) : StateFile → Prop where
  | transaction {t r state'} (away : t.Away d) (h : Commits t state r state') : Meanwhile d state state'
  | registerDevice {identity r state'} (known : identity.id = d → state.devices.contains d = true)
      (h : Transacts (registerDevice identity) state r state') : Meanwhile d state state'
  | importConfiguration {identity configuration now r state'}
      (known : identity.id = d → ∃ mouse, state.devices[d]? = some mouse ∧ mouse.identity = identity)
      (h : importConfiguration identity configuration now state r state') : Meanwhile d state state'
  | forgetDevice {device force r state'} (h : Transacts (removeDevice device force) state r state') : Meanwhile d state state'
  | renameDevice {device name r state'} (h : Transacts (renameDevice device name) state r state') : Meanwhile d state state'
  | setProfileName {device profile name r state'} (h : Transacts (setProfileName device profile name) state r state') :
      Meanwhile d state state'
  | removeProfileName {device profile r state'} (h : Transacts (removeProfileName device profile) state r state') :
      Meanwhile d state state'
  | invalidateState {device r state'} (h : Transacts (invalidateState device) state r state') : Meanwhile d state state'
  | selectDevice {device r state'} (h : Transacts (selectDevice device) state r state') : Meanwhile d state state'
  | setPreferredTransport {device transport r state'} (h : Transacts (setPreferredTransport device transport) state r state') :
      Meanwhile d state state'

section Operations

variable {d : DeviceId} {state state' : StateFile}

theorem Meanwhile.manages (h : Meanwhile d state state') : Manages (Txn.Away d) state state' := by
  cases h with
  | transaction away h => exact .transaction away h
  | registerDevice _ h => exact .registerDevice h
  | importConfiguration _ h => exact .importConfiguration h
  | forgetDevice h => exact .forgetDevice h
  | renameDevice h => exact .renameDevice h
  | setProfileName h => exact .setProfileName h
  | removeProfileName h => exact .removeProfileName h
  | invalidateState h => exact .invalidateState h
  | selectDevice h => exact .selectDevice h
  | setPreferredTransport h => exact .setPreferredTransport h

theorem Transacts.staysPut {A : Type} {body : StateFile → Except ManagerError (A × StateFile)} {r : Except ManagerError A}
    (h : Transacts body state r state') (hbody : ∀ a after, body state = .ok (a, after) → StaysPut d state after) :
    StaysPut d state state' := by
  rcases h.cases with rfl | ⟨a, hgives, -⟩
  · exact refl _
  · exact hbody a _ hgives

theorem staysPut_changeDevice {device : DeviceId} {change : DeviceState → DeviceState}
    (hendpoints : ∀ mouse, (change mouse).identity.endpoints = mouse.identity.endpoints)
    (htoken : ∀ mouse, (change mouse).identity.physicalId = mouse.identity.physicalId) (a : Unit) (after : StateFile)
    (h : changeDevice device change state = .ok (a, after)) : StaysPut d state after := by
  unfold changeDevice at h
  split at h
  · cases h
  · next mouse hd =>
    cases h
    exact .of_insert hd (hendpoints mouse) (htoken mouse)

/-- **An operation that answers nothing about a mouse leaves it where it is.** -/
theorem Meanwhile.staysPut (h : Meanwhile d state state') (hd : Issued state d) : StaysPut d state state' := by
  cases h with
  | transaction away h =>
    rcases h.cases with rfl | ⟨rfl, -⟩
    · exact refl _
    · exact Txn.staysPut away hd
  | @registerDevice identity _ _ known h =>
    refine h.staysPut fun a after hbody => ?_
    unfold AttackSharkX3.registerDevice at hbody
    cases hreserve : state.reserveNumber identity.id with
    | error e =>
      rw [hreserve] at hbody
      cases hbody
    | ok reserved =>
      obtain ⟨n, -, rfl, -⟩ := reserveNumber_ok hreserve
      rw [hreserve] at hbody
      cases hbody
      refine .of_same ?_
      show (state.devices.insertIfNew identity.id (.new identity))[d]? = state.devices[d]?
      rw [Std.ExtTreeMap.getElem?_insertIfNew, if_neg]
      rintro ⟨heq, hnew⟩
      have hid : identity.id = d := Std.compare_eq_iff_eq.1 heq
      exact hnew (Std.ExtTreeMap.mem_iff_contains.2 (hid ▸ known hid))
  | @importConfiguration identity configuration now _ _ known h =>
    unfold AttackSharkX3.importConfiguration at h
    split at h
    · obtain ⟨-, rfl⟩ := h
      exact refl _
    · refine h.staysPut fun a after hbody => ?_
      obtain ⟨n, profiles, profileNames, -, -, -, -, rfl⟩ := importInto_ok hbody
      by_cases hid : identity.id = d
      · obtain ⟨mouse, hmouse, hsame⟩ := known hid
        have hmouse : state.devices[identity.id]? = some mouse := hid ▸ hmouse
        exact (StaysPut.of_insert hmouse (congrArg _ hsame.symm) (congrArg _ hsame.symm))
      · exact .of_same (BTreeMap.get_insert_of_ne state.devices hid _)
  | forgetDevice h =>
    refine h.staysPut fun a after hbody => ?_
    unfold removeDevice at hbody
    split at hbody
    · cases hbody
    · split at hbody
      · cases hbody
        exact refl _
      · cases hbody
        exact fun mouse hmouse => ⟨mouse, (StateFile.of_withoutDevice hmouse).2, rfl, rfl⟩
  | renameDevice h => exact h.staysPut (staysPut_changeDevice (fun _ => rfl) fun _ => rfl)
  | removeProfileName h => exact h.staysPut (staysPut_changeDevice (fun _ => rfl) fun _ => rfl)
  | invalidateState h => exact h.staysPut (staysPut_changeDevice (fun _ => rfl) fun _ => rfl)
  | setPreferredTransport h => exact h.staysPut (staysPut_changeDevice (fun _ => rfl) fun _ => rfl)
  | setProfileName h =>
    refine h.staysPut fun a after hbody => ?_
    unfold AttackSharkX3.setProfileName at hbody
    split at hbody
    · cases hbody
    · refine staysPut_changeDevice ?_ ?_ _ _ hbody
      · exact fun _ => rfl
      · exact fun _ => rfl
    · refine staysPut_changeDevice ?_ ?_ _ _ hbody
      · exact fun _ => rfl
      · exact fun _ => rfl
  | selectDevice h =>
    refine h.staysPut fun a after hbody => ?_
    unfold AttackSharkX3.selectDevice at hbody
    split at hbody
    · cases hbody
      exact .of_same rfl
    · cases hbody

end Operations

end AttackSharkX3
