import AttackSharkX3.Associations
import AttackSharkX3.Carried
import AttackSharkX3.Meanwhile
import AttackSharkX3.Reappears
import AttackSharkX3.Rotates
/-!
# Severed — a restored mouse and its old connections

A restore leaves its mouse one endpoint and a new token.  It does not touch what is remembered of endpoints, and a scan
attaches a sole unknown connection without asking.  Where no scan does that, what resolves to the mouse presents its new
token, and the mouse is opened where it was restored or where that token was seen since.
-/
namespace AttackSharkX3

open Effects (Fallible)
open Mutation (apply_bind apply_get)

/-! ## Scans -/

/-- **The scan attaches without asking**, and the mouse gets the connection: it is the sole unknown one, or one that is
listed, not connected and remembered for the mouse. -/
def Reattaches (state : StateFile) (rows : List ResolvedConnection) (d : DeviceId) : Prop :=
  ∃ u m, unknownRows rows = [u] ∧ state.identitySetup = none ∧ silentAttachment state 1 u = some m ∧
    (m = d ∨ ∃ row ∈ rows, row.connected = false ∧ row.resolution.isUnknown = true ∧
      rememberedDeviceIn state row.endpoint = some d ∧ endpointFingerprint u.endpoint ≠ endpointFingerprint row.endpoint)

section Scans

variable {bench : Bench} {selection : TransportSelection} {d : DeviceId} {state : StateFile} {now : Timestamp}
  {rows : List ResolvedConnection} {row : ResolvedConnection}

/-- A row that belongs to the mouse belonged to it before anything was attached. -/
theorem mem_of_scanConnections (hspared : ¬ Reattaches state rows d) (hrow : row ∈ scanConnections now state rows)
    (hres : row.resolution = .resolved d) : row ∈ rows := by
  rcases silentAttachments_cases state rows with hnone | ⟨u, m, hsole, hsetup, hu, hsilent⟩
  · rw [scanConnections, hnone] at hrow
    exact hrow
  · obtain ⟨mouse, hmouse⟩ := silentAttachment_saved hu
    simp only [scanConnections, hsilent, List.isEmpty_cons, Bool.false_eq_true, if_false, silentlyAttached,
      List.foldl_cons, List.foldl_nil, attachSilently_after hmouse] at hrow
    rcases mem_reresolve hrow with hold | ⟨row₀, hrow₀, d', hunknown, hremembers, rfl⟩
    · exact hold
    · exfalso
      cases hres
      have hremembered := (Option.filter_eq_some_iff.1 hremembers).1
      rw [rememberedDeviceIn_attach hmouse] at hremembered
      split at hremembered
      · cases hremembered
        exact hspared ⟨u, d, hsole, hsetup, hu, .inl rfl⟩
      · next hne =>
        cases hconnected : row₀.connected with
        | true =>
          have hmem : row₀ ∈ unknownRows rows := mem_unknownRows.2 ⟨hrow₀, hconnected, hunknown⟩
          rw [hsole, List.mem_singleton] at hmem
          rw [hmem] at hne
          exact hne rfl
        | false => exact hspared ⟨u, m, hsole, hsetup, hu, .inr ⟨row₀, hrow₀, hconnected, hunknown, hremembered, hne⟩⟩

/-- Nothing is put under the mouse before the rows are synchronized. -/
theorem staysPut_silentlyAttached (hspared : ¬ Reattaches state rows d) :
    StaysPut d state (silentlyAttached now state (silentAttachments state rows)) := by
  rcases silentAttachments_cases state rows with hnone | ⟨u, m, hsole, hsetup, hu, hsilent⟩
  · rw [hnone]
    exact refl state
  · obtain ⟨mouse, hmouse⟩ := silentAttachment_saved hu
    have hne : m ≠ d := fun heq => hspared ⟨u, m, hsole, hsetup, hu, .inl heq⟩
    rw [hsilent, silentlyAttached, List.foldl_cons, List.foldl_nil, attachSilently_after hmouse]
    exact .of_insert_ne hne

/-- A Bluetooth row belongs to a mouse that has a Bluetooth endpoint. -/
theorem ble_of_resolved {cache : IdentityCache} {discovered : List DiscoveredEndpoint} (hv : state.validate = .ok ())
    (hrow : row ∈ resolveScanRows .persistent cache state discovered) (hble : row.endpoint.transport = .ble)
    (hres : row.resolution = .resolved d) :
    ∃ mouse endpoint, state.devices[d]? = some mouse ∧ mouse.identity.endpoints[TransportKind.ble]? = some endpoint := by
  obtain ⟨disc, -, hendpoint, -, hcases⟩ := mem_resolveScanRows hrow
  rw [hendpoint] at hble
  rw [hres] at hcases
  have hfound : resolveConnection state.devices state.identitySetup none disc.endpoint
      (scanDecode .persistent cache disc) = .resolved d := by
    rcases hcases with hfound | ⟨_, -, hduplicate⟩
    · exact hfound.symm
    · cases hduplicate
  simp only [resolveConnection, hble] at hfound
  split at hfound
  · next mouse hfind =>
    obtain ⟨key, hkey⟩ := BTreeMap.mem_values.1 (List.mem_of_find?_eq_some hfind)
    have hid : mouse.identity.id = d := IdentityResolution.resolved.inj hfound
    rw [StateFile.valid_identity hv hkey] at hid
    subst hid
    have hlocated := List.find?_some hfind
    obtain ⟨endpoint, hhas, -⟩ := (Option.any_eq_true ..).1 hlocated
    exact ⟨mouse, endpoint, hkey, hhas⟩
  · cases hfound

theorem Bench.of_call_bind_error {α β : Type} {x : Manager α} {f : α → Manager β} {desk desk' : Desk} {e : ManagerError}
    (h : bench.call (x >>= f) desk = some (.error e, desk')) : bench.call x desk = some (.error e, desk') ∨
      ∃ a desk₁, bench.call x desk = some (.ok a, desk₁) ∧ bench.call (f a) desk₁ = some (.error e, desk') :=
  Fallible.of_exec_bind_error h

/-- **A commit that failed** left the store, if its closure had nothing to refuse. -/
theorem Bench.of_call_commit_error {t : Txn} {out : t.Out} {desk desk' : Desk} {e : ManagerError}
    (h : bench.call (Manager.commit t) desk = some (.error e, desk')) (hanswer : t.answer desk.store = .ok out) :
    desk'.store = desk.store := by
  rw [call_commit, Option.some.injEq, Prod.mk.injEq] at h
  obtain ⟨herror, rfl⟩ := h
  dsimp only
  unfold commitReliably at herror ⊢
  split
  · rfl
  · next hchanged =>
    rw [if_neg hchanged] at herror
    split
    · next hvalid =>
      rw [hvalid, hanswer] at herror
      cases herror
    · rfl

theorem attachSilently_answer {endpoint : DeviceEndpoint} : (Txn.attachSilently endpoint d now).answer state = .ok () := by
  unfold Txn.answer Txn.run
  dsimp only
  rw [apply_bind, apply_get]
  dsimp only
  cases state.devices[d]? with
  | none => rfl
  | some mouse => rfl

/-- An attachment that failed was not stored: there is one at most. -/
theorem autoResolveUnknowns_error {desk desk' : Desk} {e : ManagerError}
    (h : bench.call (autoResolveUnknowns rows) desk = some (.error e, desk')) : desk'.store = desk.store := by
  rcases Bench.of_call_bind_error h with hload | ⟨state, desk₀, hload, h₁⟩
  · cases hload
  obtain ⟨rfl, rfl⟩ := Bench.of_call_load hload
  rcases silentAttachments_cases desk₀.store rows with hnone | ⟨u, m, -, -, -, hsilent⟩
  · simp only [hnone, List.isEmpty_nil, if_true] at h₁
    cases h₁
  simp only [hsilent, List.isEmpty_cons, Bool.false_eq_true, if_false] at h₁
  rcases Bench.of_call_bind_error h₁ with hattach | ⟨_, desk₁, -, h₂⟩
  · rcases Bench.of_call_bind_error hattach with hnow | ⟨now, desk₁, hnow, h₂⟩
    · cases hnow
    cases hnow
    rcases Bench.of_call_bind_error h₂ with hcommit | ⟨_, desk₂, -, h₃⟩
    · exact Bench.of_call_commit_error hcommit attachSilently_answer
    · cases h₃
  · rcases Bench.of_call_bind_error h₂ with hload | ⟨state, desk₂, -, h₃⟩
    · cases hload
    · cases h₃

theorem syncEndpointAssociations_error {desk desk' : Desk} {e : ManagerError}
    (h : bench.call (syncEndpointAssociations rows selection) desk = some (.error e, desk')) :
    desk'.cache = desk.cache ∧ desk'.store = desk.store := by
  have h : bench.call (if anyResolved rows = true then
      (Manager.commit (.syncEndpointAssociations rows selection) : Manager Unit) else pure ()) desk =
        some (.error e, desk') := h
  split at h
  · have hstore : desk'.store = desk.store := Bench.of_call_commit_error h rfl
    rw [Bench.call_commit, Option.some.injEq, Prod.mk.injEq] at h
    refine ⟨?_, hstore⟩
    rw [← h.2]
  · cases h

variable [Crc32fast]

/-- **A scan that fails** leaves the store, or what it attached. -/
theorem discover_error {desk desk' : Desk} {e : ManagerError} (hmode : desk.store.identityMode = .persistent)
    (h : bench.call (discover selection) desk = some (.error e, desk')) : desk'.store = desk.store ∨
      desk'.store = silentlyAttached bench.now desk.store
        (silentAttachments desk.store (scanRows bench selection desk.store desk'.cache)) := by
  rcases Bench.of_call_bind_error h with hlist | ⟨discovered, desk₀, hlist, h₁⟩
  · have hcall : bench.call (Manager.list selection) desk = some (bench.list selection, desk) := rfl
    rw [hcall, Option.some.injEq, Prod.mk.injEq] at hlist
    exact .inl (congrArg Desk.store hlist.2.symm)
  obtain ⟨hlisted, rfl⟩ := Bench.of_call_list hlist
  rcases Bench.of_call_bind_error h₁ with hload | ⟨before, desk₀, hload, h₂⟩
  · cases hload
  obtain ⟨rfl, rfl⟩ := Bench.of_call_load hload
  simp only [hmode, ensureLegacyMouse, if_true, reduceCtorEq, false_and] at h₂
  rcases Bench.of_call_bind_error h₂ with hlegacy | ⟨_, desk₀, hlegacy, h₃⟩
  · cases hlegacy
  obtain ⟨-, rfl⟩ := Bench.of_call_pure hlegacy
  rcases Bench.of_call_bind_error h₃ with hauthenticate | ⟨_, desk₁, hauthenticate, h₄⟩
  · exact .inl (Bench.call_calm (calm_authenticateScan discovered) hauthenticate).1
  have hstore₁ := (Bench.call_calm (calm_authenticateScan discovered) hauthenticate).1
  rcases Bench.of_call_bind_error h₄ with hcached | ⟨identities, desk₁, hcached, h₅⟩
  · cases hcached
  obtain ⟨rfl, rfl⟩ := Bench.of_call_cached hcached
  rcases Bench.of_call_bind_error h₅ with hload | ⟨state, desk₁, hload, h₆⟩
  · cases hload
  obtain ⟨rfl, rfl⟩ := Bench.of_call_load hload
  rcases Bench.of_call_bind_error h₆ with hauto | ⟨rows, desk₂, hauto, h₇⟩
  · exact .inl ((autoResolveUnknowns_error hauto).trans hstore₁)
  obtain ⟨rfl, hcache₂, hstore₂, -⟩ := autoResolveUnknowns_ok hauto
  rcases Bench.of_call_bind_error h₇ with hsync | ⟨_, desk₃, hsync, h₈⟩
  · obtain ⟨hcache₃, hstore₃⟩ := syncEndpointAssociations_error hsync
    refine .inr ?_
    rw [hstore₃, hstore₂, hstore₁, scanRows, hlisted, hcache₃, hcache₂]
  · rcases Bench.of_call_bind_error h₈ with hload | ⟨state, desk₃, hload, h₉⟩
    · cases hload
    · obtain ⟨rfl, rfl⟩ := Bench.of_call_load hload
      cases h₉

end Scans

/-! ## The mouse, restored -/

/-- **The mouse has the token**, and only endpoints that are allowed, none of them Bluetooth, in an installation at rest. -/
structure Severed (d : DeviceId) (token : PhysicalId) (allowed : DeviceEndpoint → Prop) (state : StateFile) : Prop where
  valid : state.validate = .ok ()
  persistent : state.identityMode = .persistent
  idle : state.identitySetup = none
  issued : Issued state d
  has : ∀ mouse, state.devices[d]? = some mouse → mouse.identity.physicalId = some token
  places : ∀ mouse, state.devices[d]? = some mouse → ∀ kind endpoint, mouse.identity.endpoints[kind]? = some endpoint →
    kind ≠ TransportKind.ble ∧ allowed endpoint

namespace Severed

variable {d : DeviceId} {token : PhysicalId} {allowed : DeviceEndpoint → Prop} {state state' : StateFile}

theorem of_staysPut (hs : Severed d token allowed state) (hv : state'.validate = .ok ())
    (hmode : state'.identityMode = .persistent) (hidle : state'.identitySetup = none)
    (hcounter : state.nextDeviceNumber ≤ state'.nextDeviceNumber) (hstays : StaysPut d state state') :
    Severed d token allowed state' := by
  refine ⟨hv, hmode, hidle, hs.issued.mono hcounter, fun mouse' hmouse' => ?_, fun mouse' hmouse' kind endpoint hget => ?_⟩
  · obtain ⟨mouse, hmouse, -, htoken⟩ := hstays mouse' hmouse'
    exact htoken.trans (hs.has mouse hmouse)
  · obtain ⟨mouse, hmouse, hendpoints, -⟩ := hstays mouse' hmouse'
    rw [hendpoints] at hget
    exact hs.places mouse hmouse kind endpoint hget

theorem mono {allowed' : DeviceEndpoint → Prop} (hs : Severed d token allowed state)
    (h : ∀ endpoint, allowed endpoint → allowed' endpoint) : Severed d token allowed' state :=
  { hs with places := fun mouse hmouse kind endpoint hget =>
      ⟨(hs.places mouse hmouse kind endpoint hget).1, h endpoint (hs.places mouse hmouse kind endpoint hget).2⟩ }

/-- Other operations keep it so. -/
theorem meanwhile (hs : Severed d token allowed state) (h : Meanwhile d state state') : Severed d token allowed state' := by
  obtain ⟨hv, hcounter⟩ := h.manages.step hs.valid
  have hkept : state'.identityMode = .persistent ∧ state'.identitySetup = none := by
    rcases h.manages.unhandled with ⟨t, r, away, hcommits⟩ | ⟨hbacks, hsetup⟩
    · rcases hcommits.cases with rfl | ⟨rfl, -⟩
      · exact ⟨hs.persistent, hs.idle⟩
      · exact ⟨(Retains.ordinary ordinarilyKept_identityMode away.isOrdinary state).trans hs.persistent,
          (Retains.ordinary ordinarilyKept_identitySetup away.isOrdinary state).trans hs.idle⟩
    · refine ⟨?_, hsetup.trans hs.idle⟩
      cases hmode : state'.identityMode with
      | persistent => rfl
      | legacy => exact absurd (hbacks.mode hmode) (by rw [hs.persistent]; nofun)
  exact hs.of_staysPut hv hkept.1 hkept.2 hcounter (h.staysPut hs.issued)

variable [Crc32fast] {bench : Bench} {selection : TransportSelection} {cache : IdentityCache} {view : DiscoveryView}
  {desk' : Desk}

omit [Crc32fast] in
/-- **What a scan resolves to the mouse presents its token.** -/
theorem presents {rows : List ResolvedConnection} (hs : Severed d token allowed state)
    (hscan : Scanned bench selection ⟨state, cache, []⟩ view desk' rows) (hspared : ¬ Reattaches state rows d)
    {row : ResolvedConnection} (hrow : row ∈ view.connections) (hres : row.resolution = .resolved d) :
    row.endpoint.transport ≠ .ble ∧ desk'.cache.lookup row.endpoint = some (.valid token) := by
  have hmem : row ∈ rows := mem_of_scanConnections hspared (hscan.connections ▸ hrow) hres
  have hble : row.endpoint.transport ≠ .ble := by
    intro hble
    obtain ⟨discovered, -, hrows⟩ := hscan.listed
    obtain ⟨mouse, endpoint, hmouse, hget⟩ := ble_of_resolved hs.valid (hrows ▸ hmem) hble hres
    exact (hs.places mouse hmouse _ _ hget).1 rfl
  have husb : isUsbTransport row.endpoint.transport = true := by
    cases ht : row.endpoint.transport with
    | ble => exact absurd ht hble
    | wired | receiver => rfl
  have hresolves := hscan.resolvesTo hs.valid hmem (hscan.usb_connected hrow husb) husb
  rw [hres] at hresolves
  obtain ⟨T, hT, hown, -⟩ := hresolves.of_resolved
  obtain ⟨mouse, hmouse, hhas⟩ := StateFile.of_physicalIdOf hown
  have hsame : T = token := Option.some.inj (hhas.symm.trans (hs.has mouse hmouse))
  exact ⟨hble, hsame ▸ hT⟩

omit [Crc32fast] in
theorem issues_silentlyAttached {now : Timestamp} : ∀ (silent : List (DeviceEndpoint × DeviceId)) (state : StateFile),
    Issues state (silentlyAttached now state silent)
  | [], state => refl state
  | entry :: silent, state => IsTrans.trans _ _ _ (Txn.issues (.attachSilently entry.1 entry.2 now) state) (issues_silentlyAttached silent _)

/-- **A scan that attaches nothing to the mouse** leaves it where it was or was seen. -/
theorem scanned (hs : Severed d token allowed state)
    (h : bench.call (discover selection) ⟨state, cache, []⟩ = some (.ok view, desk'))
    (hspared : ¬ Reattaches state (scanRows bench selection state desk'.cache) d) :
    Severed d token (fun endpoint => endpoint ∈ rowsOf view.connections d ∨ allowed endpoint) desk'.store := by
  have hscan : Scanned bench selection ⟨state, cache, []⟩ view desk' _ := discover_ok hs.persistent h
  have hattached := @staysPut_silentlyAttached d state bench.now _ hspared
  have hcounter : state.nextDeviceNumber ≤ desk'.store.nextDeviceNumber := by
    rw [hscan.store]
    exact Nat.le_trans (issues_silentlyAttached _ state).counter (Txn.issues _ _).counter
  have hsynced : ∀ mouse', desk'.store.devices[d]? = some mouse' → ∃ middle mouse,
      mouse' = Txn.syncDevice view.connections selection d middle ∧ state.devices[d]? = some mouse ∧
        middle.identity.endpoints = mouse.identity.endpoints ∧ middle.identity.physicalId = mouse.identity.physicalId := by
    intro mouse' hmouse'
    rw [hscan.store] at hmouse'
    obtain ⟨middle, hmiddle, rfl⟩ := of_changed hmouse'
    obtain ⟨mouse, hmouse, hendpoints, htoken⟩ := hattached middle hmiddle
    exact ⟨middle, mouse, rfl, hmouse, hendpoints, htoken⟩
  refine {
    valid := Bench.call_valid h hs.valid
    persistent := (hscan.keeps ordinarilyKept_identityMode).trans hs.persistent
    idle := (hscan.keeps ordinarilyKept_identitySetup).trans hs.idle
    issued := hs.issued.mono hcounter
    has := ?_
    places := ?_ }
  · intro mouse' hmouse'
    obtain ⟨middle, mouse, rfl, hmouse, -, htoken⟩ := hsynced mouse' hmouse'
    exact (syncDevice_reassociated.physicalId.trans htoken).trans (hs.has mouse hmouse)
  · intro mouse' hmouse' kind endpoint hget
    obtain ⟨middle, mouse, rfl, hmouse, hendpoints, -⟩ := hsynced mouse' hmouse'
    rcases get_syncDevice hget with ⟨row, hrow, hresolved, rfl, rfl⟩ | hold
    · obtain ⟨husb, -⟩ := hs.presents hscan hspared hrow hresolved
      exact ⟨husb, .inl (List.mem_map_of_mem (List.mem_filter.2 ⟨hrow, decide_eq_true hresolved⟩))⟩
    · rw [hendpoints] at hold
      obtain ⟨husb, hallowed⟩ := hs.places mouse hmouse kind endpoint hold
      exact ⟨husb, .inr hallowed⟩

/-- **A scan that fails** leaves it where it was. -/
theorem stopped (hs : Severed d token allowed state) {e : ManagerError}
    (h : bench.call (discover selection) ⟨state, cache, []⟩ = some (.error e, desk'))
    (hspared : ¬ Reattaches state (scanRows bench selection state desk'.cache) d) : Severed d token allowed desk'.store := by
  rcases discover_error hs.persistent h with hstore | hstore
  · rw [show desk'.store = state from hstore]
    exact hs
  · have hkept : ∀ {γ : Type} {f : StateFile → γ}, OrdinarilyKept f → f desk'.store = f state := by
      intro γ f hf
      rw [hstore]
      exact retains_silentlyAttached hf _ state
    refine hs.of_staysPut (Bench.call_valid h hs.valid) ?_ ?_ ?_ ?_
    · exact (hkept ordinarilyKept_identityMode).trans hs.persistent
    · exact (hkept ordinarilyKept_identitySetup).trans hs.idle
    · rw [hstore]
      exact (issues_silentlyAttached _ state).counter
    · rw [hstore]
      exact staysPut_silentlyAttached hspared

omit [Crc32fast] in
/-- A power-cycle verification puts an endpoint under the mouse. -/
theorem recognised (hs : Severed d token allowed state) {found : DeviceEndpoint} {r}
    (h : Commits (.updateLocator d found) state r state') (husb : found.transport ≠ .ble) :
    Severed d token (fun endpoint => endpoint = found ∨ allowed endpoint) state' := by
  have hv := h.valid hs.valid
  rcases h.cases with rfl | ⟨rfl, -⟩
  · exact hs.mono fun _ => .inr
  have hrelocated : ∀ mouse', ((Txn.updateLocator d found).after state).devices[d]? = some mouse' →
      ∃ mouse, state.devices[d]? = some mouse ∧ mouse'.identity = mouse.identity.upsertEndpoint found := by
    intro mouse' hmouse'
    cases hd : state.devices[d]? with
    | none =>
      have hafter : (Txn.updateLocator d found).after state = state := by
        show ((Txn.relocate d found).apply state).2 = state
        simp [Txn.relocate, apply_bind, hd]
      rw [hafter, hd] at hmouse'
      cases hmouse'
    | some mouse =>
      have hafter : (Txn.updateLocator d found).after state = { state with
          devices := state.devices.insert d { mouse with identity := mouse.identity.upsertEndpoint found } } := by
        show ((Txn.relocate d found).apply state).2 = _
        simp [Txn.relocate, apply_bind, hd]
      rw [hafter, BTreeMap.get_insert_self] at hmouse'
      cases hmouse'
      exact ⟨mouse, rfl, rfl⟩
  have hkept : ∀ {γ : Type} {f : StateFile → γ}, OrdinarilyKept f → f ((Txn.updateLocator d found).after state) = f state :=
    fun hf => @Retains.ordinary _ _ hf (.updateLocator d found) rfl state
  refine {
    valid := hv
    persistent := (hkept ordinarilyKept_identityMode).trans hs.persistent
    idle := (hkept ordinarilyKept_identitySetup).trans hs.idle
    issued := hs.issued.mono (Txn.issues _ state).counter
    has := ?_
    places := ?_ }
  · intro mouse' hmouse'
    obtain ⟨mouse, hmouse, hidentity⟩ := hrelocated mouse' hmouse'
    rw [hidentity]
    exact hs.has mouse hmouse
  · intro mouse' hmouse' kind endpoint hget
    obtain ⟨mouse, hmouse, hidentity⟩ := hrelocated mouse' hmouse'
    rw [hidentity] at hget
    have hget : (mouse.identity.endpoints.insert found.transport found)[kind]? = some endpoint := hget
    by_cases hkind : found.transport = kind
    · subst hkind
      rw [BTreeMap.get_insert_self] at hget
      cases hget
      exact ⟨husb, .inl rfl⟩
    · rw [BTreeMap.get_insert_of_ne _ hkind] at hget
      obtain ⟨hble, hallowed⟩ := hs.places mouse hmouse kind endpoint hget
      exact ⟨hble, .inr hallowed⟩

end Severed

/-! ## A restore that is complete -/

/-- **A restore of the mouse is complete**: a transaction has finalized its journal, with the mouse's new token and the USB
endpoint it was presented at. -/
structure Restores (d : DeviceId) (token : PhysicalId) (e : DeviceEndpoint) (state restored : StateFile) : Prop where
  valid : state.validate = .ok ()
  usb : isUsbTransport e.transport = true
  finalized : ∃ t r journal final subject, Commits t state r restored ∧ state.identitySetup = some journal ∧
    journal.phase = .restore ∧ Finalizes t journal final ∧ final.subjects.head? = some subject ∧
    subject.deviceId = some d ∧ subject.token = some token ∧ subject.endpoint = e
  ended : restored.identitySetup = none

section Start

variable {d : DeviceId} {token : PhysicalId} {e : DeviceEndpoint} {state restored : StateFile}

/-- **A complete restore leaves its mouse one endpoint, and its new token.** -/
theorem Restores.restoredDevice (h : Restores d token e state restored) : ∃ device subject, subject.endpoint = e ∧
    restored = { state with
      devices := state.devices.insert d (AttackSharkX3.restoredDevice device subject token), identitySetup := none } := by
  obtain ⟨t, r, journal, final, subject, hcommits, hj, hphase, hfinal, hhead, hbound, htoken, he⟩ := h.finalized
  obtain ⟨skip, hran⟩ := hfinal.ran hcommits hj h.ended
  have hphase : final.phase = .restore := hfinal.phase_eq.trans hphase
  cases hdevice : state.devices[d]? with
  | none =>
    simp [finalizeCeremony, finalizePhase, finalizeRestore, onlySubject, apply_bind, hphase, hhead, hbound, htoken,
      hdevice] at hran
  | some device =>
    refine ⟨device, subject, he, ?_⟩
    simp [finalizeCeremony, finalizePhase, finalizeRestore, onlySubject, apply_bind, hphase, hhead, hbound, htoken,
      hdevice] at hran
    exact hran.symm

theorem Restores.severed (h : Restores d token e state restored) : Severed d token (· = e) restored := by
  obtain ⟨device, subject, rfl, hrestored⟩ := h.restoredDevice
  obtain ⟨t, r, journal, -, -, hcommits, hj, hphase, -⟩ := h.finalized
  have hv : restored.validate = .ok () := hcommits.valid h.valid
  have hsaved : restored.devices[d]? = some (AttackSharkX3.restoredDevice device subject token) := by
    rw [hrestored]
    exact BTreeMap.get_insert_self ..
  have hidentity : (AttackSharkX3.restoredDevice device subject token).identity.endpoints =
      (∅ : BTreeMap TransportKind DeviceEndpoint).insert subject.endpoint.transport subject.endpoint := by
    unfold AttackSharkX3.restoredDevice applyCapturedImage
    cases subject.captured with
    | none => rfl
    | some captured => rfl
  refine {
    valid := hv
    persistent := ?_
    idle := h.ended
    issued := StateFile.number_lt hv ?_
    has := ?_
    places := ?_ }
  · obtain ⟨hmode, -⟩ := StateFile.validateIdentitySetup_ok.1 (StateFile.valid_setup h.valid hj)
    rw [IdentitySetupJournal.validateMode_ok, hphase, if_neg nofun] at hmode
    rw [hrestored]
    exact hmode
  · rw [Std.ExtTreeMap.contains_eq_isSome_getElem?, hsaved]
    rfl
  · intro mouse hmouse
    rw [hsaved] at hmouse
    cases hmouse
    exact (restoredDevice_made device subject token).1
  · intro mouse hmouse kind endpoint hget
    rw [hsaved] at hmouse
    cases hmouse
    rw [hidentity] at hget
    by_cases hkind : subject.endpoint.transport = kind
    · subst hkind
      rw [BTreeMap.get_insert_self] at hget
      cases hget
      refine ⟨fun hble => ?_, rfl⟩
      have husb := h.usb
      rw [hble] at husb
      cases husb
    · rw [BTreeMap.get_insert_of_ne _ hkind, Std.ExtTreeMap.getElem?_empty] at hget
      cases hget

end Start

/-! ## Later scans -/

section Run

variable [Crc32fast] {d : DeviceId} {token : PhysicalId} {e : DeviceEndpoint} {seen : List DeviceEndpoint}
  {state restored now : StateFile}

/-- **A run after a restore**: scans that attach nothing to the mouse, power-cycle verifications of it, and other operations.
The endpoints at which its token was seen are kept. -/
inductive Later (d : DeviceId) (token : PhysicalId) (restored : StateFile) : List DeviceEndpoint → StateFile → Prop where
  | start : Later d token restored [] restored
  | scanned {seen state bench selection cache view desk'} (before : Later d token restored seen state)
      (call : Bench.call bench (discover selection) ⟨state, cache, []⟩ = some (.ok view, desk'))
      (spared : ¬ Reattaches state (scanRows bench selection state desk'.cache) d) :
      Later d token restored (rowsOf view.connections d ++ seen) desk'.store
  | stopped {seen state bench selection cache e desk'} (before : Later d token restored seen state)
      (call : Bench.call bench (discover selection) ⟨state, cache, []⟩ = some (.error e, desk'))
      (spared : ¬ Reattaches state (scanRows bench selection state desk'.cache) d) : Later d token restored seen desk'.store
  | recognised {seen state transport found h r state'} (before : Later d token restored seen state)
      (usb : isUsbTransport found.transport = true) (shows : Recognised d transport token found h)
      (stores : Commits (.updateLocator d found) state r state') : Later d token restored (found :: seen) state'
  | meanwhile {seen state state'} (before : Later d token restored seen state) (h : Meanwhile d state state') :
      Later d token restored seen state'

theorem Later.severed (h : Later d token restored seen now) (hs : Severed d token (· = e) restored) :
    Severed d token (fun endpoint => endpoint = e ∨ endpoint ∈ seen) now := by
  induction h with
  | start => exact hs.mono fun _ => .inl
  | scanned before call spared ih =>
    refine (ih.scanned call spared).mono fun endpoint hallowed => ?_
    rcases hallowed with hrow | he | hseen
    · exact .inr (List.mem_append_left _ hrow)
    · exact .inl he
    · exact .inr (List.mem_append_right _ hseen)
  | stopped before call spared ih => exact ih.stopped call spared
  | @recognised _ _ _ found _ _ _ before usb shows stores ih =>
    have hble : found.transport ≠ .ble := by
      intro hble
      rw [hble] at usb
      cases usb
    refine (ih.recognised stores hble).mono fun endpoint hallowed => ?_
    rcases hallowed with rfl | he | hseen
    · exact .inr List.mem_cons_self
    · exact .inl he
    · exact .inr (List.mem_cons_of_mem _ hseen)
  | meanwhile before h ih => exact ih.meanwhile h

omit [Crc32fast] in
/-- The endpoint a mouse is opened at is one of its endpoints. -/
theorem DeviceIdentity.of_selectedEndpoint {identity : DeviceIdentity} {endpoint : DeviceEndpoint}
    (h : identity.selectedEndpoint = some endpoint) : ∃ kind : TransportKind, identity.endpoints[kind]? = some endpoint := by
  unfold DeviceIdentity.selectedEndpoint at h
  rcases Option.or_eq_some_iff.1 h with hpreferred | ⟨-, hfirst⟩
  · obtain ⟨kind, -, hkind⟩ := Option.bind_eq_some_iff.1 hpreferred
    exact ⟨kind, hkind⟩
  · obtain ⟨kind, -, hkind⟩ := List.exists_of_findSome?_eq_some hfirst
    exact ⟨kind, hkind⟩

/-- **A restored mouse is found by its new token alone**, and opened where it was restored or where that token was seen
since, as long as no scan attaches anything to it without asking. -/
theorem restore_severs (hrestores : Restores d token e state restored) (hlater : Later d token restored seen now) :
    (∀ bench selection cache view desk', Bench.call bench (discover selection) ⟨now, cache, []⟩ = some (.ok view, desk') →
      ¬ Reattaches now (scanRows bench selection now desk'.cache) d → ∀ row ∈ view.connections, row.resolution = .resolved d →
        desk'.cache.lookup row.endpoint = some (.valid token)) ∧
    (∀ mouse endpoint, now.devices[d]? = some mouse → mouse.identity.selectedEndpoint = some endpoint →
      endpoint = e ∨ endpoint ∈ seen) ∧
    ∀ bench operation cache identity session desk',
      Bench.call bench (openLocked d operation) ⟨now, cache, []⟩ = some (.ok (identity, session), desk') →
        session.endpoint = e ∨ session.endpoint ∈ seen := by
  have hs := hlater.severed hrestores.severed
  have hselects : ∀ mouse endpoint, now.devices[d]? = some mouse → mouse.identity.selectedEndpoint = some endpoint →
      endpoint = e ∨ endpoint ∈ seen := by
    intro mouse endpoint hmouse hselected
    obtain ⟨kind, hget⟩ := DeviceIdentity.of_selectedEndpoint hselected
    exact (hs.places mouse hmouse kind endpoint hget).2
  refine ⟨?_, hselects, ?_⟩
  · intro bench selection cache view desk' hcall hspared row hrow hres
    exact (hs.presents (discover_ok hs.persistent hcall) hspared hrow hres).2
  · intro bench operation cache identity session desk' hcall
    obtain ⟨mouse, hmouse, hselected, -⟩ := openLocked_ok hcall
    exact hselects mouse _ hmouse hselected

end Run

end AttackSharkX3

namespace AttackSharkX3.Rig

/-- Two saved mice; a Bluetooth connection was picked for the first once. -/
def picked : StateFile := (Txn.rememberResolution (ble "old") mouse1 ⟨0⟩).after two

/-- The first mouse's new unit at the last write of a restore. -/
def lastWrite (state : StateFile) : StateFile :=
  { state with identitySetup := some ⟨.restore, .stamping, [{ subjectAt "c" 3 [(first, .captured)] with
    deviceId := some mouse1, oldToken := some (token 1) }]⟩ }

def afterRestore (state : StateFile) : StateFile :=
  (commitReliably (.finishStamping .restore false (some first)) (lastWrite state)).2

theorem restores_mouse1 {state : StateFile} (hv : (lastWrite state).validate = .ok ())
    (hended : (afterRestore state).identitySetup = none) :
    Restores mouse1 (token 3) (wired "c") (lastWrite state) (afterRestore state) where
  valid := hv
  usb := rfl
  finalized := ⟨_, _, _, _, _, commits_reliably _ _, rfl, rfl, .finished rfl (by decide) rfl, rfl, rfl, rfl, rfl⟩
  ended := hended

/-- The new unit is found by its token, and opened where it is. -/
theorem severs_new_unit : ∃ view desk',
    (bench [plug "d" (some (token 3))]).call (discover .auto) (deskOf (afterRestore two)) = some (.ok view, desk') ∧
      ∀ mouse endpoint, desk'.store.devices[mouse1]? = some mouse → mouse.identity.selectedEndpoint = some endpoint →
        endpoint = wired "c" ∨ endpoint ∈ [wired "d"] := by
  obtain ⟨view, desk', hcall, htest⟩ := benched [plug "d" (some (token 3))] (discover .auto) (deskOf (afterRestore two))
    (fun view desk' => rowsOf view.connections mouse1 = [wired "d"] ∧
      unknownRows (scanRows (bench [plug "d" (some (token 3))]) .auto (afterRestore two) desk'.cache) = [])
    (by decide +kernel)
  obtain ⟨hrows, hknown⟩ := of_decide_eq_true htest
  refine ⟨view, desk', hcall, ?_⟩
  have hspared : ¬ Reattaches (afterRestore two)
      (scanRows (bench [plug "d" (some (token 3))]) .auto (afterRestore two) desk'.cache) mouse1 := by
    rintro ⟨u, m, hsole, -⟩
    rw [hknown] at hsole
    cases hsole
  have hlater := Later.scanned (@Later.start _ mouse1 (token 3) _) hcall hspared
  rw [hrows] at hlater
  exact (restore_severs (restores_mouse1 (by decide +kernel) (by decide +kernel)) hlater).2.1

/-- **A scan gives the restored mouse its old Bluetooth connection back**, and the mouse is opened there. -/
theorem reattaches_old_endpoint : Restores mouse1 (token 3) (wired "c") (lastWrite picked) (afterRestore picked) ∧
    ∃ view desk', (bench [(ble "old", unit fun _ => none)]).call (discover .auto) (deskOf (afterRestore picked)) =
        some (.ok view, desk') ∧
      (∃ row ∈ view.connections, row.resolution = .resolved mouse1 ∧
        desk'.cache.lookup row.endpoint ≠ some (.valid (token 3))) ∧
      ∃ mouse, desk'.store.devices[mouse1]? = some mouse ∧ mouse.identity.selectedEndpoint = some (ble "old") := by
  refine ⟨restores_mouse1 (by decide +kernel) (by decide +kernel), ?_⟩
  obtain ⟨view, desk', hcall, htest⟩ := benched [(ble "old", unit fun _ => none)] (discover .auto)
    (deskOf (afterRestore picked)) (fun view desk' => view.connections = [⟨ble "old", true, .resolved mouse1⟩] ∧
      desk'.cache.lookup (ble "old") ≠ some (.valid (token 3)) ∧
      (desk'.store.devices[mouse1]?.bind (·.identity.selectedEndpoint)) = some (ble "old")) (by decide +kernel)
  obtain ⟨hrows, hcached, hselected⟩ := of_decide_eq_true htest
  refine ⟨view, desk', hcall, ⟨⟨ble "old", true, .resolved mouse1⟩, ?_, rfl, hcached⟩, Option.bind_eq_some_iff.1 hselected⟩
  rw [hrows]
  exact List.mem_singleton_self _

end AttackSharkX3.Rig
