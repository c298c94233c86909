import AttackSharkX3.Bench
import AttackSharkX3.Discover
import AttackSharkX3.Rows
/-!
# Scan — what an undisturbed scan finds, asks of the store and leaves

In persistent mode a scan is a function of the stored state and of the watermarks the cache has once it is read.  The
silent attachments come first, then one synchronization of the resolved rows.
-/
namespace AttackSharkX3

open Effects (Fallible Prog)

namespace Bench

variable {bench : Bench} {desk desk' : Desk} {α β : Type}

theorem of_call_bind {x : Manager α} {f : α → Manager β} {b : β}
    (h : bench.call (x >>= f) desk = some (.ok b, desk')) :
    ∃ a desk₁, bench.call x desk = some (.ok a, desk₁) ∧ bench.call (f a) desk₁ = some (.ok b, desk') :=
  Fallible.of_exec_bind_ok h

theorem call_bind_ok {x : Manager α} {f : α → Manager β} {a : α} {desk₁ : Desk}
    (h : bench.call x desk = some (.ok a, desk₁)) : bench.call (x >>= f) desk = bench.call (f a) desk₁ :=
  Fallible.exec_bind_ok h

theorem of_call_pure {a b : α} (h : bench.call (pure a) desk = some (.ok b, desk')) : b = a ∧ desk' = desk := by
  cases h
  exact ⟨rfl, rfl⟩

theorem of_call_load {state : StateFile} (h : bench.call Manager.load desk = some (.ok state, desk')) :
    state = desk.store ∧ desk' = desk := by
  rw [call_load] at h
  cases h
  exact ⟨rfl, rfl⟩

theorem of_call_cached {cache : IdentityCache} (h : bench.call Manager.cached desk = some (.ok cache, desk')) :
    cache = desk.cache ∧ desk' = desk := by
  cases h
  exact ⟨rfl, rfl⟩

theorem of_call_list {selection : TransportSelection} {discovered : List DiscoveredEndpoint}
    (h : bench.call (Manager.list selection) desk = some (.ok discovered, desk')) :
    bench.list selection = .ok discovered ∧ desk' = desk := by
  have hlist : bench.call (Manager.list selection) desk = some (bench.list selection, desk) := rfl
  rw [hlist, Option.some.injEq, Prod.mk.injEq] at h
  exact ⟨h.1, h.2.symm⟩

theorem of_call_ofOption {e : ManagerError} {x : Option α} {a : α}
    (h : bench.call (Fallible.ofOption e x) desk = some (.ok a, desk')) : x = some a ∧ desk' = desk := by
  cases x with
  | none => cases h
  | some b =>
    cases h
    exact ⟨rfl, rfl⟩

theorem of_call_open {endpoint : DeviceEndpoint} {session : Session}
    (h : bench.call (Manager.open_ endpoint) desk = some (.ok session, desk')) :
    session = ⟨endpoint⟩ ∧ desk' = desk := by
  have hcall : bench.call (Manager.open_ endpoint) desk = some ((bench.open_ endpoint).map fun _ => ⟨endpoint⟩, desk) := rfl
  rw [hcall, Option.some.injEq, Prod.mk.injEq] at h
  cases hopen : bench.open_ endpoint with
  | error e =>
    rw [hopen] at h
    cases h.1
  | ok _ =>
    rw [hopen] at h
    exact ⟨(Except.ok.inj h.1).symm, h.2.symm⟩

theorem of_call_ensure {c : Prop} [Decidable c] {e : ManagerError}
    (h : bench.call (Fallible.ensure c e) desk = some (.ok (), desk')) : c ∧ desk' = desk := by
  by_cases hc : c
  · rw [call, Fallible.exec_ensure_true hc] at h
    cases h
    exact ⟨hc, rfl⟩
  · rw [call, Fallible.exec_ensure_false hc] at h
    cases h

/-- Off the store nothing is asked of it. -/
theorem call_calm {x : Manager α} {r : Except ManagerError α} (hx : Fallible.Only Op.calm x)
    (h : bench.call x desk = some (r, desk')) : desk'.store = desk.store ∧ desk'.asked = desk.asked := by
  refine Prog.Only.exec_keeps (P := fun s : Desk => s.store = desk.store ∧ s.asked = desk.asked) ?_ x.run hx ⟨rfl, rfl⟩ h
  intro o s r s' ho hs hr
  cases o with
  | load => cases ho.1
  | commit t => cases ho.1
  | abort site => cases hr
  | acquire _ _ | cached | cacheInsert _ _ | cacheRetain _ | list _ | open_ _ | session _ _ | now | random =>
    cases hr
    exact hs

end Bench

variable [Crc32fast]

/-! ## The parts of a scan -/

theorem calm_readIdentities : ∀ endpoints, Fallible.Only Op.calm (readIdentities endpoints)
  | [] => .pure
  | endpoint :: rest => by
    have hread : Fallible.Only Op.calm (readEndpointIdentity endpoint) := by
      refine .bind (calm_of_quiet quiet_open) fun session =>
        .bind (.attempt (calm_of_quiet (quiet_currentWatermark session))) fun result => ?_
      split
      · exact .pure
      · exact .pure
      · exact .throw
    exact .bind hread fun _ => .bind (.perform ⟨rfl, rfl⟩) fun _ => calm_readIdentities rest

theorem calm_authenticateScan (discovered : List DiscoveredEndpoint) :
    Fallible.Only Op.calm (authenticateScan discovered) :=
  .bind (.perform ⟨rfl, rfl⟩) fun _ => .bind (calm_readIdentities _) fun _ => .perform ⟨rfl, rfl⟩

variable {bench : Bench}

omit [Crc32fast] in
theorem attachAll_ok : ∀ (silent : List (DeviceEndpoint × DeviceId)) {desk desk' : Desk},
    bench.call (attachAll silent) desk = some (.ok (), desk') → desk'.cache = desk.cache ∧
      desk'.store = silentlyAttached bench.now desk.store silent ∧
      desk'.asked.map (·.2) =
        (silent.map fun entry => Txn.attachSilently entry.1 entry.2 bench.now).reverse ++ desk.asked.map (·.2)
  | [], desk, desk', h => by
    obtain ⟨-, rfl⟩ := Bench.of_call_pure h
    exact ⟨rfl, rfl, rfl⟩
  | (endpoint, device) :: rest, desk, desk', h => by
    obtain ⟨now, desk₁, hnow, h⟩ := Bench.of_call_bind h
    cases hnow
    obtain ⟨_, desk₂, hcommit, h⟩ := Bench.of_call_bind h
    obtain ⟨rfl, -⟩ := bench.of_call_commit hcommit
    obtain ⟨hcache, hstore, hasked⟩ := attachAll_ok rest h
    refine ⟨hcache, hstore, ?_⟩
    rw [hasked]
    simp

omit [Crc32fast] in
theorem autoResolveUnknowns_ok {rows rows' : List ResolvedConnection} {desk desk' : Desk}
    (h : bench.call (autoResolveUnknowns rows) desk = some (.ok rows', desk')) :
    rows' = scanConnections bench.now desk.store rows ∧ desk'.cache = desk.cache ∧
      desk'.store = silentlyAttached bench.now desk.store (silentAttachments desk.store rows) ∧
      desk'.asked.map (·.2) = ((silentAttachments desk.store rows).map fun entry =>
        Txn.attachSilently entry.1 entry.2 bench.now).reverse ++ desk.asked.map (·.2) := by
  obtain ⟨state, desk₀, hload, h⟩ := Bench.of_call_bind h
  obtain ⟨hstate, hdesk⟩ := Bench.of_call_load hload
  subst hstate hdesk
  unfold scanConnections
  by_cases hsilent : (silentAttachments desk₀.store rows).isEmpty
  · rw [if_pos hsilent] at h
    obtain ⟨rfl, rfl⟩ := Bench.of_call_pure h
    simp [List.isEmpty_iff.1 hsilent, silentlyAttached]
  · rw [if_neg hsilent] at h
    simp only [hsilent, Bool.false_eq_true, if_false]
    obtain ⟨_, desk₁, hattach, h⟩ := Bench.of_call_bind h
    obtain ⟨hcache, hstore, hasked⟩ := attachAll_ok _ hattach
    obtain ⟨_, _, hload, h⟩ := Bench.of_call_bind h
    obtain ⟨rfl, rfl⟩ := Bench.of_call_load hload
    obtain ⟨rfl, rfl⟩ := Bench.of_call_pure h
    exact ⟨by rw [hstore], hcache, hstore, hasked⟩

/-- Some row belongs to a mouse. -/
def anyResolved (rows : List ResolvedConnection) : Bool := rows.any fun row => !(row.resolution matches .unassociated ..)

omit [Crc32fast] in
theorem rowsOf_of_not_anyResolved {rows : List ResolvedConnection} (h : anyResolved rows = false) (d : DeviceId) :
    rowsOf rows d = [] := by
  simp only [anyResolved, List.any_eq_false] at h
  have hnone : ∀ row ∈ rows, ¬ row.resolution = .resolved d := by
    intro row hrow heq
    have := h row hrow
    simp [heq] at this
  simpa [rowsOf] using hnone

omit [Crc32fast] in
theorem sync_after_of_not_anyResolved {rows : List ResolvedConnection} (h : anyResolved rows = false)
    (selection : TransportSelection) (state : StateFile) :
    (Txn.syncEndpointAssociations rows selection).after state = state := by
  have hdevices : state.devices.map (Txn.syncDevice rows selection) = state.devices := by
    refine Std.ExtTreeMap.ext_getElem? fun d => ?_
    rw [Std.ExtTreeMap.getElem?_map]
    cases state.devices[d]? with
    | none => rfl
    | some device => simp [Txn.syncDevice, rowsOf_of_not_anyResolved h d]
  show { state with devices := state.devices.map (Txn.syncDevice rows selection) } = state
  rw [hdevices]

omit [Crc32fast] in
theorem syncEndpointAssociations_ok {rows : List ResolvedConnection} {selection : TransportSelection} {desk desk' : Desk}
    (h : bench.call (syncEndpointAssociations rows selection) desk = some (.ok (), desk')) :
    desk'.cache = desk.cache ∧ desk'.store = (Txn.syncEndpointAssociations rows selection).after desk.store ∧
      desk'.asked.map (·.2) =
        (if anyResolved rows then [Txn.syncEndpointAssociations rows selection] else []) ++ desk.asked.map (·.2) := by
  have h : bench.call (if anyResolved rows = true then
      (Manager.commit (.syncEndpointAssociations rows selection) : Manager Unit) else pure ()) desk =
        some (.ok (), desk') := h
  by_cases hany : anyResolved rows = true
  · rw [if_pos hany] at h
    obtain ⟨rfl, -⟩ := bench.of_call_commit h
    exact ⟨rfl, rfl, by simp [hany]⟩
  · rw [if_neg hany] at h
    rw [Bool.not_eq_true] at hany
    obtain ⟨-, rfl⟩ := Bench.of_call_pure h
    exact ⟨rfl, (sync_after_of_not_anyResolved hany selection _).symm, by simp [hany]⟩

/-! ## A whole scan -/

/-- The rows of a scan before anything is attached, by the watermarks the scan has. -/
def scanRows (bench : Bench) (selection : TransportSelection) (state : StateFile) (cache : IdentityCache) :
    List ResolvedConnection :=
  match bench.list selection with
  | .ok discovered => resolveScanRows .persistent cache state discovered
  | .error _ => []

/-- **What a scan in persistent mode did**, from the store it started with: the rows it resolved, what it asked and what
it left. -/
structure Scanned (bench : Bench) (selection : TransportSelection) (desk : Desk) (view : DiscoveryView) (desk' : Desk)
    (rows : List ResolvedConnection) : Prop where
  listed : ∃ discovered, bench.list selection = .ok discovered ∧
    rows = resolveScanRows .persistent desk'.cache desk.store discovered
  connections : view.connections = scanConnections bench.now desk.store rows
  store : desk'.store = (Txn.syncEndpointAssociations view.connections selection).after
    (silentlyAttached bench.now desk.store (silentAttachments desk.store rows))
  asked : desk'.asked.map (·.2) =
    (if anyResolved view.connections then [Txn.syncEndpointAssociations view.connections selection] else []) ++
      ((silentAttachments desk.store rows).map fun entry =>
        Txn.attachSilently entry.1 entry.2 bench.now).reverse ++ desk.asked.map (·.2)

theorem discover_ok {selection : TransportSelection} {desk desk' : Desk} {view : DiscoveryView}
    (hmode : desk.store.identityMode = .persistent)
    (h : bench.call (discover selection) desk = some (.ok view, desk')) :
    Scanned bench selection desk view desk' (scanRows bench selection desk.store desk'.cache) := by
  obtain ⟨discovered, desk₀, hlist, h₁⟩ := Bench.of_call_bind h
  obtain ⟨hlisted, rfl⟩ := Bench.of_call_list hlist
  obtain ⟨before, desk₀, hload, h₂⟩ := Bench.of_call_bind h₁
  obtain ⟨rfl, rfl⟩ := Bench.of_call_load hload
  simp only [hmode, ensureLegacyMouse, if_true, reduceCtorEq, false_and] at h₂
  obtain ⟨_, desk₀, hlegacy, h₃⟩ := Bench.of_call_bind h₂
  obtain ⟨-, rfl⟩ := Bench.of_call_pure hlegacy
  obtain ⟨_, desk₁, hauthenticate, h₄⟩ := Bench.of_call_bind h₃
  obtain ⟨hstore₁, hasked₁⟩ := Bench.call_calm (calm_authenticateScan discovered) hauthenticate
  obtain ⟨identities, desk₁, hcached, h₅⟩ := Bench.of_call_bind h₄
  obtain ⟨rfl, rfl⟩ := Bench.of_call_cached hcached
  obtain ⟨state, desk₁, hload, h₆⟩ := Bench.of_call_bind h₅
  obtain ⟨rfl, rfl⟩ := Bench.of_call_load hload
  obtain ⟨rows, desk₂, hauto, h₇⟩ := Bench.of_call_bind h₆
  obtain ⟨rfl, hcache₂, hstore₂, hasked₂⟩ := autoResolveUnknowns_ok hauto
  obtain ⟨_, desk₃, hsync, h₈⟩ := Bench.of_call_bind h₇
  obtain ⟨hcache₃, hstore₃, hasked₃⟩ := syncEndpointAssociations_ok hsync
  obtain ⟨state, desk₃, hload, h₉⟩ := Bench.of_call_bind h₈
  obtain ⟨rfl, rfl⟩ := Bench.of_call_load hload
  obtain ⟨rfl, rfl⟩ := Bench.of_call_pure h₉
  have hrows : scanRows bench selection desk₀.store desk'.cache =
      resolveScanRows .persistent desk₁.cache desk₁.store discovered := by
    simp only [scanRows, hlisted, hcache₃, hcache₂, hstore₁]
  rw [hrows]
  refine ⟨⟨discovered, hlisted, ?_⟩, ?_, ?_, ?_⟩
  · rw [hcache₃, hcache₂, hstore₁]
  · rw [hstore₁]
  · rw [hstore₃, hstore₂, hstore₁]
  · rw [hasked₃, hasked₂, hasked₁, hstore₁, List.append_assoc]

omit [Crc32fast] in
/-- Silent attachments leave what ordinary transactions leave. -/
theorem retains_silentlyAttached {γ : Type} {f : StateFile → γ} {now : Timestamp} (hf : OrdinarilyKept f) :
    ∀ (silent : List (DeviceEndpoint × DeviceId)) (state : StateFile), f (silentlyAttached now state silent) = f state := by
  intro silent
  induction silent with
  | nil => exact fun _ => rfl
  | cons entry silent ih =>
    intro state
    exact (ih _).trans (Retains.ordinary hf (t := .attachSilently entry.1 entry.2 now) rfl state)

namespace Scanned

variable {selection : TransportSelection} {desk desk' : Desk} {view : DiscoveryView} {rows : List ResolvedConnection}

omit [Crc32fast] in
/-- A scan leaves what ordinary transactions leave. -/
theorem keeps {γ : Type} {f : StateFile → γ} (hs : Scanned bench selection desk view desk' rows) (hf : OrdinarilyKept f) :
    f desk'.store = f desk.store := by
  rw [hs.store]
  exact (Retains.ordinary hf (t := .syncEndpointAssociations view.connections selection) rfl _).trans
    (retains_silentlyAttached hf _ _)

end Scanned

end AttackSharkX3
