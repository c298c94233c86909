import AttackSharkX3.Associations
import AttackSharkX3.Carried
import AttackSharkX3.Severed
/-!
# Usable — a mouse after its ceremony

A ceremony writes a token to the mouse at hand and stores it, but does not touch the watermarks that the manager has cached.
A connection that was scanned before its mouse was stamped is then taken for what it was.  The results say exactly when
the next scan finds the mouse and it opens.
-/
namespace AttackSharkX3

open Effects (Prog Fallible)
open Folding (own)

/-! ## A ceremony that is complete -/

/-- **A ceremony that made, or restored, a mouse is complete**: a transaction has finalized its journal, in which a mouse
has this token and was presented at this USB endpoint.  No reserved token is ever assigned. -/
structure Completes (token : PhysicalId) (e : DeviceEndpoint) (state done : StateFile) : Prop where
  valid : state.validate = .ok ()
  usb : isUsbTransport e.transport = true
  assignable : isReservedToken token = false
  finalized : ∃ t r journal final subject, Commits t state r done ∧ state.identitySetup = some journal ∧
    journal.phase ≠ .bleAssociation ∧ Finalizes t journal final ∧ subject ∈ final.subjects ∧ subject.token = some token ∧
    subject.endpoint = e
  ended : done.identitySetup = none

/-- **The ceremony's mouse**, in an installation at rest: it has the token, and the endpoint alone. -/
structure Made.At (token : PhysicalId) (e : DeviceEndpoint) (done : StateFile) (d : DeviceId) (device : DeviceState) : Prop where
  valid : done.validate = .ok ()
  persistent : done.identityMode = .persistent
  idle : done.identitySetup = none
  usb : isUsbTransport e.transport = true
  saved : done.devices[d]? = some device
  has : device.identity.physicalId = some token
  alone : device.identity.endpoints = (∅ : BTreeMap TransportKind DeviceEndpoint).insert e.transport e
  preferred : device.identity.preferredTransport = none
  resolves : resolveValidToken done.devices none token = .resolved d

theorem Completes.made {token : PhysicalId} {e : DeviceEndpoint} {state done : StateFile} (h : Completes token e state done) :
    ∃ d device, Made.At token e done d device := by
  obtain ⟨t, r, journal, final, subject, hcommits, hj, hphase, hfinal, hmem, htoken, rfl⟩ := h.finalized
  obtain ⟨skip, hran⟩ := hfinal.ran hcommits hj h.ended
  have hv : done.validate = .ok () := hcommits.valid h.valid
  have hble : final.phase ≠ .bleAssociation := by rwa [hfinal.phase_eq]
  obtain ⟨d, device, hsaved, hmakes⟩ := @finalizeCeremony_makes { state with identitySetup := some final } _ _ _ rfl hran
    hble (hfinal.alone h.valid hj) _ hmem
  have hhas : device.identity.physicalId = some token := hmakes.made.1.trans htoken
  have hpersistent : done.identityMode = .persistent := by
    cases hmode : done.identityMode with
    | persistent => rfl
    | legacy =>
      have htokens := (StateFile.validate_ok.1 hv).2.2.2.2.2.1
      unfold StateFile.validateIdentityMode at htokens
      simp only [hmode, StateFile.then_ok, check_ok, forM_toList_ok] at htokens
      rw [htokens.2 d device hsaved] at hhas
      cases hhas
  refine ⟨d, device, hv, hpersistent, h.ended, h.usb, hsaved, hhas, hmakes.placed.1, hmakes.placed.2, ?_⟩
  have hresolves := @resolveValidToken_of_owner done d token hv hpersistent
    ((StateFile.physicalIdOf_eq hsaved).trans hhas) h.assignable
  rw [h.ended] at hresolves
  exact hresolves rfl

/-! ## What a scan has of a connection -/

section Reads

variable [Crc32fast] {bench : Bench} {e : DeviceEndpoint} {token : PhysicalId} {discovered : List DiscoveredEndpoint}
  {desk desk' : Desk}

/-- **The connection stays attached**: it is listed, nothing else is listed in its place, and its mouse answers with the
token. -/
structure Bench.Attached (bench : Bench) (selection : TransportSelection) (e : DeviceEndpoint) (token : PhysicalId) : Prop where
  enumerated : ∃ found : Enumeration, bench.list selection = found.list selection
  listed : ∃ discovered, bench.list selection = .ok discovered ∧ ⟨e, true⟩ ∈ discovered ∧
    ∀ disc ∈ discovered, disc.endpoint.key = e.key → disc.endpoint = e
  opens : bench.open_ e = .ok ()
  answers : bench.watermark e = .ok (.valid token)

omit [Crc32fast] in
theorem call_open (hopens : bench.open_ e = .ok ()) : bench.call (Manager.open_ e) desk = some (.ok ⟨e⟩, desk) := by
  show some ((bench.open_ e).map _, desk) = _
  rw [hopens]
  rfl

theorem call_readEndpointIdentity {decode : WatermarkDecode} (hopens : bench.open_ e = .ok ())
    (hreads : bench.watermark e = .ok decode) : bench.call (readEndpointIdentity e) desk = some (.ok decode, desk) := by
  obtain ⟨profile, hcurrent⟩ := @call_currentWatermark _ bench desk e decode hreads
  have hattempt : bench.call (Manager.attempt (currentWatermark ⟨e⟩)) desk = some (.ok (.ok (profile, decode)), desk) :=
    Fallible.exec_attempt hcurrent
  rw [readEndpointIdentity, Bench.call_bind_ok (call_open hopens), Bench.call_bind_ok hattempt]
  rfl

/-- The operation only asks the hardware at one connection. -/
def Op.probes : Op → Bool
  | .open_ _ | .session .. => true
  | _ => false

omit [Crc32fast] in
theorem call_probes {α : Type} {x : Manager α} {r : Except ManagerError α} (hx : Fallible.Only (fun o : Op => o.probes = true) x)
    (h : bench.call x desk = some (r, desk')) : desk' = desk := by
  refine Prog.Only.exec_keeps (P := fun s : Desk => s = desk) ?_ x.run hx rfl h
  intro o s r s' ho hs hr
  cases o with
  | open_ _ | session _ _ =>
    cases hr
    exact hs
  | load | commit _ | abort _ | acquire _ _ | cached | cacheInsert _ _ | cacheRetain _ | list _ | now | random => cases ho

theorem probes_readEndpointIdentity (endpoint : DeviceEndpoint) :
    Fallible.Only (fun o : Op => o.probes = true) (readEndpointIdentity endpoint) := by
  have hcurrent : ∀ session, Fallible.Only (fun o : Op => o.probes = true) (currentWatermark session) :=
    fun session => .bind (.perform rfl) fun _ => .bind (.perform rfl) fun _ => .pure
  refine .bind (.perform rfl) fun session => .bind (.attempt (hcurrent session)) fun result => ?_
  split
  · exact .pure
  · exact .pure
  · exact .throw

/-- Reading connections in other places leaves what is cached in this one; reading this one caches what it answers. -/
theorem readIdentities_at {decode : WatermarkDecode} (hopens : bench.open_ e = .ok ())
    (hreads : bench.watermark e = .ok decode) : ∀ {endpoints : List DeviceEndpoint} {desk desk' : Desk},
    (∀ endpoint ∈ endpoints, endpoint.key = e.key → endpoint = e) →
    bench.call (readIdentities endpoints) desk = some (.ok (), desk') →
      desk'.cache e.key = if e ∈ endpoints then some (decode, e) else desk.cache e.key
  | [], desk, desk', _, h => by
    obtain ⟨-, rfl⟩ := Bench.of_call_pure h
    rfl
  | endpoint :: rest, desk, desk', hplaces, h => by
    obtain ⟨read, desk₁, hread, h₁⟩ := Bench.of_call_bind h
    obtain ⟨_, desk₂, hinsert, h₂⟩ := Bench.of_call_bind h₁
    cases hinsert
    obtain rfl := call_probes (probes_readEndpointIdentity endpoint) hread
    rw [readIdentities_at hopens hreads (fun other hother => hplaces other (List.mem_cons_of_mem _ hother)) h₂]
    by_cases hrest : e ∈ rest
    · rw [if_pos hrest, if_pos (List.mem_cons_of_mem _ hrest)]
    rw [if_neg hrest]
    by_cases hkey : endpoint.key = e.key
    · obtain rfl := hplaces endpoint List.mem_cons_self hkey
      rw [call_readEndpointIdentity hopens hreads] at hread
      cases hread
      rw [if_pos List.mem_cons_self]
      exact Function.update_self ..
    · have hne : e ∉ endpoint :: rest := by
        rw [List.mem_cons, not_or]
        exact ⟨fun heq => hkey (heq ▸ rfl), hrest⟩
      rw [if_neg hne]
      exact Function.update_of_ne (Ne.symm hkey) ..

/-- **What a scan has of an attached connection**: what was cached, and only else what its mouse answers. -/
theorem authenticateScan_lookup {decode : WatermarkDecode} (hopens : bench.open_ e = .ok ())
    (hreads : bench.watermark e = .ok decode) (husb : isUsbTransport e.transport = true) (hlisted : ⟨e, true⟩ ∈ discovered)
    (hplaces : ∀ disc ∈ discovered, disc.endpoint.key = e.key → disc.endpoint = e)
    (h : bench.call (authenticateScan discovered) desk = some (.ok (), desk')) :
    desk'.cache.lookup e = (desk.cache.lookup e).or (some decode) := by
  obtain ⟨cache, desk₀, hcached, h₁⟩ := Bench.of_call_bind h
  obtain ⟨rfl, rfl⟩ := Bench.of_call_cached hcached
  obtain ⟨_, desk₁, hread, h₂⟩ := Bench.of_call_bind h₁
  cases h₂
  have hmem : e ∈ unreadEndpoints desk₀.cache discovered ↔ desk₀.cache.lookup e = none := by
    unfold unreadEndpoints
    simp only [List.mem_map, List.mem_filter, Bool.and_eq_true, Option.isNone_iff_eq_none]
    constructor
    · rintro ⟨disc, ⟨-, -, hnone⟩, rfl⟩
      exact hnone
    · intro hnone
      exact ⟨⟨e, true⟩, ⟨hlisted, by simp [DiscoveredEndpoint.authenticates, husb], hnone⟩, rfl⟩
  have hkey : desk₁.cache e.key = if e ∈ unreadEndpoints desk₀.cache discovered then some (decode, e)
      else desk₀.cache e.key := by
    refine readIdentities_at hopens hreads (fun endpoint hendpoint => ?_) hread
    obtain ⟨disc, hdisc, rfl⟩ := List.mem_map.1 hendpoint
    exact hplaces disc (List.mem_filter.1 hdisc).1
  have hretained : ∀ entry : WatermarkDecode × DeviceEndpoint, entry.2 = e →
      ((discovered.any fun disc => disc.authenticates && disc.endpoint.key = e.key) &&
        discovered.any fun disc => disc.connected && disc.endpoint = entry.2) = true := by
    rintro entry rfl
    simp only [Bool.and_eq_true, List.any_eq_true, decide_eq_true_eq]
    exact ⟨⟨_, hlisted, by simp [DiscoveredEndpoint.authenticates, husb]⟩, ⟨_, hlisted, rfl, rfl⟩⟩
  have hkept : ∀ entry : WatermarkDecode × DeviceEndpoint, desk₁.cache e.key = some entry → entry.2 = e →
      (desk₁.cache.retain discovered).lookup e = some entry.1 := by
    intro entry hentry hsame
    rw [IdentityCache.lookup, IdentityCache.retain, hentry, Option.filter_some, if_pos (hretained entry hsame),
      Option.filter_some, if_pos (decide_eq_true hsame)]
    rfl
  cases hl : desk₀.cache.lookup e with
  | none =>
    rw [if_pos (hmem.2 hl)] at hkey
    exact hkept _ hkey rfl
  | some read =>
    rw [if_neg (fun hunread => by rw [hmem.1 hunread] at hl; cases hl)] at hkey
    unfold IdentityCache.lookup at hl
    obtain ⟨entry, hentry, rfl⟩ := Option.map_eq_some_iff.1 hl
    obtain ⟨hentry, hsame⟩ := Option.filter_eq_some_iff.1 hentry
    exact hkept entry (hkey.trans hentry) (of_decide_eq_true hsame)

/-- A scan in persistent mode goes by the watermarks it then has. -/
theorem discover_authenticates {selection : TransportSelection} {view : DiscoveryView}
    (hmode : desk.store.identityMode = .persistent)
    (h : bench.call (discover selection) desk = some (.ok view, desk')) : ∃ discovered desk₁,
      bench.list selection = .ok discovered ∧
      bench.call (authenticateScan discovered) desk = some (.ok (), desk₁) ∧ desk'.cache = desk₁.cache := by
  obtain ⟨discovered, desk₀, hlist, h₁⟩ := Bench.of_call_bind h
  obtain ⟨hlisted, rfl⟩ := Bench.of_call_list hlist
  obtain ⟨before, desk₀, hload, h₂⟩ := Bench.of_call_bind h₁
  obtain ⟨rfl, rfl⟩ := Bench.of_call_load hload
  simp only [hmode, ensureLegacyMouse, if_true, reduceCtorEq, false_and] at h₂
  obtain ⟨_, desk₀, hlegacy, h₃⟩ := Bench.of_call_bind h₂
  obtain ⟨-, rfl⟩ := Bench.of_call_pure hlegacy
  obtain ⟨_, desk₁, hauthenticate, h₄⟩ := Bench.of_call_bind h₃
  obtain ⟨identities, desk₂, hcached, h₅⟩ := Bench.of_call_bind h₄
  obtain ⟨rfl, rfl⟩ := Bench.of_call_cached hcached
  obtain ⟨state, desk₂, hload, h₆⟩ := Bench.of_call_bind h₅
  obtain ⟨rfl, rfl⟩ := Bench.of_call_load hload
  obtain ⟨rows, desk₃, hauto, h₇⟩ := Bench.of_call_bind h₆
  obtain ⟨-, hcache₃, -⟩ := autoResolveUnknowns_ok hauto
  obtain ⟨_, desk₄, hsync, h₈⟩ := Bench.of_call_bind h₇
  obtain ⟨hcache₄, -⟩ := syncEndpointAssociations_ok hsync
  obtain ⟨state, desk₅, hload, h₉⟩ := Bench.of_call_bind h₈
  obtain ⟨rfl, rfl⟩ := Bench.of_call_load hload
  obtain ⟨-, rfl⟩ := Bench.of_call_pure h₉
  exact ⟨discovered, desk₂, hlisted, hauthenticate, hcache₄.trans hcache₃⟩

/-- **A scan goes by what was cached of an attached connection**, and only else by what its mouse answers. -/
theorem Bench.Attached.lookup {selection : TransportSelection} {view : DiscoveryView} {cache : IdentityCache}
    {done : StateFile} (ha : bench.Attached selection e token) (hmode : done.identityMode = .persistent)
    (husb : isUsbTransport e.transport = true)
    (h : bench.call (discover selection) ⟨done, cache, []⟩ = some (.ok view, desk')) :
    desk'.cache.lookup e = (cache.lookup e).or (some (.valid token)) := by
  obtain ⟨discovered, desk₁, hlisted, hauthenticate, hcache⟩ := discover_authenticates hmode h
  obtain ⟨_, hlisted', hmem, hplaces⟩ := ha.listed
  rw [hlisted, Except.ok.injEq] at hlisted'
  subst hlisted'
  rw [hcache]
  exact authenticateScan_lookup ha.opens ha.answers husb hmem hplaces hauthenticate

end Reads

/-! ## The mouse's rows -/

/-- **The connection is attached to the mouse without asking**: it is the sole unknown one, and blank. -/
def AttachedBlank (state : StateFile) (rows : List ResolvedConnection) (d : DeviceId) (u : ResolvedConnection) : Prop :=
  unknownRows rows = [u] ∧ presentedToken u = none ∧ silentAttachment state 1 u = some d

/-- **One connection is preferred to another when a mouse is opened**: its transport comes first, or it is the last of the
same transport. -/
def Preferred (rows : List ResolvedConnection) (row other : ResolvedConnection) : Prop :=
  [row.endpoint.transport, other.endpoint.transport].Sublist [.wired, .receiver, .ble] ∨
    row.endpoint.transport = other.endpoint.transport ∧ [other, row].Sublist rows

section Rows

variable {state : StateFile} {rows : List ResolvedConnection} {d : DeviceId} {now : Timestamp}

/-- The one unknown row is there once. -/
theorem count_sole {u : ResolvedConnection} (h : unknownRows rows = [u]) : rows.count u = 1 := by
  have hu := (mem_unknownRows.1 (h ▸ List.mem_singleton_self u)).2
  have hcount : (unknownRows rows).count u = rows.count u :=
    List.count_filter (by simpa using hu)
  rw [← hcount, h]
  simp

theorem sublist_getLast {l : List ResolvedConnection} {x r : ResolvedConnection} (hlast : l.getLast? = some x) (hr : r ∈ l)
    (hne : r ≠ x) : [r, x].Sublist l := by
  obtain ⟨init, rfl⟩ := List.getLast?_eq_some_iff.1 hlast
  rcases List.mem_append.1 hr with hr | hr
  · exact (List.singleton_sublist.2 hr).append (List.Sublist.refl [x])
  · exact absurd (List.mem_singleton.1 hr) hne

/-- What comes after a row that is there once is not before the last. -/
theorem not_sublist_getLast {l : List ResolvedConnection} {x r : ResolvedConnection} (hlast : l.getLast? = some x)
    (honce : l.count x ≤ 1) : ¬ [x, r].Sublist l := by
  obtain ⟨init, rfl⟩ := List.getLast?_eq_some_iff.1 hlast
  intro hsub
  obtain ⟨l₁, l₂, hsplit, h₁, h₂⟩ := List.sublist_append_iff.1 hsub
  have hinit : x ∈ init := by
    match l₁ with
    | [] =>
      have hlength := h₂.length_le
      rw [List.nil_append] at hsplit
      rw [← hsplit] at hlength
      simp at hlength
    | y :: _ =>
      rw [List.cons_append, List.cons.injEq] at hsplit
      rw [hsplit.1]
      exact h₁.subset List.mem_cons_self
  rw [List.count_append, List.count_singleton_self] at honce
  have hpositive := List.count_pos_iff.2 hinit
  omega

/-- One row, resolved again. -/
def reresolveRow (state : StateFile) (row : ResolvedConnection) : ResolvedConnection :=
  if row.resolution.isUnknown && rememberedMappingAgrees state row.endpoint (presentedToken row) then
    match rememberedDeviceIn state row.endpoint with
    | some remembered => { row with resolution := .resolved remembered }
    | none => row
  else row

variable {row : ResolvedConnection}

theorem reresolveRow_place : (reresolveRow state row).endpoint = row.endpoint ∧
    (reresolveRow state row).connected = row.connected := by
  unfold reresolveRow
  split
  · split
    · exact ⟨rfl, rfl⟩
    · exact ⟨rfl, rfl⟩
  · exact ⟨rfl, rfl⟩

theorem reresolveRow_known (h : row.resolution.isUnknown = false) : reresolveRow state row = row := by
  simp [reresolveRow, h]

theorem reresolveRow_contradicted (h : rememberedMappingAgrees state row.endpoint (presentedToken row) = false) :
    reresolveRow state row = row := by
  simp [reresolveRow, h]

theorem reresolveRow_remembered {m : DeviceId} (hunknown : row.resolution.isUnknown = true)
    (hagrees : rememberedMappingAgrees state row.endpoint (presentedToken row) = true)
    (hremembered : rememberedDeviceIn state row.endpoint = some m) :
    reresolveRow state row = { row with resolution := .resolved m } := by
  simp [reresolveRow, hunknown, hagrees, hremembered]

/-- **What a scan makes of each row.**  A connected row is the mouse's if it was, or if it is attached to it blank. -/
theorem scanConnections_shows (hmode : state.identityMode = .persistent) (hv : state.validate = .ok ())
    (hidle : state.identitySetup = none) (hfree : ∀ row ∈ rows, row.resolution.isUnknown = true →
      ∀ T, presentedToken row = some T → ∀ m, physicalIdOf state m ≠ some T) :
    ∃ g : ResolvedConnection → ResolvedConnection, scanConnections now state rows = rows.map g ∧
      (∀ row, (g row).endpoint = row.endpoint ∧ (g row).connected = row.connected) ∧
      (∀ row, row.resolution.isUnknown = false → g row = row) ∧ ∀ row ∈ rows, row.connected = true → ∀ d, (g row).resolution = .resolved d ↔
        row.resolution = .resolved d ∨ AttachedBlank state rows d row := by
  rcases silentAttachments_cases state rows with hnone | ⟨u, m, hsole, hsetup, hu, hsilent⟩
  · refine ⟨id, ?_, fun row => ⟨rfl, rfl⟩, fun _ _ => rfl, fun row hrow hconnected d => ?_⟩
    · rw [scanConnections, hnone, List.map_id]
      rfl
    · refine ⟨.inl, fun h => h.resolve_right ?_⟩
      rintro ⟨hsole, -, hu⟩
      rw [silentAttachments_sole hidle hsole hu] at hnone
      cases hnone
  obtain ⟨mouse, hmouse⟩ := silentAttachment_saved hu
  refine ⟨reresolveRow (Txn.attach state m mouse u.endpoint now), ?_, fun row => reresolveRow_place,
    fun row => reresolveRow_known, fun row hrow hconnected d => ?_⟩
  · simp only [scanConnections, hsilent, List.isEmpty_cons, Bool.false_eq_true, if_false, silentlyAttached,
      List.foldl_cons, List.foldl_nil, attachSilently_after hmouse]
    rfl
  cases hunknown : row.resolution.isUnknown with
  | false =>
    rw [reresolveRow_known hunknown]
    refine ⟨.inl, fun h => h.resolve_right ?_⟩
    rintro ⟨hrow, -⟩
    rw [(mem_unknownRows.1 (hrow ▸ List.mem_singleton_self row)).2.2] at hunknown
    cases hunknown
  | true =>
    have hsame : row = u := by
      have hmem : row ∈ unknownRows rows := mem_unknownRows.2 ⟨hrow, hconnected, hunknown⟩
      rwa [hsole, List.mem_singleton] at hmem
    subst hsame
    have hother : row.resolution ≠ .resolved d := by
      intro hres
      rw [hres] at hunknown
      cases hunknown
    cases hT : presentedToken row with
    | none =>
      rw [reresolveRow_remembered hunknown (by rw [hT]; rfl) (attach_remembers ..)]
      constructor
      · intro h
        cases h
        exact .inr ⟨hsole, hT, hu⟩
      · rintro (h | ⟨-, -, hd⟩)
        · exact absurd h hother
        · rw [hu, Option.some.injEq] at hd
          rw [hd]
    | some T =>
      have hcontradicted : rememberedMappingAgrees (Txn.attach state m mouse row.endpoint now) row.endpoint
          (presentedToken row) = false := by
        obtain ⟨A, hA⟩ := StateFile.valid_physicalId hv hmode hmouse
        have hkept := (@attach_physicalIdOf state m now row.endpoint mouse hmouse m).trans hA
        rw [physicalIdOf] at hkept
        simp only [hT, rememberedMappingAgrees, attach_remembers, Option.all_some, hkept, decide_eq_false_iff_not]
        rintro rfl
        exact hfree row hrow hunknown A hT m hA
      rw [reresolveRow_contradicted hcontradicted]
      refine ⟨.inl, fun h => h.resolve_right ?_⟩
      rintro ⟨-, hnone, -⟩
      rw [hT] at hnone
      cases hnone

end Rows

/-! ## Where the mouse is opened -/

section Opened

variable {bench : Bench} {selection : TransportSelection} {cache : IdentityCache} {view : DiscoveryView} {desk' : Desk}
  {rows : List ResolvedConnection} {token : PhysicalId} {e : DeviceEndpoint} {done : StateFile} {d : DeviceId}
  {device : DeviceState}

/-- The last of the mouse's rows on a transport. -/
def lastOn (transport : TransportKind) (rows : List ResolvedConnection) (d : DeviceId) : Option DeviceEndpoint :=
  ((rowsOf rows d).filter (·.transport = transport)).getLast?

theorem isSome_lastOn {row : ResolvedConnection} (hrow : row ∈ rows) (hres : row.resolution = .resolved d) :
    (lastOn row.endpoint.transport rows d).isSome = true := by
  have hmem : row.endpoint ∈ (rowsOf rows d).filter (·.transport = row.endpoint.transport) := by
    refine List.mem_filter.2 ⟨List.mem_map_of_mem (List.mem_filter.2 ⟨hrow, decide_eq_true hres⟩), decide_eq_true rfl⟩
  rw [lastOn, List.getLast?_isSome]
  exact List.ne_nil_of_mem hmem

/-- What is attached without asking is on a transport that was scanned. -/
theorem attached_scanned {now : Timestamp} (hm : Made.At token e done d device)
    (hscanned : ∀ row ∈ rows, row.endpoint.transport ∈ selection.scanTransports)
    (he : e.transport ∈ selection.scanTransports) :
    ∃ middle, (silentlyAttached now done (silentAttachments done rows)).devices[d]? = some middle ∧
      middle.identity.preferredTransport = none ∧
      ∀ transport, transport ∉ selection.scanTransports → middle.identity.endpoints[transport]? = none := by
  have halone : ∀ transport, transport ∉ selection.scanTransports → device.identity.endpoints[transport]? = none := by
    intro transport hunscanned
    have hplace : e.transport ≠ transport := by
      rintro rfl
      exact hunscanned he
    rw [hm.alone, BTreeMap.get_insert_of_ne _ hplace, Std.ExtTreeMap.getElem?_empty]
  rcases silentAttachments_cases done rows with hnone | ⟨u, m, hsole, -, hu, hsilent⟩
  · rw [hnone]
    exact ⟨device, hm.saved, hm.preferred, halone⟩
  · obtain ⟨mouse, hmouse⟩ := silentAttachment_saved hu
    rw [hsilent, silentlyAttached, List.foldl_cons, List.foldl_nil, attachSilently_after hmouse]
    by_cases heq : m = d
    · subst heq
      rw [hm.saved] at hmouse
      cases hmouse
      refine ⟨{ device with identity := device.identity.upsertEndpoint u.endpoint }, BTreeMap.get_insert_self .., hm.preferred, ?_⟩
      intro transport hunscanned
      have hplace : u.endpoint.transport ≠ transport := by
        rintro rfl
        exact hunscanned (hscanned u (mem_unknownRows.1 (hsole ▸ List.mem_singleton_self u)).1)
      show (device.identity.endpoints.insert u.endpoint.transport u.endpoint)[transport]? = none
      rw [BTreeMap.get_insert_of_ne _ hplace]
      exact halone transport hunscanned
    · exact ⟨device, (BTreeMap.get_insert_of_ne done.devices heq _).trans hm.saved, hm.preferred, halone⟩

/-- **The mouse is opened at its last wired row, else at its last receiver row**, if one is resolved to it. -/
theorem selected_after (hm : Made.At token e done d device)
    (hscan : Scanned bench selection ⟨done, cache, []⟩ view desk' rows)
    (hscanned : ∀ row ∈ rows, row.endpoint.transport ∈ selection.scanTransports)
    (he : e.transport ∈ selection.scanTransports) {row : ResolvedConnection} (hrow : row ∈ view.connections)
    (hres : row.resolution = .resolved d) (husb : isUsbTransport row.endpoint.transport = true) :
    ∃ device', desk'.store.devices[d]? = some device' ∧
      device'.identity.selectedEndpoint = (lastOn .wired view.connections d).or (lastOn .receiver view.connections d) := by
  obtain ⟨middle, hmiddle, hpreferred, hunscanned⟩ := @attached_scanned selection rows token e done d device bench.now hm hscanned he
  have hown : own view.connections d ≠ [] := by
    rw [Ne, own_eq_nil]
    exact fun hnone => hnone row hrow hres
  have hget : ∀ transport : TransportKind, transport ≠ .ble → (syncedEndpoints middle.identity.endpoints
      selection.scanTransports ((own view.connections d).map (·.endpoint)))[transport]? =
        lastOn transport view.connections d := by
    intro transport hne
    have hown : rowsOf view.connections d = (own view.connections d).map (·.endpoint) := rfl
    rw [get_syncedEndpoints, lastOn, hown]
    split
    · next hor => rw [hunscanned transport (hor.resolve_left hne), Option.or_none]
    · rw [Option.or_none]
  refine ⟨Txn.syncDevice view.connections selection d middle, ?_, ?_⟩
  · rw [hscan.store]
    show ((silentlyAttached bench.now done (silentAttachments done rows)).devices.map
      (Txn.syncDevice view.connections selection))[d]? = _
    rw [Std.ExtTreeMap.getElem?_map, hmiddle]
    rfl
  · rw [syncDevice_of_some hown]
    simp only [DeviceIdentity.selectedEndpoint, hpreferred, Option.bind_none, Option.none_or, List.findSome?_cons,
      DeviceIdentity.endpoint]
    rw [hget .wired nofun, hget .receiver nofun]
    have hsome := isSome_lastOn hrow hres
    cases hwired : lastOn .wired view.connections d with
    | some endpoint => rfl
    | none =>
      cases hreceiver : lastOn .receiver view.connections d with
      | some endpoint => rfl
      | none =>
        exfalso
        cases ht : row.endpoint.transport with
        | ble =>
          rw [ht] at husb
          cases husb
        | wired =>
          rw [ht, hwired] at hsome
          cases hsome
        | receiver =>
          rw [ht, hreceiver] at hsome
          cases hsome

/-- The rows shown as the mouse's on a transport. -/
def shownOn (transport : TransportKind) (g : ResolvedConnection → ResolvedConnection) (rows : List ResolvedConnection)
    (d : DeviceId) : List ResolvedConnection :=
  rows.filter fun row => decide (row.endpoint.transport = transport) && decide ((g row).resolution = .resolved d)

theorem mem_shownOn {transport : TransportKind} {g : ResolvedConnection → ResolvedConnection} {row : ResolvedConnection} :
    row ∈ shownOn transport g rows d ↔
      row ∈ rows ∧ row.endpoint.transport = transport ∧ (g row).resolution = .resolved d := by
  simp [shownOn]

theorem lastOn_map {transport : TransportKind} {g : ResolvedConnection → ResolvedConnection}
    (hplace : ∀ row, (g row).endpoint = row.endpoint) :
    lastOn transport (rows.map g) d = (shownOn transport g rows d).getLast?.map (·.endpoint) := by
  have hends : (fun row : ResolvedConnection => row.endpoint) ∘ g = fun row => row.endpoint := funext hplace
  have hshown : rowsOf (rows.map g) d =
      (rows.filter fun row => decide ((g row).resolution = .resolved d)).map (·.endpoint) := by
    rw [rowsOf, List.filter_map, List.map_map, hends]
    rfl
  rw [lastOn, hshown, List.filter_map, List.filter_filter, List.getLast?_map]
  rfl

/-- **A mouse is opened at the row that is preferred to all its others.** -/
theorem opened_preferred {g : ResolvedConnection → ResolvedConnection} {endpoint : DeviceEndpoint}
    (hplace : ∀ row, (g row).endpoint = row.endpoint)
    (h : (lastOn .wired (rows.map g) d).or (lastOn .receiver (rows.map g) d) = some endpoint) :
    ∃ x ∈ rows, (g x).resolution = .resolved d ∧ x.endpoint = endpoint ∧ isUsbTransport x.endpoint.transport = true ∧
      (∀ r ∈ rows, (g r).resolution = .resolved d → r ≠ x → Preferred rows x r) ∧
      (rows.count x ≤ 1 → ∀ r ∈ rows, (g r).resolution = .resolved d → ¬ Preferred rows r x) := by
  rw [lastOn_map hplace, lastOn_map hplace] at h
  have hlater : ∀ {transport x}, (shownOn transport g rows d).getLast? = some x → rows.count x ≤ 1 → ∀ r,
      r.endpoint.transport = transport → (g r).resolution = .resolved d → ¬ [x, r].Sublist rows := by
    intro transport x hlast honce r ht hres hsub
    obtain ⟨-, htx, hresx⟩ := mem_shownOn.1 (List.mem_of_getLast? hlast)
    refine not_sublist_getLast hlast ((List.Sublist.count_le x List.filter_sublist).trans honce) (r := r) ?_
    have hkept := hsub.filter fun row =>
      decide (row.endpoint.transport = transport) && decide ((g row).resolution = .resolved d)
    rw [List.filter_cons_of_pos (by simp [htx, hresx]), List.filter_cons_of_pos (by simp [ht, hres])] at hkept
    exact hkept
  have hearlier : ∀ {transport x}, (shownOn transport g rows d).getLast? = some x → ∀ r ∈ rows,
      r.endpoint.transport = transport → (g r).resolution = .resolved d → r ≠ x → [r, x].Sublist rows := by
    intro transport x hlast r hr ht hres hne
    exact (sublist_getLast hlast (mem_shownOn.2 ⟨hr, ht, hres⟩) hne).trans List.filter_sublist
  cases hwired : (shownOn .wired g rows d).getLast? with
  | some x =>
    rw [hwired] at h
    cases h
    obtain ⟨hx, htx, hresx⟩ := mem_shownOn.1 (List.mem_of_getLast? hwired)
    refine ⟨x, hx, hresx, rfl, by rw [htx]; rfl, fun r hr hres hne => ?_, fun honce r hr hres hpreferred => ?_⟩
    · cases ht : r.endpoint.transport with
      | wired => exact .inr ⟨htx.trans ht.symm, hearlier hwired r hr ht hres hne⟩
      | receiver => exact .inl (by rw [htx, ht]; decide)
      | ble => exact .inl (by rw [htx, ht]; decide)
    · rcases hpreferred with hfirst | ⟨hsame, hsub⟩
      · rw [htx] at hfirst
        cases ht : r.endpoint.transport <;> rw [ht] at hfirst <;> revert hfirst <;> decide
      · exact hlater hwired honce r (hsame.trans htx) hres hsub
  | none =>
    rw [hwired] at h
    have hnone : ∀ r ∈ rows, (g r).resolution = .resolved d → r.endpoint.transport ≠ .wired := by
      intro r hr hres ht
      have hmem : r ∈ shownOn .wired g rows d := mem_shownOn.2 ⟨hr, ht, hres⟩
      rw [List.getLast?_eq_none_iff.1 hwired] at hmem
      cases hmem
    obtain ⟨x, hreceiver, rfl⟩ := Option.map_eq_some_iff.1 h
    obtain ⟨hx, htx, hresx⟩ := mem_shownOn.1 (List.mem_of_getLast? hreceiver)
    refine ⟨x, hx, hresx, rfl, by rw [htx]; rfl, fun r hr hres hne => ?_, fun honce r hr hres hpreferred => ?_⟩
    · cases ht : r.endpoint.transport with
      | wired => exact absurd ht (hnone r hr hres)
      | receiver => exact .inr ⟨htx.trans ht.symm, hearlier hreceiver r hr ht hres hne⟩
      | ble => exact .inl (by rw [htx, ht]; decide)
    · rcases hpreferred with hfirst | ⟨hsame, hsub⟩
      · rw [htx] at hfirst
        cases ht : r.endpoint.transport with
        | wired => exact hnone r hr hres ht
        | receiver | ble =>
          rw [ht] at hfirst
          revert hfirst
          decide
      · exact hlater hreceiver honce r (hsame.trans htx) hres hsub

end Opened

/-! ## The next scan -/

section Next

variable [Crc32fast] {bench : Bench} {selection : TransportSelection} {cache : IdentityCache} {view : DiscoveryView}
  {desk' : Desk} {token : PhysicalId} {e : DeviceEndpoint} {state done : StateFile} {d : DeviceId} {device : DeviceState}
  {rows : List ResolvedConnection}

/-- **The mouse is at hand**: the scan shows it where it was made, and it opens where it is selected. -/
structure AtHand (view : DiscoveryView) (desk' : Desk) (d : DeviceId) (e : DeviceEndpoint) : Prop where
  shown : ⟨e, true, .resolved d⟩ ∈ view.connections
  opens : ∃ device endpoint, desk'.store.devices[d]? = some device ∧ device.identity.selectedEndpoint = some endpoint ∧
    PassesGate desk' d endpoint

/-- **Nothing stale is in the mouse's way**: what is cached of its connection is nothing or its token, unless the connection
is attached to it blank, and a connection that is attached to it blank is not where it is opened. -/
structure NothingStale (done : StateFile) (cache : IdentityCache) (rows : List ResolvedConnection) (d : DeviceId)
    (e : DeviceEndpoint) (token : PhysicalId) : Prop where
  cached : cache.lookup e = none ∨ cache.lookup e = some (.valid token) ∨ ∃ u, AttachedBlank done rows d u ∧ u.endpoint = e
  preferred : ∀ u, AttachedBlank done rows d u → ∃ row ∈ rows, row.resolution = .resolved d ∧ Preferred rows row u

omit [Crc32fast] in
theorem mem_scanTransports {transport : TransportKind} (h : Enumeration.wanted selection transport = true) :
    transport ∈ selection.scanTransports := by
  cases selection with
  | auto => cases transport <;> decide
  | exact only =>
    rw [of_decide_eq_true h]
    exact List.mem_singleton_self _

omit [Crc32fast] in
theorem presentedToken_some {row : ResolvedConnection} {T : PhysicalId} (h : presentedToken row = some T) :
    row.resolution = .unassociated .unknown (some T) := by
  cases hres : row.resolution with
  | resolved d =>
    rw [presentedToken, hres] at h
    cases h
  | unassociated reason presented =>
    rw [presentedToken, hres] at h
    cases reason with
    | unknown =>
      cases presented with
      | none => cases h
      | some T' =>
        cases h
        rfl
    | absent | malformed | unsupported | duplicate | reserved | reservedByJournal => cases h

omit [Crc32fast] in
theorem ble_presentsNone {disc : DiscoveredEndpoint} (hble : disc.endpoint.transport = .ble) (T : PhysicalId) :
    resolveConnection done.devices done.identitySetup none disc.endpoint (scanDecode .persistent cache disc) ≠
      .unassociated .unknown (some T) := by
  unfold resolveConnection
  rw [hble]
  dsimp only
  cases done.devices.values.find? _ with
  | none => nofun
  | some saved => nofun

omit [Crc32fast] in
/-- No unknown row of the scan presents a saved mouse's token. -/
theorem presentedToken_free (hm : Made.At token e done d device)
    (hscan : Scanned bench selection ⟨done, cache, []⟩ view desk' rows) {row : ResolvedConnection} (hrow : row ∈ rows)
    (hunknown : row.resolution.isUnknown = true) :
    ∀ T, presentedToken row = some T → ∀ m, physicalIdOf done m ≠ some T := by
  intro T hT
  obtain ⟨discovered, hlisted, hrows⟩ := hscan.listed
  have hmem := hrow
  rw [hrows] at hmem
  obtain ⟨disc, hdisc, hendpoint, hconnected, hres⟩ := mem_resolveScanRows hmem
  cases husb : isUsbTransport row.endpoint.transport with
  | true =>
    have hlive := bench.usbConnected selection discovered hlisted disc hdisc (hendpoint ▸ husb)
    rcases (hscan.resolvesTo hm.valid hrow (hconnected.trans hlive) husb).unknown hunknown with
      ⟨T', -, free, hres⟩ | ⟨-, hres⟩
    · rw [presentedToken, hres] at hT
      cases hT
      exact free
    · rw [presentedToken, hres] at hT
      cases hT
  | false =>
    have hble : disc.endpoint.transport = .ble := by
      rw [← hendpoint]
      cases ht : row.endpoint.transport with
      | ble => rfl
      | wired | receiver =>
        rw [ht] at husb
        cases husb
    rcases hres with hres | ⟨T', hres, -⟩
    · exact absurd (hres.symm.trans (presentedToken_some hT)) (ble_presentsNone hble T)
    · exact absurd hres (ble_presentsNone hble T')

/-- **What is known of the scan after the ceremony**: its rows, what was cached of them, and what each is shown as. -/
structure NextScan (bench : Bench) (selection : TransportSelection) (cache : IdentityCache) (view : DiscoveryView)
    (desk' : Desk) (token : PhysicalId) (e : DeviceEndpoint) (done : StateFile) (d : DeviceId) (device : DeviceState)
    (rows : List ResolvedConnection) (g : ResolvedConnection → ResolvedConnection) : Prop where
  made : Made.At token e done d device
  scan : Scanned bench selection ⟨done, cache, []⟩ view desk' rows
  shows : view.connections = rows.map g
  place : ∀ row, (g row).endpoint = row.endpoint ∧ (g row).connected = row.connected
  known : ∀ row, row.resolution.isUnknown = false → g row = row
  resolved : ∀ row ∈ rows, row.connected = true → ∀ m, (g row).resolution = .resolved m ↔
    row.resolution = .resolved m ∨ AttachedBlank done rows m row
  scanned : ∀ row ∈ rows, row.endpoint.transport ∈ selection.scanTransports
  live : ∀ row ∈ rows, isUsbTransport row.endpoint.transport = true → row.connected = true
  listed : ∃ row ∈ rows, row.endpoint = e
  lookup : desk'.cache.lookup e = (cache.lookup e).or (some (.valid token))

theorem nextScan (hcompletes : Completes token e state done) (hattached : bench.Attached selection e token)
    (h : bench.call (discover selection) ⟨done, cache, []⟩ = some (.ok view, desk')) :
    ∃ d device g, NextScan bench selection cache view desk' token e done d device
      (scanRows bench selection done desk'.cache) g := by
  obtain ⟨d, device, hm⟩ := hcompletes.made
  have hscan : Scanned bench selection ⟨done, cache, []⟩ view desk' _ := discover_ok hm.persistent h
  obtain ⟨g, hg, hplace, hknown, hresolved⟩ :=
    @scanConnections_shows done (scanRows bench selection done desk'.cache) bench.now hm.persistent hm.valid hm.idle
      (fun row hrow hunknown => presentedToken_free hm hscan hrow hunknown)
  obtain ⟨found, hfound⟩ := hattached.enumerated
  obtain ⟨discovered, hlisted, hmem, -⟩ := hattached.listed
  obtain ⟨discovered', hlisted', hrows⟩ := hscan.listed
  rw [hlisted, Except.ok.injEq] at hlisted'
  subst hlisted'
  refine ⟨d, device, g, hm, hscan, hscan.connections.trans hg, hplace, hknown, hresolved, ?_, ?_, ?_,
    hattached.lookup hm.persistent hm.usb h⟩
  · intro row hrow
    rw [hrows] at hrow
    obtain ⟨disc, hdisc, hendpoint, -⟩ := mem_resolveScanRows hrow
    rw [hendpoint]
    exact mem_scanTransports (Enumeration.list_listed (hfound.symm.trans hlisted) disc hdisc).wanted
  · intro row hrow husb
    rw [hrows] at hrow
    obtain ⟨disc, hdisc, hendpoint, hconnected, -⟩ := mem_resolveScanRows hrow
    rw [hconnected]
    exact bench.usbConnected selection discovered hlisted disc hdisc (hendpoint ▸ husb)
  · obtain ⟨row, hrow, hendpoint, -⟩ := @resolveScanRows_mem done desk'.cache discovered _ hmem
    rw [← hrows] at hrow
    exact ⟨row, hrow, hendpoint⟩

namespace NextScan

variable {g : ResolvedConnection → ResolvedConnection}

omit [Crc32fast] in
theorem has (hn : NextScan bench selection cache view desk' token e done d device rows g) :
    physicalIdOf done d = some token :=
  (StateFile.physicalIdOf_eq hn.made.saved).trans hn.made.has

omit [Crc32fast] in
/-- A row that is the mouse's by its token had the token cached. -/
theorem cached_own (hn : NextScan bench selection cache view desk' token e done d device rows g)
    {row : ResolvedConnection} (hrow : row ∈ rows) (husb : isUsbTransport row.endpoint.transport = true)
    (hres : row.resolution = .resolved d) : desk'.cache.lookup row.endpoint = some (.valid token) := by
  have hresolves := hn.scan.resolvesTo hn.made.valid hrow (hn.live row hrow husb) husb
  rw [hres] at hresolves
  obtain ⟨T, hT, hhas, -⟩ := hresolves.of_resolved
  have hsame := hn.has.symm.trans hhas
  rw [hT, Option.some.inj hsame]

omit [Crc32fast] in
/-- A row that is attached blank had no token cached. -/
theorem cached_blank (hn : NextScan bench selection cache view desk' token e done d device rows g) {u : ResolvedConnection}
    (hattach : AttachedBlank done rows d u) (husb : isUsbTransport u.endpoint.transport = true) :
    desk'.cache.lookup u.endpoint ≠ some (.valid token) := by
  intro hcached
  obtain ⟨hsole, hnone, -⟩ := hattach
  obtain ⟨hrow, hconnected, hunknown⟩ := mem_unknownRows.1 (hsole ▸ List.mem_singleton_self u)
  rcases (hn.scan.resolvesTo hn.made.valid hrow hconnected husb).unknown hunknown with ⟨T, -, -, hres⟩ | ⟨hread, -⟩
  · rw [presentedToken, hres] at hnone
    cases hnone
  · rw [hcached] at hread
    simp at hread

omit [Crc32fast] in
theorem attached_mem (hn : NextScan bench selection cache view desk' token e done d device rows g) {u : ResolvedConnection}
    (hattach : AttachedBlank done rows d u) : u ∈ rows ∧ (g u).resolution = .resolved d := by
  obtain ⟨hu, hconnected, -⟩ := mem_unknownRows.1 (hattach.1 ▸ List.mem_singleton_self u)
  exact ⟨hu, (hn.resolved u hu hconnected d).2 (.inr hattach)⟩

omit [Crc32fast] in
/-- What is shown at the mouse's connection is opened where a mouse's rows are opened. -/
theorem opened (hn : NextScan bench selection cache view desk' token e done d device rows g)
    (hshown : ⟨e, true, .resolved d⟩ ∈ view.connections) : ∃ device', desk'.store.devices[d]? = some device' ∧
      device'.identity.selectedEndpoint = (lastOn .wired (rows.map g) d).or (lastOn .receiver (rows.map g) d) := by
  obtain ⟨row, hrow, hend⟩ := hn.listed
  rw [← hn.shows]
  exact selected_after hn.made hn.scan hn.scanned (hend ▸ hn.scanned row hrow) hshown rfl hn.made.usb

/-- A mouse that is at hand was opened at its token, and was shown by its token or blank. -/
theorem nothingStale (hn : NextScan bench selection cache view desk' token e done d device rows g)
    (h : AtHand view desk' d e) : NothingStale done cache rows d e token := by
  obtain ⟨hshown, device', endpoint, hsaved, hselected, hpasses⟩ := h
  obtain ⟨_, hsaved', hselected'⟩ := hn.opened hshown
  rw [hsaved, Option.some.injEq] at hsaved'
  subst hsaved'
  rw [hselected] at hselected'
  obtain ⟨x, hx, hresx, rfl, husb, hprefers, -⟩ := opened_preferred (fun row => (hn.place row).1) hselected'.symm
  have hphysical : device'.identity.physicalId = some token := by
    rw [← StateFile.physicalIdOf_eq hsaved, hn.scan.keeps (ordinarilyKept_token d)]
    exact hn.has
  have hresolved : x.resolution = .resolved d := by
    rcases (hn.resolved x hx (hn.live x hx husb) d).1 hresx with hres | hattach
    · exact hres
    · exact absurd hpasses (not_passesGate hsaved hphysical hselected husb (hn.cached_blank hattach husb))
  refine ⟨?_, fun u hattach => ?_⟩
  · rw [hn.shows] at hshown
    obtain ⟨r, hr, hgr⟩ := List.mem_map.1 hshown
    have hend : r.endpoint = e := by rw [← (hn.place r).1, hgr]
    have husb : isUsbTransport r.endpoint.transport = true := hend ▸ hn.made.usb
    rcases (hn.resolved r hr (hn.live r hr husb) d).1 (by rw [hgr]) with hres | hattach
    · have hcached := hn.cached_own hr husb hres
      rw [hend, hn.lookup] at hcached
      cases hcache : cache.lookup e with
      | none => exact .inl rfl
      | some decode =>
        rw [hcache, Option.some_or] at hcached
        exact .inr (.inl hcached)
    · exact .inr (.inr ⟨r, hattach, hend⟩)
  · obtain ⟨hu, hshows⟩ := hn.attached_mem hattach
    refine ⟨x, hx, hresolved, hprefers u hu hshows ?_⟩
    rintro rfl
    exact hn.cached_blank hattach husb (hn.cached_own hu husb hresolved)

omit [Crc32fast] in
/-- The mouse's connection is shown as the mouse's. -/
theorem shown (hn : NextScan bench selection cache view desk' token e done d device rows g)
    (hcached : cache.lookup e = none ∨ cache.lookup e = some (.valid token) ∨
      ∃ u, AttachedBlank done rows d u ∧ u.endpoint = e) : ⟨e, true, .resolved d⟩ ∈ view.connections := by
  obtain ⟨r, hr, hend, hres⟩ : ∃ r ∈ rows, r.endpoint = e ∧ (g r).resolution = .resolved d := by
    rcases or_assoc.2 hcached with hcache | ⟨u, hattach, hend⟩
    · have hread : desk'.cache.lookup e = some (.valid token) := by
        rw [hn.lookup]
        rcases hcache with hnone | hsame
        · rw [hnone, Option.none_or]
        · rw [hsame, Option.some_or]
      obtain ⟨r, hr, hend⟩ := hn.listed
      have husb : isUsbTransport r.endpoint.transport = true := hend ▸ hn.made.usb
      have hresolves := hn.scan.resolvesTo hn.made.valid hr (hn.live r hr husb) husb
      rw [hend, hread] at hresolves
      refine ⟨r, hr, hend, (hn.resolved r hr (hn.live r hr husb) d).2 (.inl (hresolves.eq_of_found ?_ hn.made.valid))⟩
      show resolveValidToken done.devices done.identitySetup token = .resolved d
      rw [hn.made.idle]
      exact hn.made.resolves
    · exact ⟨u, (hn.attached_mem hattach).1, hend, (hn.attached_mem hattach).2⟩
  have husb : isUsbTransport r.endpoint.transport = true := hend ▸ hn.made.usb
  have hgr : g r = ⟨e, true, .resolved d⟩ := by
    rw [← hend, ← (hn.place r).1, ← hn.live r hr husb, ← (hn.place r).2, ← hres]
  rw [hn.shows, ← hgr]
  exact List.mem_map_of_mem hr

/-- Where nothing stale is in its way, the mouse is shown, and opened at its token. -/
theorem atHand (hn : NextScan bench selection cache view desk' token e done d device rows g)
    (h : NothingStale done cache rows d e token) : AtHand view desk' d e := by
  have hshown := hn.shown h.cached
  obtain ⟨device', hsaved, hselected⟩ := hn.opened hshown
  have hsome : ((lastOn .wired (rows.map g) d).or (lastOn .receiver (rows.map g) d)).isSome = true := by
    have hlast := isSome_lastOn (hn.shows ▸ hshown) rfl
    rw [Option.isSome_or, Bool.or_eq_true]
    cases ht : e.transport with
    | wired => exact .inl (ht ▸ hlast)
    | receiver => exact .inr (ht ▸ hlast)
    | ble =>
      have husb := hn.made.usb
      rw [ht] at husb
      cases husb
  obtain ⟨endpoint, hendpoint⟩ := Option.isSome_iff_exists.1 hsome
  refine ⟨hshown, device', endpoint, hsaved, hselected.trans hendpoint, ?_⟩
  obtain ⟨x, hx, hresx, rfl, husb, -, hlast⟩ := opened_preferred (fun row => (hn.place row).1) hendpoint
  refine passesGate_of_cached ?_ ?_ (hn.cached_own hx husb ?_)
  · rw [hn.scan.keeps ordinarilyKept_identitySetup]
    exact hn.made.idle
  · rw [hn.scan.keeps (ordinarilyKept_token d)]
    exact hn.has
  · rcases (hn.resolved x hx (hn.live x hx husb) d).1 hresx with hresolved | hattach
    · exact hresolved
    · -- a row that is preferred to the one opened would have been opened itself
      obtain ⟨row, hrow, hresolved, hprefers⟩ := h.preferred x hattach
      refine absurd hprefers (hlast (count_sole hattach.1).le row hrow ?_)
      rw [hn.known row (by rw [hresolved]; rfl), hresolved]

end NextScan

/-- **After a completed ceremony the next scan has the mouse at hand exactly when nothing stale is in its way.** -/
theorem usable_iff (hcompletes : Completes token e state done) (hattached : bench.Attached selection e token)
    (h : bench.call (discover selection) ⟨done, cache, []⟩ = some (.ok view, desk')) :
    ∃ d, physicalIdOf done d = some token ∧
      (AtHand view desk' d e ↔ NothingStale done cache (scanRows bench selection done desk'.cache) d e token) := by
  obtain ⟨d, device, g, hn⟩ := nextScan hcompletes hattached h
  exact ⟨d, hn.has, hn.nothingStale, hn.atHand⟩

/-! ## After any scans -/

/-- **An earlier scan**, of the hardware that was there, over the store it found. -/
structure PastScan where
  bench : Bench
  selection : TransportSelection
  store : StateFile

/-- The cache a scan leaves, whether it returned or failed. -/
def PastScan.leaves (scan : PastScan) (cache : IdentityCache) : IdentityCache :=
  ((scan.bench.call (discover scan.selection) ⟨scan.store, cache, []⟩).map (·.2.cache)).getD cache

/-- **What a manager has cached** after its scans, the newest first. -/
def cacheAfter : List PastScan → IdentityCache := List.foldr PastScan.leaves fun _ => none

/-- **A scan that returned without the endpoint forgets it.** -/
theorem lookup_leaves_unlisted {scan : PastScan} (hmode : scan.store.identityMode = .persistent)
    (hreturned : scan.bench.call (discover scan.selection) ⟨scan.store, cache, []⟩ = some (.ok view, desk'))
    (hgone : ∀ discovered, scan.bench.list scan.selection = .ok discovered → ∀ disc ∈ discovered, disc.endpoint ≠ e) :
    (scan.leaves cache).lookup e = none := by
  obtain ⟨discovered, desk₁, hlisted, hauthenticate, hcache⟩ := discover_authenticates hmode hreturned
  obtain ⟨_, desk₀, _, h₁⟩ := Bench.of_call_bind hauthenticate
  obtain ⟨_, desk₂, _, h₂⟩ := Bench.of_call_bind h₁
  cases h₂
  have hleft : scan.leaves cache = desk'.cache := by
    rw [PastScan.leaves, hreturned]
    rfl
  have hunlisted : (discovered.any fun disc => disc.connected && disc.endpoint = e) = false := by
    refine List.any_eq_false.2 fun disc hdisc => ?_
    simp [hgone discovered hlisted disc hdisc]
  rw [hleft, hcache]
  refine Option.map_eq_none_iff.2 (Option.filter_eq_none_iff.2 fun entry hentry => ?_)
  rw [decide_eq_true_eq]
  rintro rfl
  obtain ⟨-, hkept⟩ := Option.filter_eq_some_iff.1 (Option.mem_def.1 hentry)
  rw [hunlisted, Bool.and_false] at hkept
  cases hkept

/-- **A completed ceremony's mouse is usable after any scans before it exactly when nothing stale is in its way**: what the
manager has cached of the mouse's endpoint, and a blank connection it attaches to the mouse. -/
theorem completed_usable_iff (earlier : List PastScan) (hcompletes : Completes token e state done)
    (hattached : bench.Attached selection e token)
    (h : bench.call (discover selection) ⟨done, cacheAfter earlier, []⟩ = some (.ok view, desk')) :
    ∃ d, physicalIdOf done d = some token ∧ (AtHand view desk' d e ↔
      NothingStale done (cacheAfter earlier) (scanRows bench selection done desk'.cache) d e token) := by
  obtain ⟨d, device, g, hn⟩ := nextScan hcompletes hattached h
  exact ⟨d, hn.has, hn.nothingStale, hn.atHand⟩

end Next

end AttackSharkX3

namespace AttackSharkX3.Rig

/-- The unit that was stamped last, still on its cable. -/
def plugged : List (DeviceEndpoint × Mouse) := [plug "c" (some (token 3))]

/-- What enumerating finds of it. -/
def pluggedFound : Enumeration where
  usb kind := .ok (if kind = .wired then [⟨0x1d57, 0xfa61, none, "c", none⟩] else [])
  ble := .ok []
  sim := .ok none

theorem plugged_attached : (bench plugged).Attached .auto (wired "c") (token 3) where
  enumerated := ⟨pluggedFound, by decide +kernel⟩
  listed := ⟨listing [wired "c"], rfl, List.mem_singleton_self _, fun disc hdisc _ => by
    rw [listing, List.map_singleton, List.mem_singleton] at hdisc
    rw [hdisc]⟩
  opens := rfl
  answers := by decide +kernel

theorem completes_restore : Completes (token 3) (wired "c") (lastWrite two) (afterRestore two) where
  valid := by decide +kernel
  usb := rfl
  assignable := by decide +kernel
  finalized := ⟨_, _, _, _, _, commits_reliably _ _, rfl, nofun, .finished rfl (by decide) rfl, List.mem_singleton_self _,
    rfl, rfl⟩
  ended := by decide +kernel

/-- **With nothing cached the restored mouse is at hand; with the blank watermark it had before, it is not.** -/
theorem usable_restored : (∃ view desk', (bench plugged).call (discover .auto) (deskOf (afterRestore two)) =
      some (.ok view, desk') ∧ AtHand view desk' mouse1 (wired "c")) ∧
    ∃ view desk', (bench plugged).call (discover .auto) ⟨afterRestore two, fun key =>
        if key = (wired "c").key then some (.absent, wired "c") else none, []⟩ = some (.ok view, desk') ∧
      ¬ AtHand view desk' mouse1 (wired "c") := by
  have hmouse : ∀ d, physicalIdOf (afterRestore two) d = some (token 3) → d = mouse1 := fun d hd =>
    StateFile.physicalIdOf_inj (by decide +kernel) (by decide +kernel) hd (by decide +kernel)
  constructor
  · obtain ⟨view, desk', hcall, htest⟩ := benched plugged (discover .auto) (deskOf (afterRestore two))
      (fun _ desk' => unknownRows (scanRows (bench plugged) .auto (afterRestore two) desk'.cache) = []) (by decide +kernel)
    refine ⟨view, desk', hcall, ?_⟩
    obtain ⟨d, hd, hiff⟩ := usable_iff completes_restore plugged_attached hcall
    obtain rfl := hmouse d hd
    refine hiff.2 ⟨.inl rfl, ?_⟩
    rintro u ⟨hsole, -⟩
    rw [of_decide_eq_true htest] at hsole
    cases hsole
  · obtain ⟨view, desk', hcall, htest⟩ := benched plugged (discover .auto) ⟨afterRestore two, fun key =>
        if key = (wired "c").key then some (.absent, wired "c") else none, []⟩
      (fun _ desk' => (scanRows (bench plugged) .auto (afterRestore two) desk'.cache).all fun row =>
        row.resolution ≠ .resolved mouse1 ∧ silentAttachment (afterRestore two) 1 row = none) (by decide +kernel)
    refine ⟨view, desk', hcall, fun hhand => ?_⟩
    obtain ⟨d, hd, hiff⟩ := usable_iff completes_restore plugged_attached hcall
    obtain rfl := hmouse d hd
    have hrows := List.all_eq_true.1 htest
    have hread : IdentityCache.lookup (fun key => if key = (wired "c").key then some (.absent, wired "c") else none)
        (wired "c") = some .absent := by decide +kernel
    rcases (hiff.1 hhand).cached with hnone | hsame | ⟨u, ⟨hsole, -, hu⟩, -⟩
    · rw [hread] at hnone
      cases hnone
    · rw [hread] at hsame
      cases hsame
    · have hmem := (mem_unknownRows.1 (hsole ▸ List.mem_singleton_self u)).1
      rw [(of_decide_eq_true (hrows u hmem)).2] at hu
      cases hu

/-- A scan that saw the unit while it was blank, and one that saw nothing. -/
def sawBlank : PastScan := ⟨bench [plug "c" none], .auto, two⟩
def sawNothing : PastScan := ⟨bench [], .auto, two⟩

example : (sawBlank.bench.call (discover .auto) (deskOf two)).map (·.2.store) = some two := by decide +kernel

/-- **The unit was seen blank, and then missed**: after its restore it is at hand. -/
theorem usable_once_missed : ∃ view desk', (bench plugged).call (discover .auto)
      ⟨afterRestore two, cacheAfter [sawNothing, sawBlank], []⟩ = some (.ok view, desk') ∧
    AtHand view desk' mouse1 (wired "c") := by
  obtain ⟨view, desk', hcall, htest⟩ := benched plugged (discover .auto)
    ⟨afterRestore two, cacheAfter [sawNothing, sawBlank], []⟩
    (fun _ desk' => unknownRows (scanRows (bench plugged) .auto (afterRestore two) desk'.cache) = []) (by decide +kernel)
  refine ⟨view, desk', hcall, ?_⟩
  obtain ⟨d, hd, hiff⟩ := completed_usable_iff [sawNothing, sawBlank] completes_restore plugged_attached hcall
  obtain rfl : d = mouse1 := StateFile.physicalIdOf_inj (by decide +kernel) (by decide +kernel) hd (by decide +kernel)
  obtain ⟨missed, left, hmissed, -⟩ := benched [] (discover .auto) ⟨two, cacheAfter [sawBlank], []⟩ (fun _ _ => true)
    (by decide +kernel)
  have hforgotten : (sawNothing.leaves (cacheAfter [sawBlank])).lookup (wired "c") = none := by
    refine lookup_leaves_unlisted rfl hmissed fun discovered hlisted disc hdisc => ?_
    cases hlisted
    cases hdisc
  refine hiff.2 ⟨.inl hforgotten, ?_⟩
  rintro u ⟨hsole, -⟩
  rw [of_decide_eq_true htest] at hsole
  cases hsole

/-- **The unit was seen blank**: after its restore the next scan takes it for blank still. -/
theorem unusable_once_seen : Completes (token 3) (wired "c") (lastWrite two) (afterRestore two) ∧
    (bench plugged).Attached .auto (wired "c") (token 3) ∧ physicalIdOf (afterRestore two) mouse1 = some (token 3) ∧
    ∃ view desk', (bench plugged).call (discover .auto) ⟨afterRestore two, cacheAfter [sawBlank], []⟩ =
        some (.ok view, desk') ∧
      ¬ AtHand view desk' mouse1 (wired "c") := by
  refine ⟨completes_restore, plugged_attached, by decide +kernel, ?_⟩
  obtain ⟨view, desk', hcall, htest⟩ := benched plugged (discover .auto) ⟨afterRestore two, cacheAfter [sawBlank], []⟩
    (fun view _ => view.connections.all fun row => row.resolution ≠ .resolved mouse1) (by decide +kernel)
  refine ⟨view, desk', hcall, fun hhand => ?_⟩
  exact of_decide_eq_true (List.all_eq_true.1 htest _ hhand.shown) rfl

end AttackSharkX3.Rig
