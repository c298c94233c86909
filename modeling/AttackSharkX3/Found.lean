import AttackSharkX3.Scan
import AttackSharkX3.Rig
/-!
# Found — what a scan makes of the watermarks it saw

A connection that presents a mouse's token is that mouse's, and nobody else's.  Where a sole unknown connection is
attached without asking, its watermark is not looked at again: the results say exactly when that matters.
-/
namespace AttackSharkX3

variable [Crc32fast] {bench : Bench} {selection : TransportSelection} {state : StateFile} {cache : IdentityCache}
  {view : DiscoveryView} {desk' : Desk} {row : ResolvedConnection} {d : DeviceId} {T : PhysicalId}

/-! ## What a scan shows -/

namespace Scanned

variable {desk : Desk} {rows : List ResolvedConnection}

omit [Crc32fast] in
theorem usb_connected (hs : Scanned bench selection desk view desk' rows) (hrow : row ∈ view.connections)
    (husb : isUsbTransport row.endpoint.transport = true) : row.connected = true := by
  rw [hs.connections] at hrow
  obtain ⟨row₀, hrow₀, hendpoint, hconnected⟩ := scanConnections_source hrow
  obtain ⟨discovered, hlisted, hrows⟩ := hs.listed
  rw [hrows] at hrow₀
  obtain ⟨disc, hdisc, hendpoint', hconnected', -⟩ := mem_resolveScanRows hrow₀
  rw [hconnected, hconnected']
  rw [hendpoint, hendpoint'] at husb
  exact bench.usbConnected selection discovered hlisted disc hdisc husb

omit [Crc32fast] in
theorem resolvesTo (hs : Scanned bench selection desk view desk' rows) (hv : desk.store.validate = .ok ())
    (hrow : row ∈ rows) (hconnected : row.connected = true) (husb : isUsbTransport row.endpoint.transport = true) :
    ResolvesTo desk.store (desk'.cache.lookup row.endpoint) row.resolution := by
  obtain ⟨discovered, -, hrows⟩ := hs.listed
  rw [hrows] at hrow
  exact resolvesTo_of_mem hv hrow hconnected husb

omit [Crc32fast] in
/-- **A connected USB row is shown by its watermark**, unless it had none and was attached as the sole unknown one. -/
theorem shown (hs : Scanned bench selection desk view desk' rows) (hv : desk.store.validate = .ok ())
    (hmode : desk.store.identityMode = .persistent) (hrow : row ∈ view.connections)
    (husb : isUsbTransport row.endpoint.transport = true) :
    ResolvesTo desk.store (desk'.cache.lookup row.endpoint) row.resolution ∨
      ∃ u d, unknownRows rows = [u] ∧ desk.store.identitySetup = none ∧ silentAttachment desk.store 1 u = some d ∧
        u.resolution = .unassociated .absent none ∧
        (desk'.cache.lookup row.endpoint = none ∨ desk'.cache.lookup row.endpoint = some .absent) ∧
        row = { u with resolution := .resolved d } := by
  have hconnected := hs.usb_connected hrow husb
  rw [hs.connections] at hrow
  rcases mem_scanConnections hrow hconnected with hold | ⟨u, d, hsole, hsetup, hu, hfits, rfl⟩
  · exact .inl (hs.resolvesTo hv hold hconnected husb)
  · have hmem : u ∈ unknownRows rows := hsole ▸ List.mem_singleton_self u
    obtain ⟨hrow, hconnected, hunknown⟩ := mem_unknownRows.1 hmem
    obtain ⟨device, hd⟩ := silentAttachment_saved hu
    obtain ⟨A, hA⟩ := StateFile.valid_physicalId hv hmode hd
    rcases (hs.resolvesTo hv hrow hconnected husb).unknown hunknown with ⟨T, -, free, hres⟩ | ⟨hread, hres⟩
    · have hT : presentedToken u = some T := by simp [presentedToken, hres]
      exact absurd (hfits T hT A hA ▸ hA) (free d)
    · exact .inr ⟨u, d, hsole, hsetup, hu, hres, hread, rfl⟩

omit [Crc32fast] in
/-- A row that presents a token is resolved to no mouse without it. -/
theorem resolved_of_valid (hs : Scanned bench selection desk view desk' rows) (hv : desk.store.validate = .ok ())
    (hmode : desk.store.identityMode = .persistent) (hrow : row ∈ view.connections)
    (husb : isUsbTransport row.endpoint.transport = true) (hT : desk'.cache.lookup row.endpoint = some (.valid T))
    (hd : row.resolution = .resolved d) : physicalIdOf desk.store d = some T ∧
      resolveValidToken desk.store.devices desk.store.identitySetup T = .resolved d := by
  rcases hs.shown hv hmode hrow husb with hshown | ⟨u, d', -, -, -, -, hblank, -⟩
  · rw [hd] at hshown
    obtain ⟨T', hT', hown⟩ := hshown.of_resolved
    rw [hT] at hT'
    cases hT'
    exact hown
  · rw [hT] at hblank
    simp at hblank

omit [Crc32fast] in
theorem mem_asked {t : Txn} {store : StateFile} {cache : IdentityCache}
    (hs : Scanned bench selection ⟨store, cache, []⟩ view desk' rows) (ht : t ∈ desk'.asked.map (·.2)) :
    t = .syncEndpointAssociations view.connections selection ∨
      ∃ u d, unknownRows rows = [u] ∧ silentAttachment store 1 u = some d ∧
        t = .attachSilently u.endpoint d bench.now := by
  rw [hs.asked, List.map_nil, List.append_nil, List.mem_append] at ht
  rcases ht with hsync | hattach
  · split at hsync
    · exact .inl (List.mem_singleton.1 hsync)
    · exact absurd hsync List.not_mem_nil
  · rcases silentAttachments_cases store rows with hnone | ⟨u, d, hsole, -, hu, hsilent⟩
    · simp [hnone] at hattach
    · simp only [hsilent, List.map_cons, List.map_nil, List.reverse_singleton, List.mem_singleton] at hattach
      exact .inr ⟨u, d, hsole, hu, hattach⟩

end Scanned

/-! ## Foreign tokens -/

/-- The transaction puts the endpoint under the mouse. -/
def Txn.Puts (t : Txn) (endpoint : DeviceEndpoint) (d : DeviceId) : Prop :=
  match t with
  | .attachSilently endpoint' d' _ | .rememberResolution endpoint' d' _ => endpoint' = endpoint ∧ d' = d
  | .syncEndpointAssociations rows _ => endpoint ∈ rowsOf rows d
  | _ => False

/-- **No connected USB connection with a token is resolved to a mouse without it, or put under one.** -/
def NoneMisplaced (state : StateFile) (view : DiscoveryView) (desk' : Desk) : Prop :=
  ∀ row ∈ view.connections, row.connected = true → isUsbTransport row.endpoint.transport = true →
    ∀ T, desk'.cache.lookup row.endpoint = some (.valid T) → ∀ d, physicalIdOf state d ≠ some T →
      row.resolution ≠ .resolved d ∧ ∀ t ∈ desk'.asked.map (·.2), ¬ t.Puts row.endpoint d

/-- One mouse is saved, and the one unknown connection presents a token over USB. -/
def MeetsSoleStranger (state : StateFile) (cache : IdentityCache) (rows : List ResolvedConnection) : Prop :=
  state.devices.size = 1 ∧ ∃ u T, unknownRows rows = [u] ∧ isUsbTransport u.endpoint.transport = true ∧
    cache.lookup u.endpoint = some (.valid T)

omit [Crc32fast] in
theorem only_device (h : state.devices.size = 1) : ∃ d device, state.devices.toList = [(d, device)] := by
  rw [← Std.ExtTreeMap.length_toList] at h
  obtain ⟨⟨d, device⟩, hlist⟩ := List.length_eq_one_iff.1 h
  exact ⟨d, device, hlist⟩

/-- **A scan misplaces a token exactly when one mouse is saved and the one unknown connection presents a foreign token.**
Then the connection is stored under the mouse before its token is compared. -/
theorem scan_misplaces_iff (hv : state.validate = .ok ()) (hmode : state.identityMode = .persistent)
    (hidle : state.identitySetup = none)
    (h : bench.call (discover selection) ⟨state, cache, []⟩ = some (.ok view, desk')) :
    NoneMisplaced state view desk' ↔
      ¬ MeetsSoleStranger state desk'.cache (scanRows bench selection state desk'.cache) := by
  have hs : Scanned bench selection ⟨state, cache, []⟩ view desk' _ := discover_ok hmode h
  constructor
  · rintro hnone ⟨hsize, u, T, hsole, husb, hT⟩
    obtain ⟨d, device, hlist⟩ := only_device hsize
    have hmem := hsole ▸ List.mem_singleton_self u
    obtain ⟨hrow, hconnected, hunknown⟩ := mem_unknownRows.1 hmem
    rcases (hs.resolvesTo hv hrow hconnected husb).unknown hunknown with ⟨T', hT', free, hres⟩ | ⟨hread, -⟩
    · rw [hT] at hT'
      cases hT'
      have hremembers := remembers_foreign hv hmode (by rw [presentedToken, hres]) free
      have hu := silentAttachment_only husb hremembers hlist
      obtain ⟨row, hrow', hendpoint, hconnected'⟩ := @scanConnections_endpoint state _ _ bench.now hrow
      rw [← hs.connections] at hrow'
      rw [← hendpoint] at husb hT
      refine (hnone row hrow' (hconnected'.trans hconnected) husb T hT d (free d)).2
        (.attachSilently u.endpoint d bench.now) ?_ ⟨hendpoint.symm, rfl⟩
      rw [hs.asked, silentAttachments_sole hidle hsole hu]
      simp
    · rw [hT] at hread
      simp at hread
  · intro hmeets row hrow hconnected husb T hT d hd
    have hfirst : ∀ row' ∈ view.connections, row'.endpoint = row.endpoint → row'.resolution ≠ .resolved d := by
      intro row' hrow' hendpoint hres
      rw [← hendpoint] at husb hT
      exact hd (hs.resolved_of_valid hv hmode hrow' husb hT hres).1
    refine ⟨hfirst row hrow rfl, ?_⟩
    intro t ht hputs
    rcases hs.mem_asked ht with rfl | ⟨u, d', hsole, hu, rfl⟩
    · obtain ⟨row', hrow', hendpoint⟩ := List.mem_map.1 hputs
      obtain ⟨hmem, hres⟩ := List.mem_filter.1 hrow'
      exact hfirst row' hmem hendpoint (of_decide_eq_true hres)
    · obtain ⟨hendpoint, rfl⟩ := hputs
      rw [← hendpoint] at husb hT
      refine hmeets ⟨?_, u, T, hsole, husb, hT⟩
      have hmem := hsole ▸ List.mem_singleton_self u
      obtain ⟨hrow, hconnected, hunknown⟩ := mem_unknownRows.1 hmem
      rcases (hs.resolvesTo hv hrow hconnected husb).unknown hunknown with ⟨T', -, free, hres⟩ | ⟨hread, -⟩
      · have hremembers := remembers_foreign hv hmode (by rw [presentedToken, hres]) free
        rcases silentAttachment_cases hu with hsome | ⟨-, device, hlist⟩
        · rw [hremembers] at hsome
          cases hsome
        · rw [← Std.ExtTreeMap.length_toList, hlist]
          rfl
      · rw [hT] at hread
        simp at hread

/-! ## What the gate accepts -/

/-- **The mouse opens at the endpoint**, whatever the hardware is asked there, once opening the device succeeds. -/
def PassesGate (desk : Desk) (d : DeviceId) (endpoint : DeviceEndpoint) : Prop :=
  ∀ (bench : Bench) (operation : String) (device : DeviceState), desk.store.devices[d]? = some device →
    device.identity.selectedEndpoint = some endpoint → bench.open_ endpoint = .ok () →
    bench.call (openLocked d operation) desk = some (.ok (device.identity, ⟨endpoint⟩), desk)

/-- A cached token of the mouse itself opens the gate. -/
theorem passesGate_of_cached {desk : Desk} {endpoint : DeviceEndpoint} (hidle : desk.store.identitySetup = none)
    (hd : physicalIdOf desk.store d = some T) (hcached : desk.cache.lookup endpoint = some (.valid T)) :
    PassesGate desk d endpoint := by
  intro bench operation device hdevice hselected hopen
  have hphysical : device.identity.physicalId = some T := by rw [← StateFile.physicalIdOf_eq hdevice, hd]
  have hgate : bench.call (gateAttachment d device.identity.physicalId endpoint ⟨endpoint⟩) desk = some (.ok (), desk) := by
    unfold gateAttachment
    rw [hphysical]
    cases husb : isUsbTransport endpoint.transport with
    | false => rfl
    | true =>
      have hcache : bench.call Manager.cached desk = some (.ok desk.cache, desk) := rfl
      have hauth : bench.call (authenticateAttachment endpoint ⟨endpoint⟩) desk = some (.ok (.valid T), desk) := by
        rw [authenticateAttachment, Bench.call_bind_ok hcache, hcached]
        rfl
      simp only
      rw [Bench.call_bind_ok hauth]
      exact Effects.Fallible.exec_ensure_true rfl desk
  have hlock : bench.call (Manager.acquireOperationLock d operation) desk = some (.ok (), desk) := rfl
  have hinvolved : bench.call (refuseInvolved desk.store.identitySetup d) desk = some (.ok (), desk) := by
    rw [hidle]
    rfl
  have hfound : bench.call (Effects.Fallible.ofOption (.deviceNotFound d) desk.store.devices[d]?) desk =
      some (.ok device, desk) := by
    rw [hdevice]
    rfl
  have hendpoint : bench.call (Effects.Fallible.ofOption (.deviceNotFound d) device.identity.selectedEndpoint) desk =
      some (.ok endpoint, desk) := by
    rw [hselected]
    rfl
  have hsession : bench.call (Manager.open_ endpoint) desk = some (.ok ⟨endpoint⟩, desk) := by
    show some ((bench.open_ endpoint).map _, desk) = _
    rw [hopen]
    rfl
  rw [openLocked, Bench.call_bind_ok hlock, Bench.call_bind_ok (bench.call_load desk), Bench.call_bind_ok hinvolved,
    Bench.call_bind_ok hfound, Bench.call_bind_ok hendpoint, Bench.call_bind_ok hsession, Bench.call_bind_ok hgate]
  rfl

/-- **What opens for a mouse** is its selected endpoint, past the gate. -/
theorem openLocked_ok {operation : String} {desk : Desk} {identity : DeviceIdentity} {session : Session}
    (h : bench.call (openLocked d operation) desk = some (.ok (identity, session), desk')) :
    ∃ mouse, desk.store.devices[d]? = some mouse ∧ mouse.identity.selectedEndpoint = some session.endpoint ∧
      bench.call (gateAttachment d mouse.identity.physicalId session.endpoint session) desk = some (.ok (), desk') := by
  obtain ⟨_, desk₀, hlock, h₁⟩ := Bench.of_call_bind h
  cases hlock
  obtain ⟨state, desk₀, hload, h₂⟩ := Bench.of_call_bind h₁
  obtain ⟨rfl, rfl⟩ := Bench.of_call_load hload
  obtain ⟨_, desk₁, hinvolved, h₃⟩ := Bench.of_call_bind h₂
  obtain ⟨mouse, desk₂, hmouse, h₄⟩ := Bench.of_call_bind h₃
  obtain ⟨endpoint, desk₃, hendpoint, h₅⟩ := Bench.of_call_bind h₄
  obtain ⟨opened, desk₄, hopen, h₆⟩ := Bench.of_call_bind h₅
  obtain ⟨_, desk₅, hgate, h₇⟩ := Bench.of_call_bind h₆
  obtain ⟨hopened, rfl⟩ := Bench.of_call_pure h₇
  cases hopened
  have hsame : desk₁ = desk₀ := by
    unfold refuseInvolved at hinvolved
    split at hinvolved
    · exact (Bench.of_call_ensure hinvolved).2
    · exact (Bench.of_call_pure hinvolved).2
  subst hsame
  obtain ⟨hsaved, rfl⟩ := Bench.of_call_ofOption hmouse
  obtain ⟨hselected, rfl⟩ := Bench.of_call_ofOption hendpoint
  obtain ⟨rfl, rfl⟩ := Bench.of_call_open hopen
  exact ⟨mouse, hsaved, hselected, hgate⟩

/-- Hardware that opens and answers nothing more. -/
def muteBench : Bench where
  list _ := .ok []
  open_ _ := .ok ()
  session _ _ := .error (.driver "no answer")
  now := ⟨0⟩
  random := .error "no answer"
  usbConnected _ listed h disc hdisc := by
    cases h
    cases hdisc

/-- **What the cache has of the mouse's endpoint, unless it is the mouse's token, does not pass the gate.** -/
theorem not_passesGate {desk : Desk} {device : DeviceState} {endpoint : DeviceEndpoint} (hd : desk.store.devices[d]? = some device)
    (hT : device.identity.physicalId = some T) (hselected : device.identity.selectedEndpoint = some endpoint)
    (husb : isUsbTransport endpoint.transport = true) (hother : desk.cache.lookup endpoint ≠ some (.valid T)) :
    ¬ PassesGate desk d endpoint := by
  intro hpasses
  obtain ⟨mouse, hmouse, -, hgate⟩ := openLocked_ok (hpasses muteBench "" device hd hselected rfl)
  rw [hd] at hmouse
  cases hmouse
  unfold gateAttachment at hgate
  simp only [hT, husb] at hgate
  obtain ⟨decode, desk₁, hauth, hensure⟩ := Bench.of_call_bind hgate
  obtain ⟨rfl, -⟩ := Bench.of_call_ensure hensure
  obtain ⟨cache, desk₂, hcached, h₁⟩ := Bench.of_call_bind hauth
  obtain ⟨rfl, rfl⟩ := Bench.of_call_cached hcached
  cases hl : desk₂.cache.lookup endpoint with
  | some read =>
    rw [hl] at h₁
    cases h₁
    exact hother hl
  | none =>
    rw [hl] at h₁
    cases h₁

/-- What a resolved connection must present, and that its mouse opens there. -/
def FitsGate (state : StateFile) (desk' : Desk) (row : ResolvedConnection) : Prop :=
  (∀ d A, row.resolution = .resolved d → physicalIdOf state d = some A →
    desk'.cache.lookup row.endpoint = some (.valid A) ∧ PassesGate desk' d row.endpoint) ∧
  (desk'.cache.lookup row.endpoint = some .absent ∨ desk'.cache.lookup row.endpoint = some .malformed →
    ∀ d, row.resolution ≠ .resolved d)

/-- The connection is the one unknown one, has no token to read, and is remembered for a mouse or meets the only one. -/
def IsSoleBlank (state : StateFile) (cache : IdentityCache) (rows : List ResolvedConnection) (row : ResolvedConnection) :
    Prop :=
  ∃ u, unknownRows rows = [u] ∧ u.endpoint = row.endpoint ∧
    (cache.lookup row.endpoint = none ∨ cache.lookup row.endpoint = some .absent) ∧
    ((∃ d, rememberedDeviceIn state row.endpoint = some d) ∨ state.devices.size = 1)

omit [Crc32fast] in
/-- A connection without a token that the mapping knows, or that meets the only mouse, is attached if it is the sole
unknown one. -/
theorem silentAttachment_blank {u : ResolvedConnection} (husb : isUsbTransport u.endpoint.transport = true)
    (hblank : presentedToken u = none)
    (h : (∃ d, rememberedDeviceIn state u.endpoint = some d) ∨ state.devices.size = 1) :
    ∃ d, silentAttachment state 1 u = some d := by
  cases hremembered : rememberedDeviceIn state u.endpoint with
  | some d => exact ⟨d, silentAttachment_remembered (by simp [remembers, hremembered, rememberedMappingAgrees, hblank])⟩
  | none =>
    rcases h with ⟨d, hd⟩ | hsize
    · rw [hremembered] at hd
      cases hd
    · obtain ⟨d, device, hlist⟩ := only_device hsize
      exact ⟨d, silentAttachment_only husb (by simp [remembers, hremembered]) hlist⟩

/-- **A scan resolves a connection only where the gate accepts it, exactly unless it is the one unknown connection without
a token** and is remembered for a mouse or meets the only one. -/
theorem scan_resolves_as_gate (hv : state.validate = .ok ()) (hmode : state.identityMode = .persistent)
    (hidle : state.identitySetup = none)
    (h : bench.call (discover selection) ⟨state, cache, []⟩ = some (.ok view, desk')) :
    ∀ row ∈ view.connections, row.connected = true → isUsbTransport row.endpoint.transport = true →
      (FitsGate state desk' row ↔
        ¬ IsSoleBlank state desk'.cache (scanRows bench selection state desk'.cache) row) := by
  have hs : Scanned bench selection ⟨state, cache, []⟩ view desk' _ := discover_ok hmode h
  intro row hrow hconnected husb
  constructor
  · rintro hfits ⟨u, hsole, hendpoint, hread, hknown⟩
    rw [← hendpoint] at hknown
    obtain ⟨hu, huconnected, hunknown⟩ := mem_unknownRows.1 (hsole ▸ List.mem_singleton_self u)
    have hblank : presentedToken u = none := by
      have hresolves := hs.resolvesTo hv hu huconnected (hendpoint ▸ husb)
      rw [hendpoint] at hresolves
      rcases hresolves.unknown hunknown with ⟨T, hT, -⟩ | ⟨-, hres⟩
      · rw [hT] at hread
        simp at hread
      · simp [presentedToken, hres]
    obtain ⟨d, hd⟩ := silentAttachment_blank (hendpoint ▸ husb) hblank hknown
    rw [hs.connections] at hrow
    rcases scanConnections_attached hidle hsole hd hblank hrow hconnected with ⟨hfound, hother⟩ | rfl
    · have hres := (hs.resolvesTo hv hfound hconnected husb).of_blank hread
      rw [hres] at hother
      cases hother
    · obtain ⟨device, hdevice⟩ := silentAttachment_saved hd
      obtain ⟨A, hA⟩ := StateFile.valid_physicalId hv hmode hdevice
      have hcached := (hfits.1 d A rfl hA).1
      rw [hcached] at hread
      simp at hread
  · intro hblank
    have hown : ∀ d, row.resolution = .resolved d →
        ∃ T, desk'.cache.lookup row.endpoint = some (.valid T) ∧ physicalIdOf state d = some T := by
      intro d hd
      rcases hs.shown hv hmode hrow husb with hshown | ⟨u, d', hsole, -, hu, hres, hread, rfl⟩
      · rw [hd] at hshown
        obtain ⟨T, hT, hown, -⟩ := hshown.of_resolved
        exact ⟨T, hT, hown⟩
      · refine absurd ⟨u, hsole, rfl, hread, ?_⟩ hblank
        rcases silentAttachment_cases hu with hremembers | ⟨-, device, hlist⟩
        · exact .inl ⟨d', (Option.filter_eq_some_iff.1 hremembers).1⟩
        · rw [← Std.ExtTreeMap.length_toList, hlist]
          exact .inr rfl
    constructor
    · intro d A hd hA
      obtain ⟨T, hT, hown⟩ := hown d hd
      rw [hA] at hown
      cases hown
      refine ⟨hT, passesGate_of_cached ?_ ?_ hT⟩
      · rw [hs.keeps ordinarilyKept_identitySetup, hidle]
      · rw [hs.keeps (ordinarilyKept_token d), hA]
    · intro hread d hd
      obtain ⟨T, hT, -⟩ := hown d hd
      rw [hT] at hread
      simp at hread

/-! ## Tokens seen twice -/

/-- **A token that two connections of one transport present resolves neither.** -/
def DistrustsTwice (view : DiscoveryView) (desk' : Desk) : Prop :=
  ∀ row ∈ view.connections, ∀ row' ∈ view.connections, row.connected = true → row'.connected = true →
    isUsbTransport row.endpoint.transport = true → row'.endpoint.transport = row.endpoint.transport →
    row.endpoint ≠ row'.endpoint → ∀ T, desk'.cache.lookup row.endpoint = some (.valid T) →
    desk'.cache.lookup row'.endpoint = some (.valid T) →
    ∀ d, row.resolution ≠ .resolved d ∧ row'.resolution ≠ .resolved d

/-- Two connections of one transport present the token of a saved mouse, which nothing reserves. -/
def MeetsTwins (state : StateFile) (cache : IdentityCache) (discovered : List DiscoveredEndpoint) : Prop :=
  ∃ disc ∈ discovered, ∃ disc' ∈ discovered, isUsbTransport disc.endpoint.transport = true ∧
    disc'.endpoint.transport = disc.endpoint.transport ∧ disc.endpoint ≠ disc'.endpoint ∧
    ∃ T, cache.lookup disc.endpoint = some (.valid T) ∧ cache.lookup disc'.endpoint = some (.valid T) ∧
      (∃ d, physicalIdOf state d = some T) ∧ isReservedToken T = false ∧
      state.identitySetup.any (journalReservesToken · T) = false

/-- **A scan trusts a token seen twice exactly when a saved mouse has it**: only unknown tokens are counted. -/
theorem scan_distrusts_twice_iff {discovered : List DiscoveredEndpoint} (hv : state.validate = .ok ())
    (hmode : state.identityMode = .persistent) (hlisted : bench.list selection = .ok discovered)
    (h : bench.call (discover selection) ⟨state, cache, []⟩ = some (.ok view, desk')) :
    DistrustsTwice view desk' ↔ ¬ MeetsTwins state desk'.cache discovered := by
  have hs : Scanned bench selection ⟨state, cache, []⟩ view desk' _ := discover_ok hmode h
  have hsource : ∀ row ∈ view.connections, ∃ disc ∈ discovered, disc.endpoint = row.endpoint := by
    intro row hrow
    obtain ⟨discovered', hlisted', hrows⟩ := hs.listed
    rw [hlisted] at hlisted'
    cases hlisted'
    rw [hs.connections] at hrow
    obtain ⟨row₀, hrow₀, hendpoint, -⟩ := scanConnections_source hrow
    rw [hrows] at hrow₀
    obtain ⟨disc, hdisc, hendpoint', -⟩ := mem_resolveScanRows hrow₀
    exact ⟨disc, hdisc, hendpoint'.symm.trans hendpoint.symm⟩
  constructor
  · rintro hdistrusts ⟨disc, hdisc, disc', hdisc', husb, htransport, hne, T, hT, hT', ⟨d, hd⟩, hreserved, hjournal⟩
    have hfound := resolveValidToken_of_owner hv hmode hd hreserved hjournal
    have hshown : ∀ disc ∈ discovered, isUsbTransport disc.endpoint.transport = true →
        desk'.cache.lookup disc.endpoint = some (.valid T) →
        ∃ row ∈ view.connections, row.endpoint = disc.endpoint ∧ row.connected = true ∧ row.resolution = .resolved d := by
      intro disc hdisc husb hT
      obtain ⟨discovered', hlisted', hrows⟩ := hs.listed
      rw [hlisted] at hlisted'
      cases hlisted'
      obtain ⟨row, hrow, hendpoint, hconnected⟩ := resolveScanRows_mem hdisc
      rw [← hrows] at hrow
      rw [bench.usbConnected selection discovered hlisted disc hdisc husb] at hconnected
      have hres : row.resolution = .resolved d := by
        have hresolves := hs.resolvesTo hv hrow hconnected (hendpoint ▸ husb)
        rw [hendpoint, hT] at hresolves
        exact hresolves.eq_of_found hfound hv
      refine ⟨row, ?_, hendpoint, hconnected, hres⟩
      rw [hs.connections]
      exact scanConnections_mem hrow (hres ▸ rfl)
    obtain ⟨row, hrow, hendpoint, hconnected, hres⟩ := hshown disc hdisc husb hT
    obtain ⟨row', hrow', hendpoint', hconnected', -⟩ := hshown disc' hdisc' (htransport ▸ husb) hT'
    rw [← hendpoint] at husb hT hne htransport
    rw [← hendpoint'] at hT' hne htransport
    exact (hdistrusts row hrow row' hrow' hconnected hconnected' husb htransport hne T hT hT' d).1 hres
  · intro hmeets row hrow row' hrow' hconnected hconnected' husb htransport hne T hT hT' d
    have htwins : resolveValidToken state.devices state.identitySetup T ≠ .resolved d := by
      intro hfound
      obtain ⟨disc, hdisc, hendpoint⟩ := hsource row hrow
      obtain ⟨disc', hdisc', hendpoint'⟩ := hsource row' hrow'
      rw [← hendpoint] at husb hT hne htransport
      rw [← hendpoint'] at hT' hne htransport
      obtain ⟨hreserved, hjournal⟩ := unreserved_of_resolved hfound
      exact hmeets ⟨disc, hdisc, disc', hdisc', husb, htransport, hne, T, hT, hT',
        ⟨d, resolveValidToken_resolved hv hfound⟩, hreserved, hjournal⟩
    constructor
    · intro hd
      exact htwins (hs.resolved_of_valid hv hmode hrow husb hT hd).2
    · intro hd
      exact htwins (hs.resolved_of_valid hv hmode hrow' (htransport ▸ husb) hT' hd).2

end AttackSharkX3

namespace AttackSharkX3.Rig

/-- One saved mouse, with the first token. -/
def oneSaved : StateFile := saved [(mouse1, token 1, wired "old")]

example : oneSaved.validate = .ok () := by decide +kernel

/-- A desk on which nothing is cached. -/
def deskOf (store : StateFile) : Desk := ⟨store, fun _ => none, []⟩

def plug (path : String) (physicalId : Option PhysicalId) : DeviceEndpoint × Mouse :=
  (wired path, unit fun _ => physicalId)

/-- A scan that sees the saved mouse alone misplaces nothing. -/
theorem places_saved_mouse : ∃ view desk',
    (bench [plug "a" (some (token 1))]).call (discover .auto) (deskOf oneSaved) = some (.ok view, desk') ∧
      NoneMisplaced oneSaved view desk' := by
  obtain ⟨view, desk', hcall, htest⟩ := benched [plug "a" (some (token 1))] (discover .auto) (deskOf oneSaved)
    (fun _ desk' => unknownRows (scanRows (bench [plug "a" (some (token 1))]) .auto oneSaved desk'.cache) = [])
    (by decide +kernel)
  refine ⟨view, desk', hcall, (scan_misplaces_iff (by decide +kernel) rfl rfl hcall).2 ?_⟩
  rintro ⟨-, u, T, hsole, -⟩
  rw [of_decide_eq_true htest] at hsole
  cases hsole

/-- **A stranger is stored under the only mouse**: its token is the second one. -/
theorem misplaces_stranger : oneSaved.validate = .ok () ∧ ∃ view desk',
    (bench [plug "a" (some (token 2))]).call (discover .auto) (deskOf oneSaved) = some (.ok view, desk') ∧
      ¬ NoneMisplaced oneSaved view desk' := by
  refine ⟨by decide +kernel, ?_⟩
  obtain ⟨view, desk', hcall, htest⟩ := benched [plug "a" (some (token 2))] (discover .auto) (deskOf oneSaved)
    (fun view desk' => view.connections.map (fun row => (row.endpoint, row.connected)) = [(wired "a", true)] ∧
      desk'.cache.lookup (wired "a") = some (.valid (token 2)) ∧
      desk'.asked.map (·.2) = [.attachSilently (wired "a") mouse1 ⟨0⟩] ∧
      physicalIdOf oneSaved mouse1 ≠ some (token 2)) (by decide +kernel)
  obtain ⟨hrows, hcached, hasked, hother⟩ := of_decide_eq_true htest
  refine ⟨view, desk', hcall, fun hnone => ?_⟩
  obtain ⟨row, hrow, heq⟩ := List.map_eq_singleton_iff.1 hrows
  obtain ⟨hendpoint, hconnected⟩ := Prod.mk.inj heq
  refine (hnone row (hrow ▸ List.mem_singleton_self row) hconnected (hendpoint ▸ rfl) (token 2) (hendpoint ▸ hcached)
    mouse1 hother).2 (.attachSilently (wired "a") mouse1 ⟨0⟩) ?_ ⟨hendpoint.symm, rfl⟩
  rw [hasked]
  exact List.mem_singleton_self _

/-- The saved mouse is resolved as the gate accepts it. -/
theorem resolves_saved_mouse : ∃ view desk',
    (bench [plug "a" (some (token 1))]).call (discover .auto) (deskOf oneSaved) = some (.ok view, desk') ∧
      FitsGate oneSaved desk' ⟨wired "a", true, .resolved mouse1⟩ := by
  obtain ⟨view, desk', hcall, htest⟩ := benched [plug "a" (some (token 1))] (discover .auto) (deskOf oneSaved)
    (fun view desk' => view.connections = [⟨wired "a", true, .resolved mouse1⟩] ∧
      unknownRows (scanRows (bench [plug "a" (some (token 1))]) .auto oneSaved desk'.cache) = []) (by decide +kernel)
  obtain ⟨hrows, hknown⟩ := of_decide_eq_true htest
  refine ⟨view, desk', hcall, (scan_resolves_as_gate (by decide +kernel) rfl rfl hcall _ ?_ rfl rfl).2 ?_⟩
  · rw [hrows]
    exact List.mem_singleton_self _
  · rintro ⟨u, hsole, -⟩
    rw [hknown] at hsole
    cases hsole

example : physicalIdOf oneSaved mouse1 = some (token 1) := by decide +kernel

/-- **A mouse without a token is resolved to the only mouse**, which the gate then refuses there. -/
theorem resolves_blank_mouse : oneSaved.validate = .ok () ∧ ∃ view desk',
    (bench [plug "a" none]).call (discover .auto) (deskOf oneSaved) = some (.ok view, desk') ∧
      ¬ ∀ row ∈ view.connections, row.connected = true → isUsbTransport row.endpoint.transport = true →
        FitsGate oneSaved desk' row := by
  refine ⟨by decide +kernel, ?_⟩
  obtain ⟨view, desk', hcall, htest⟩ := benched [plug "a" none] (discover .auto) (deskOf oneSaved)
    (fun view desk' => view.connections = [⟨wired "a", true, .resolved mouse1⟩] ∧
      desk'.cache.lookup (wired "a") = some .absent) (by decide +kernel)
  obtain ⟨hrows, hcached⟩ := of_decide_eq_true htest
  refine ⟨view, desk', hcall, fun hfits => ?_⟩
  exact (hfits _ (hrows ▸ List.mem_singleton_self _) rfl rfl).2 (.inl hcached) mouse1 rfl

/-- A scan that sees two mice with different tokens trusts each. -/
theorem trusts_different_mice : ∃ view desk',
    (bench [plug "a" (some (token 1)), plug "b" (some (token 2))]).call (discover .auto) (deskOf oneSaved) =
        some (.ok view, desk') ∧ DistrustsTwice view desk' := by
  obtain ⟨view, desk', hcall, htest⟩ := benched [plug "a" (some (token 1)), plug "b" (some (token 2))] (discover .auto)
    (deskOf oneSaved) (fun _ desk' => desk'.cache.lookup (wired "a") = some (.valid (token 1)) ∧
      desk'.cache.lookup (wired "b") = some (.valid (token 2))) (by decide +kernel)
  obtain ⟨ha, hb⟩ := of_decide_eq_true htest
  have hlisted : (bench [plug "a" (some (token 1)), plug "b" (some (token 2))]).list .auto =
      .ok (listing [wired "a", wired "b"]) := rfl
  refine ⟨view, desk', hcall, (scan_distrusts_twice_iff (by decide +kernel) rfl hlisted hcall).2 ?_⟩
  rintro ⟨disc, hdisc, disc', hdisc', -, -, hne, T, hT, hT', -⟩
  simp only [listing, List.map_cons, List.map_nil, List.mem_cons, List.not_mem_nil, or_false] at hdisc hdisc'
  have htokens : token 1 ≠ token 2 := by decide
  rcases hdisc with rfl | rfl <;> rcases hdisc' with rfl | rfl
  · exact hne rfl
  · exact htokens (by simpa [ha, hb] using hT.trans hT'.symm)
  · exact htokens (by simpa [ha, hb] using hT'.trans hT.symm)
  · exact hne rfl

/-- **A saved mouse's token seen twice on the cable resolves both connections to the mouse.** -/
theorem trusts_token_twice : oneSaved.validate = .ok () ∧ ∃ view desk',
    (bench [plug "a" (some (token 1)), plug "b" (some (token 1))]).call (discover .auto) (deskOf oneSaved) =
        some (.ok view, desk') ∧ ¬ DistrustsTwice view desk' := by
  refine ⟨by decide +kernel, ?_⟩
  obtain ⟨view, desk', hcall, htest⟩ := benched [plug "a" (some (token 1)), plug "b" (some (token 1))] (discover .auto)
    (deskOf oneSaved) (fun view desk' =>
      view.connections = [⟨wired "a", true, .resolved mouse1⟩, ⟨wired "b", true, .resolved mouse1⟩] ∧
      desk'.cache.lookup (wired "a") = some (.valid (token 1)) ∧
      desk'.cache.lookup (wired "b") = some (.valid (token 1))) (by decide +kernel)
  obtain ⟨hrows, ha, hb⟩ := of_decide_eq_true htest
  refine ⟨view, desk', hcall, fun hdistrusts => ?_⟩
  refine (hdistrusts ⟨wired "a", true, .resolved mouse1⟩ ?_ ⟨wired "b", true, .resolved mouse1⟩ ?_ rfl rfl rfl rfl
    (by decide) (token 1) ha hb mouse1).1 rfl
  · rw [hrows]
    exact List.mem_cons_self ..
  · rw [hrows]
    exact List.mem_cons_of_mem _ (List.mem_singleton_self _)

end AttackSharkX3.Rig
