import AttackSharkX3.Found
/-!
# Decision — the answer a frontend gets about one connection, next to what the scan did

The manager decides about an unknown connection twice: a scan attaches it without asking, or a frontend asks what to do
with it.  The scan leaves several unknown connections alone, and the decision looks first at what is remembered.
-/
namespace AttackSharkX3

open Effects (Fallible)

/-! ## The decision -/

/-- The decision about a connection that is not remembered, or whose token speaks against it. -/
def decideUnknown (state : StateFile) (endpoint : DeviceEndpoint) (connections : List ResolvedConnection) : Resolution :=
  let candidates := resolutionCandidates state
  resolveEndpoint false (max (unknownRows connections).length 1) endpoint.transport candidates
    (candidates.any (·.hasStoredState))

/-- **What to do with one connection of a scan**, for a frontend that asks. -/
def resolveConnectionDecision (endpoint : DeviceEndpoint) (connections : List ResolvedConnection) : Manager Resolution := do
  let state ← Manager.load
  match rememberedDeviceIn state endpoint with
  | some remembered =>
    let presented := (connections.find? fun row => row.endpoint = endpoint).bind presentedToken
    if rememberedMappingAgrees state endpoint presented then
      return .silentAttach remembered ((state.devices[remembered]?).any deviceHasEvidence)
    else return decideUnknown state endpoint connections
  | none => return decideUnknown state endpoint connections

variable {bench : Bench} {selection : TransportSelection} {state : StateFile} {cache : IdentityCache}
  {discovered : List DiscoveredEndpoint} {rows : List ResolvedConnection} {row : ResolvedConnection} {d : DeviceId}

/-! ## The first row of an endpoint -/

/-- BLE presents no token. -/
theorem presentedToken_ble (hrow : row ∈ resolveScanRows .persistent cache state discovered)
    (hble : row.endpoint.transport = .ble) : presentedToken row = none := by
  obtain ⟨disc, -, hendpoint, -, hres⟩ := mem_resolveScanRows hrow
  have hbase : ∀ T, resolveConnection state.devices state.identitySetup none disc.endpoint
      (scanDecode .persistent cache disc) ≠ .unassociated .unknown (some T) := by
    intro T
    rw [hendpoint] at hble
    simp only [resolveConnection, hble]
    split <;> simp
  unfold presentedToken
  rcases hres with hres | ⟨T, hunknown, -⟩
  · split
    · next T heq => exact absurd (hres.symm.trans heq) (hbase T)
    · rfl
  · exact absurd hunknown (hbase T)

/-- A row is made of its listed connection alone, once the duplicates are known. -/
theorem resolveScanRows_eq_map (cache : IdentityCache) (state : StateFile) (discovered : List DiscoveredEndpoint) :
    ∃ made : DiscoveredEndpoint → ResolvedConnection, resolveScanRows .persistent cache state discovered = discovered.map made ∧
      ∀ disc, (made disc).endpoint = disc.endpoint ∧ (made disc).connected = disc.connected := by
  unfold resolveScanRows markScanDuplicates
  rw [List.map_map]
  refine ⟨_, rfl, fun disc => ?_⟩
  simp only [Function.comp_apply]
  constructor
  · repeat' split
    all_goals rfl
  · repeat' split
    all_goals rfl

/-- Listed USB connections are connected, so all rows of a USB endpoint are one. -/
theorem row_eq_of_endpoint {row' : ResolvedConnection}
    (hlisted : ∀ disc ∈ discovered, isUsbTransport disc.endpoint.transport = true → disc.connected = true)
    (hrow : row ∈ resolveScanRows .persistent cache state discovered)
    (hrow' : row' ∈ resolveScanRows .persistent cache state discovered) (hsame : row'.endpoint = row.endpoint)
    (husb : isUsbTransport row.endpoint.transport = true) : row' = row := by
  obtain ⟨made, hmap, hmade⟩ := resolveScanRows_eq_map cache state discovered
  rw [hmap] at hrow hrow'
  obtain ⟨⟨endpoint, connected⟩, hdisc, rfl⟩ := List.mem_map.1 hrow
  obtain ⟨⟨endpoint', connected'⟩, hdisc', rfl⟩ := List.mem_map.1 hrow'
  rw [(hmade _).1] at husb
  rw [(hmade _).1, (hmade _).1] at hsame
  dsimp only at husb hsame
  subst hsame
  have hconnected : connected = true := hlisted _ hdisc husb
  have hconnected' : connected' = true := hlisted _ hdisc' husb
  rw [hconnected, hconnected']

/-- **The token a decision sees is the row's own.** -/
theorem find_presentedToken
    (hlisted : ∀ disc ∈ discovered, isUsbTransport disc.endpoint.transport = true → disc.connected = true)
    (hrow : row ∈ resolveScanRows .persistent cache state discovered) :
    ((resolveScanRows .persistent cache state discovered).find? fun other => other.endpoint = row.endpoint).bind
      presentedToken = presentedToken row := by
  have hfound : ((resolveScanRows .persistent cache state discovered).find? fun other =>
      other.endpoint = row.endpoint).isSome = true := by
    rw [List.find?_isSome]
    exact ⟨row, hrow, decide_eq_true rfl⟩
  obtain ⟨first, hfirst⟩ := Option.isSome_iff_exists.1 hfound
  have hmem := List.mem_of_find?_eq_some hfirst
  have hholds := List.find?_some hfirst
  have hsame : first.endpoint = row.endpoint := of_decide_eq_true hholds
  rw [hfirst, Option.bind_some]
  cases husb : isUsbTransport row.endpoint.transport with
  | true => rw [row_eq_of_endpoint hlisted hrow hmem hsame husb]
  | false =>
    have hble : row.endpoint.transport = .ble := by
      cases ht : row.endpoint.transport with
      | ble => rfl
      | wired | receiver => simp [ht, isUsbTransport] at husb
    rw [presentedToken_ble hrow hble, presentedToken_ble hmem (hsame ▸ hble)]

/-! ## Agreement -/

/-- The decision about the row attaches it to the mouse. -/
def DecidesFor (bench : Bench) (state : StateFile) (rows : List ResolvedConnection) (row : ResolvedConnection)
    (d : DeviceId) : Prop :=
  ∃ keep desk, bench.call (resolveConnectionDecision row.endpoint rows) ⟨state, fun _ => none, []⟩ =
    some (.ok (.silentAttach d keep), desk)

/-- The scan attached the row's connection to the mouse.  A scan that was answered stored all it asked for. -/
def AttachedBy (desk' : Desk) (row : ResolvedConnection) (d : DeviceId) : Prop :=
  ∃ now, Txn.attachSilently row.endpoint d now ∈ desk'.asked.map (·.2)

/-- What is decided about a row that presents its own token. -/
theorem decidesFor_iff (htoken : (rows.find? fun other => other.endpoint = row.endpoint).bind presentedToken =
    presentedToken row) : DecidesFor bench state rows row d ↔
      remembers state row = some d ∨ (remembers state row = none ∧ ∃ keep,
        decideUnknown state row.endpoint rows = .silentAttach d keep) := by
  unfold DecidesFor resolveConnectionDecision
  rw [htoken]
  have hload : bench.call Manager.load ⟨state, fun _ => none, []⟩ = some (.ok state, ⟨state, fun _ => none, []⟩) := rfl
  rw [Bench.call_bind_ok hload]
  have hpure : ∀ answer : Resolution, (∃ keep desk, bench.call (pure answer : Manager Resolution) ⟨state, fun _ => none, []⟩ =
      some (.ok (.silentAttach d keep), desk)) ↔ ∃ keep, answer = .silentAttach d keep := by
    intro answer
    constructor
    · rintro ⟨keep, desk, h⟩
      obtain ⟨h, -⟩ := Bench.of_call_pure h
      exact ⟨keep, h.symm⟩
    · rintro ⟨keep, rfl⟩
      exact ⟨keep, _, rfl⟩
  cases hremembered : rememberedDeviceIn state row.endpoint with
  | none =>
    have hnone : remembers state row = none := by simp [remembers, hremembered]
    simp only [hnone, reduceCtorEq, false_or, true_and]
    exact hpure _
  | some m =>
    cases hagrees : rememberedMappingAgrees state row.endpoint (presentedToken row) with
    | true =>
      have hsome : remembers state row = some m := by simp [remembers, hremembered, hagrees]
      dsimp only
      rw [if_pos hagrees, hpure]
      simp [hsome]
    | false =>
      have hnone : remembers state row = none := by simp [remembers, hremembered, hagrees]
      dsimp only
      rw [if_neg (by simp [hagrees]), hpure]
      simp [hnone]

/-- What is attached without asking, as a decision would put it. -/
theorem silentAttachment_iff (hsole : unknownRows rows = [row]) : silentAttachment state 1 row = some d ↔
    remembers state row = some d ∨ (remembers state row = none ∧ ∃ keep,
      decideUnknown state row.endpoint rows = .silentAttach d keep) := by
  have hcount : decideUnknown state row.endpoint rows = resolveEndpoint false 1 row.endpoint.transport
      (resolutionCandidates state) ((resolutionCandidates state).any (·.hasStoredState)) := by
    simp [decideUnknown, hsole]
  rw [hcount, silentAttachment_eq]
  cases hr : remembers state row with
  | some m => simp
  | none =>
    simp only [reduceCtorEq, false_or, true_and]
    split
    · next attachTo keep heq => simp [heq]
    all_goals next heq => simp [heq]

section Scan

variable {view : DiscoveryView} {desk' : Desk}

/-- The scan attaches one row at most: its only unknown one, to the mouse a decision would attach it to. -/
theorem attachedBy_iff (hidle : state.identitySetup = none)
    (hs : Scanned bench selection ⟨state, cache, []⟩ view desk' (scanRows bench selection state desk'.cache)) :
    AttachedBy desk' row d ↔ ∃ u, unknownRows (scanRows bench selection state desk'.cache) = [u] ∧
      silentAttachment state 1 u = some d ∧ row.endpoint = u.endpoint := by
  constructor
  · rintro ⟨now, hasked⟩
    rcases hs.mem_asked hasked with hsync | ⟨u, d', hsole, hu, heq⟩
    · cases hsync
    · simp only [Txn.attachSilently.injEq] at heq
      obtain ⟨hendpoint, rfl, -⟩ := heq
      exact ⟨u, hsole, hu, hendpoint⟩
  · rintro ⟨u, hsole, hu, hendpoint⟩
    refine ⟨bench.now, ?_⟩
    rw [hs.asked, silentAttachments_sole hidle hsole hu, hendpoint]
    simp

/-- Next to another unknown row, only what is remembered is attached by a decision. -/
theorem decideUnknown_many {endpoint : DeviceEndpoint} (hmany : 2 ≤ (unknownRows rows).length) (keep : Bool) :
    decideUnknown state endpoint rows ≠ .silentAttach d keep := by
  intro hsilent
  have hfew := (resolveEndpoint_silent hsilent).1
  omega

/-- **The scan attaches what the decision attaches, one row at a time**: never next to another unknown row.  So the two
    agree about a row that is the only unknown one, and about one that is not remembered. -/
theorem scan_attaches_as_decided [Crc32fast] (hmode : state.identityMode = .persistent) (hidle : state.identitySetup = none)
    (h : bench.call (discover selection) ⟨state, cache, []⟩ = some (.ok view, desk'))
    (hrow : row ∈ unknownRows (scanRows bench selection state desk'.cache)) :
    (∀ d, AttachedBy desk' row d ↔ (unknownRows (scanRows bench selection state desk'.cache)).length = 1 ∧
      DecidesFor bench state (scanRows bench selection state desk'.cache) row d) ∧
    ((∀ d, AttachedBy desk' row d ↔ DecidesFor bench state (scanRows bench selection state desk'.cache) row d) ↔
      (unknownRows (scanRows bench selection state desk'.cache)).length = 1 ∨ remembers state row = none) := by
  have hs := discover_ok hmode h
  obtain ⟨discovered, hlisted, hrows⟩ := hs.listed
  have htoken := find_presentedToken (bench.usbConnected selection discovered hlisted)
    (hrows ▸ (mem_unknownRows.1 hrow).1)
  rw [← hrows] at htoken
  by_cases hone : (unknownRows (scanRows bench selection state desk'.cache)).length = 1
  · have hsame : ∀ d, AttachedBy desk' row d ↔
        DecidesFor bench state (scanRows bench selection state desk'.cache) row d := by
      intro d
      obtain ⟨u, hsole⟩ := List.length_eq_one_iff.1 hone
      have hu : row = u := by
        rw [hsole] at hrow
        exact List.mem_singleton.1 hrow
      subst hu
      rw [attachedBy_iff hidle hs, decidesFor_iff htoken, ← silentAttachment_iff hsole]
      constructor
      · rintro ⟨u, hsole', hu, -⟩
        rw [hsole] at hsole'
        cases hsole'
        exact hu
      · intro hu
        exact ⟨row, hsole, hu, rfl⟩
    simp only [hone, true_and, true_or, iff_true]
    exact ⟨hsame, hsame⟩
  · have hmany : 2 ≤ (unknownRows (scanRows bench selection state desk'.cache)).length := by
      have hpos := List.length_pos_of_mem hrow
      omega
    have hnever : ∀ d, ¬ AttachedBy desk' row d := by
      intro d hattached
      obtain ⟨u, hsole, -⟩ := (attachedBy_iff hidle hs).1 hattached
      rw [hsole] at hone
      exact hone rfl
    simp only [hone, hnever, false_and, implies_true, true_and, false_or, false_iff]
    constructor
    · intro hdecides
      cases hr : remembers state row with
      | none => rfl
      | some m => exact absurd ((decidesFor_iff htoken).2 (.inl hr)) (hdecides m)
    · intro hr d hdecides
      rcases (decidesFor_iff htoken).1 hdecides with hsome | ⟨-, keep, hsilent⟩
      · rw [hr] at hsome
        cases hsome
      · exact decideUnknown_many hmany keep hsilent

end Scan

end AttackSharkX3

namespace AttackSharkX3.Rig

/-- A wired mouse without a token next to one saved mouse: attached as it would be decided. -/
theorem attaches_blank_mouse : ∃ view desk',
    (bench [plug "a" none]).call (discover .auto) (deskOf oneSaved) = some (.ok view, desk') ∧
      ∀ d, AttachedBy desk' ⟨wired "a", true, .unassociated .absent none⟩ d ↔
        DecidesFor (bench [plug "a" none]) oneSaved (scanRows (bench [plug "a" none]) .auto oneSaved desk'.cache)
          ⟨wired "a", true, .unassociated .absent none⟩ d := by
  obtain ⟨view, desk', hcall, htest⟩ := benched [plug "a" none] (discover .auto) (deskOf oneSaved)
    (fun _ desk' => unknownRows (scanRows (bench [plug "a" none]) .auto oneSaved desk'.cache) =
      [⟨wired "a", true, .unassociated .absent none⟩]) (by decide +kernel)
  have hsole := of_decide_eq_true htest
  refine ⟨view, desk', hcall, ?_⟩
  refine (scan_attaches_as_decided rfl rfl hcall ?_).2.2 (.inl ?_)
  · rw [hsole]
    exact List.mem_singleton_self _
  · rw [hsole]
    rfl

/-- The first of two wired mice that look alike is remembered for a saved mouse. -/
def rememberedOne : StateFile :=
  { oneSaved with endpointMapping := ⟨(∅ : BTreeMap String DeviceId).insert (endpointFingerprint (wired "a")) mouse1, ∅⟩ }

example : rememberedOne.validate = .ok () := by decide +kernel

/-- **A decision attaches a remembered mouse, and the scan does not**: there is another unknown mouse. -/
theorem leaves_remembered_mouse : rememberedOne.validate = .ok () ∧ ∃ view desk' row,
    (bench [plug "a" none, plug "b" none]).call (discover .auto) (deskOf rememberedOne) = some (.ok view, desk') ∧
      row ∈ unknownRows (scanRows (bench [plug "a" none, plug "b" none]) .auto rememberedOne desk'.cache) ∧
      ¬ (AttachedBy desk' row mouse1 ↔ DecidesFor (bench [plug "a" none, plug "b" none]) rememberedOne
        (scanRows (bench [plug "a" none, plug "b" none]) .auto rememberedOne desk'.cache) row mouse1) := by
  refine ⟨by decide +kernel, ?_⟩
  obtain ⟨view, desk', hcall, htest⟩ := benched [plug "a" none, plug "b" none] (discover .auto) (deskOf rememberedOne)
    (fun _ desk' => scanRows (bench [plug "a" none, plug "b" none]) .auto rememberedOne desk'.cache =
        [⟨wired "a", true, .unassociated .absent none⟩, ⟨wired "b", true, .unassociated .absent none⟩] ∧
      desk'.asked = [] ∧ remembers rememberedOne ⟨wired "a", true, .unassociated .absent none⟩ = some mouse1)
    (by decide +kernel)
  obtain ⟨hrows, hasked, hremembered⟩ := of_decide_eq_true htest
  refine ⟨view, desk', ⟨wired "a", true, .unassociated .absent none⟩, hcall, ?_, fun hagree => ?_⟩
  · rw [hrows]
    decide +kernel
  · have hdecides := hagree.2 ((decidesFor_iff (by rw [hrows]; rfl)).2 (.inl hremembered))
    obtain ⟨now, hmem⟩ := hdecides
    rw [hasked] at hmem
    cases hmem

end AttackSharkX3.Rig
