import AttackSharkX3.Valid
import AttackSharkX3.Attested
/-!
# Rows — the connections of a scan, resolved

In a valid state a token resolves to the one mouse that has it, so a row goes by its token wherever it presents one that a
mouse has.  The other rows are unknown, and a sole unknown row is the only one that is ever attached without asking.
-/
namespace AttackSharkX3

open StateFile (valid_identity valid_physicalId physicalIdOf_eq physicalIdOf_inj of_physicalIdOf)

variable {state : StateFile} {d d' : DeviceId} {A T : PhysicalId} {row : ResolvedConnection}

/-! ## The owner of a token -/

theorem mem_tokenOwners (hv : state.validate = .ok ()) : d ∈ tokenOwners state.devices T ↔ physicalIdOf state d = some T := by
  simp only [tokenOwners, List.mem_map, List.mem_filter, decide_eq_true_eq]
  constructor
  · rintro ⟨device, ⟨hmem, hT⟩, rfl⟩
    obtain ⟨k, hk⟩ := BTreeMap.mem_values.1 hmem
    rw [valid_identity hv hk, physicalIdOf_eq hk, hT]
  · intro hT
    obtain ⟨device, hd, hA⟩ := of_physicalIdOf hT
    exact ⟨device, ⟨BTreeMap.mem_values.2 ⟨d, hd⟩, hA⟩, valid_identity hv hd⟩

theorem free_of_tokenOwners (hv : state.validate = .ok ()) (h : tokenOwners state.devices T = []) :
    ∀ d, physicalIdOf state d ≠ some T := by
  intro d hd
  have hmem := (mem_tokenOwners hv).2 hd
  rw [h] at hmem
  exact List.not_mem_nil hmem

/-- A token resolves to a mouse that has it. -/
theorem resolveValidToken_resolved (hv : state.validate = .ok ())
    (h : resolveValidToken state.devices state.identitySetup T = .resolved d) : physicalIdOf state d = some T := by
  refine (mem_tokenOwners hv).1 ?_
  unfold resolveValidToken at h
  split at h
  · simp at h
  split at h
  · simp at h
  split at h
  · simp at h
  · next id hid =>
    cases h
    simp [hid]
  · simp at h

/-- What a token resolves to is reserved by nothing. -/
theorem unreserved_of_resolved (h : resolveValidToken state.devices state.identitySetup T = .resolved d) :
    isReservedToken T = false ∧ state.identitySetup.any (journalReservesToken · T) = false := by
  unfold resolveValidToken at h
  split at h
  · simp at h
  next hreserved =>
  split at h
  · simp at h
  next hjournal => exact ⟨by simpa using hreserved, by simpa using hjournal⟩

theorem nodup_tokenOwners (hv : state.validate = .ok ()) (T : PhysicalId) : (tokenOwners state.devices T).Nodup := by
  have hkeys : tokenOwners state.devices T =
      (state.devices.toList.filter fun entry => entry.2.identity.physicalId = some T).map (·.1) := by
    rw [tokenOwners, BTreeMap.values, List.filter_map, List.map_map]
    refine List.map_congr_left ?_
    rintro ⟨d, device⟩ hmem
    exact valid_identity hv (Std.ExtTreeMap.mem_toList_iff_getElem?_eq_some.1 (List.mem_filter.1 hmem).1)
  rw [hkeys, List.nodup_iff_pairwise_ne, List.pairwise_map]
  exact (BTreeMap.distinct_toList state.devices).filter _

/-- A mouse's token, unreserved, resolves to it. -/
theorem resolveValidToken_of_owner (hv : state.validate = .ok ()) (hmode : state.identityMode = .persistent)
    (hd : physicalIdOf state d = some T) (hreserved : isReservedToken T = false)
    (hjournal : state.identitySetup.any (journalReservesToken · T) = false) :
    resolveValidToken state.devices state.identitySetup T = .resolved d := by
  have howners : tokenOwners state.devices T = [d] := by
    have hnodup := nodup_tokenOwners hv T
    have hall : ∀ d' ∈ tokenOwners state.devices T, d' = d := fun d' hd' =>
      physicalIdOf_inj hv hmode ((mem_tokenOwners hv).1 hd') hd
    have hmem := (mem_tokenOwners hv).2 hd
    match howners : tokenOwners state.devices T with
    | [] => simp [howners] at hmem
    | [d'] => rw [hall d' (by simp [howners])]
    | d₁ :: d₂ :: _ =>
      have h₁ := hall d₁ (by simp [howners])
      have h₂ := hall d₂ (by simp [howners])
      simp [howners, h₁, h₂] at hnodup
  simp [resolveValidToken, hreserved, hjournal, howners]

/-! ## What a connection presents -/

/-- **What a connected USB connection resolves to before anything is attached**, by the watermark the scan has of it. -/
inductive ResolvesTo (state : StateFile) (decode : Option WatermarkDecode) : IdentityResolution → Prop where
  | own {T : PhysicalId} {d : DeviceId} (valid : decode = some (.valid T)) (has : physicalIdOf state d = some T)
      (found : resolveValidToken state.devices state.identitySetup T = .resolved d) : ResolvesTo state decode (.resolved d)
  | foreign {T : PhysicalId} (valid : decode = some (.valid T)) (free : ∀ d, physicalIdOf state d ≠ some T) :
      ResolvesTo state decode (.unassociated .unknown (some T))
  | refused {T : PhysicalId} {reason : UnassociatedReason} (valid : decode = some (.valid T))
      (known : reason = .duplicate ∨ reason = .reserved ∨ reason = .reservedByJournal)
      (unfound : ∀ d, resolveValidToken state.devices state.identitySetup T ≠ .resolved d) :
      ResolvesTo state decode (.unassociated reason (some T))
  | blank (read : decode = none ∨ decode = some .absent) : ResolvesTo state decode (.unassociated .absent none)
  | malformed (read : decode = some .malformed) : ResolvesTo state decode (.unassociated .malformed none)
  | unsupported {version : UInt8} (read : decode = some (.unsupportedVersion version)) :
      ResolvesTo state decode (.unassociated (.unsupported version) none)

theorem resolvesTo_validToken (hv : state.validate = .ok ()) (T : PhysicalId) :
    ResolvesTo state (some (.valid T)) (resolveValidToken state.devices state.identitySetup T) := by
  cases h : resolveValidToken state.devices state.identitySetup T with
  | resolved d => exact .own rfl (resolveValidToken_resolved hv h) h
  | unassociated reason physicalId =>
    have hnone : ∀ d, resolveValidToken state.devices state.identitySetup T ≠ .resolved d := by simp [h]
    unfold resolveValidToken at h
    split at h
    · cases h
      exact .refused rfl (.inr (.inl rfl)) hnone
    split at h
    · cases h
      exact .refused rfl (.inr (.inr rfl)) hnone
    split at h
    · next hnil =>
      cases h
      exact .foreign rfl (free_of_tokenOwners hv hnil)
    · cases h
    · cases h
      exact .refused rfl (.inl rfl) hnone

namespace ResolvesTo

variable {decode : Option WatermarkDecode} {resolution : IdentityResolution}

/-- A connection is unknown for want of a token, or of an owner of it. -/
theorem unknown (h : ResolvesTo state decode resolution) (hunknown : resolution.isUnknown = true) :
    (∃ T, decode = some (.valid T) ∧ (∀ d, physicalIdOf state d ≠ some T) ∧
        resolution = .unassociated .unknown (some T)) ∨
      (decode = none ∨ decode = some .absent) ∧ resolution = .unassociated .absent none := by
  cases h with
  | foreign valid free => exact .inl ⟨_, valid, free, rfl⟩
  | blank read => exact .inr ⟨read, rfl⟩
  | refused valid known unfound => rcases known with rfl | rfl | rfl <;> cases hunknown
  | own | malformed | unsupported => cases hunknown

theorem of_resolved (h : ResolvesTo state decode (.resolved d)) :
    ∃ T, decode = some (.valid T) ∧ physicalIdOf state d = some T ∧
      resolveValidToken state.devices state.identitySetup T = .resolved d := by
  cases h with
  | own valid has found => exact ⟨_, valid, has, found⟩

/-- A connection without a token to read is unassociated. -/
theorem of_blank (h : ResolvesTo state decode resolution) (hread : decode = none ∨ decode = some .absent) :
    resolution = .unassociated .absent none := by
  cases h with
  | blank _ => rfl
  | own valid | foreign valid | refused valid | malformed valid | unsupported valid => simp [valid] at hread

/-- A token that a mouse has, unreserved, is resolved to it. -/
theorem eq_of_found (h : ResolvesTo state (some (.valid T)) resolution)
    (hfound : resolveValidToken state.devices state.identitySetup T = .resolved d) (hv : state.validate = .ok ()) :
    resolution = .resolved d := by
  cases h with
  | own valid has found =>
    cases valid
    exact found.symm.trans hfound
  | foreign valid free =>
    cases valid
    exact absurd (resolveValidToken_resolved hv hfound) (free d)
  | refused valid known unfound =>
    cases valid
    exact absurd hfound (unfound d)
  | blank read => simp at read
  | malformed read | unsupported read => cases read

end ResolvesTo

variable {cache : IdentityCache} {discovered : List DiscoveredEndpoint} {rows : List ResolvedConnection}

/-- A row is a listed connection's. -/
theorem mem_resolveScanRows (h : row ∈ resolveScanRows .persistent cache state discovered) :
    ∃ disc ∈ discovered, row.endpoint = disc.endpoint ∧ row.connected = disc.connected ∧
      (row.resolution = resolveConnection state.devices state.identitySetup none disc.endpoint
          (scanDecode .persistent cache disc) ∨
        ∃ T, resolveConnection state.devices state.identitySetup none disc.endpoint
            (scanDecode .persistent cache disc) = .unassociated .unknown (some T) ∧
          row.resolution = .unassociated .duplicate (some T)) := by
  unfold resolveScanRows markScanDuplicates at h
  simp only [List.mem_map, reduceCtorEq, if_false] at h
  obtain ⟨_, ⟨disc, hdisc, rfl⟩, rfl⟩ := h
  refine ⟨disc, hdisc, ?_⟩
  split
  · next T hT =>
    simp only at hT
    split
    · exact ⟨rfl, rfl, .inr ⟨T, hT, rfl⟩⟩
    · exact ⟨rfl, rfl, .inl rfl⟩
  · exact ⟨rfl, rfl, .inl rfl⟩

/-- Every listed connection has a row. -/
theorem resolveScanRows_mem {disc : DiscoveredEndpoint} (h : disc ∈ discovered) :
    ∃ row ∈ resolveScanRows .persistent cache state discovered,
      row.endpoint = disc.endpoint ∧ row.connected = disc.connected := by
  unfold resolveScanRows markScanDuplicates
  refine ⟨_, List.mem_map.2 ⟨_, List.mem_map.2 ⟨disc, h, rfl⟩, rfl⟩, ?_⟩
  simp only [reduceCtorEq, if_false]
  split
  · split_ifs
    · exact ⟨rfl, rfl⟩
    · exact ⟨rfl, rfl⟩
  · exact ⟨rfl, rfl⟩

/-- **A connected USB row goes by its watermark.** -/
theorem resolvesTo_of_mem (hv : state.validate = .ok ()) (h : row ∈ resolveScanRows .persistent cache state discovered)
    (hconnected : row.connected = true) (husb : isUsbTransport row.endpoint.transport = true) :
    ResolvesTo state (cache.lookup row.endpoint) row.resolution := by
  obtain ⟨disc, -, hendpoint, hdisc, hres⟩ := mem_resolveScanRows h
  rw [hendpoint] at husb ⊢
  rw [hconnected] at hdisc
  have hdecode : scanDecode .persistent cache disc = cache.lookup disc.endpoint := by
    simp [scanDecode, DiscoveredEndpoint.authenticates, ← hdisc, husb]
  rw [hdecode] at hres
  have hbase : ResolvesTo state (cache.lookup disc.endpoint)
      (resolveConnection state.devices state.identitySetup none disc.endpoint (cache.lookup disc.endpoint)) := by
    cases ht : disc.endpoint.transport with
    | ble => simp [ht, isUsbTransport] at husb
    | wired | receiver =>
      cases hl : cache.lookup disc.endpoint with
      | none =>
        simp only [resolveConnection, ht]
        exact .blank (.inl rfl)
      | some decode =>
        cases decode with
        | valid T =>
          simp only [resolveConnection, ht]
          exact resolvesTo_validToken hv T
        | absent =>
          simp only [resolveConnection, ht]
          exact .blank (.inr rfl)
        | malformed =>
          simp only [resolveConnection, ht]
          exact .malformed rfl
        | unsupportedVersion version =>
          simp only [resolveConnection, ht]
          exact .unsupported rfl
  rcases hres with hres | ⟨T, hunknown, hduplicate⟩
  · rwa [hres]
  · rw [hunknown] at hbase
    rw [hduplicate]
    cases hbase with
    | foreign valid free =>
      refine .refused valid (.inl rfl) fun d hd => ?_
      exact free d (resolveValidToken_resolved hv hd)
    | refused valid known => simp at known

/-! ## Attached without asking -/

/-- The state once the attachments are stored. -/
def silentlyAttached (now : Timestamp) (state : StateFile) (silent : List (DeviceEndpoint × DeviceId)) : StateFile :=
  silent.foldl (fun state entry => (Txn.attachSilently entry.1 entry.2 now).after state) state

/-- The rows of the connections a scan found, once the silent attachments are stored. -/
def scanConnections (now : Timestamp) (state : StateFile) (rows : List ResolvedConnection) : List ResolvedConnection :=
  let silent := silentAttachments state rows
  if silent.isEmpty then rows else reresolve (silentlyAttached now state silent) rows

theorem mem_unknownRows : row ∈ unknownRows rows ↔ row ∈ rows ∧ row.connected = true ∧ row.resolution.isUnknown = true := by
  simp [unknownRows]

theorem rememberedDeviceIn_saved {endpoint : DeviceEndpoint} (h : rememberedDeviceIn state endpoint = some d) :
    ∃ device, state.devices[d]? = some device := by
  unfold rememberedDeviceIn at h
  have hcontains := (Option.filter_eq_some_iff.1 h).2
  rw [Std.ExtTreeMap.contains_eq_isSome_getElem?] at hcontains
  exact Option.isSome_iff_exists.1 hcontains

/-- An unknown fingerprint is attached only to a sole candidate, and only alone. -/
theorem resolveEndpoint_silent {count : Nat} {transport : TransportKind} {candidates : List Candidate}
    {stored keep : Bool} (h : resolveEndpoint false count transport candidates stored = .silentAttach d keep) :
    count < 2 ∧ ∃ only, candidates = [only] ∧ only.identity = d := by
  unfold resolveEndpoint at h
  by_cases hmany : 2 ≤ count
  · exfalso
    simp only [Bool.false_eq_true, if_false, hmany, if_true] at h
    match transport, candidates with
    | .ble, [] | .wired, [] | .receiver, [] => simp at h
    | .ble, [only] =>
      simp only at h
      split at h
      · simp at h
      · simp at h
    | .wired, _ :: _ | .receiver, _ :: _ | .ble, _ :: _ :: _ => simp at h
  · refine ⟨by omega, ?_⟩
    simp only [Bool.false_eq_true, if_false, hmany] at h
    match candidates with
    | [] => cases transport <;> simp at h
    | [only] =>
      refine ⟨only, rfl, ?_⟩
      cases transport with
      | ble =>
        simp only at h
        split at h
        · simp at h
          exact h.1
        · simp at h
      | wired | receiver =>
        simp at h
        exact h.1
    | _ :: _ :: _ => cases transport <;> simp at h

/-- The row is remembered for a mouse its token does not contradict. -/
def remembers (state : StateFile) (row : ResolvedConnection) : Option DeviceId :=
  (rememberedDeviceIn state row.endpoint).filter fun _ =>
    rememberedMappingAgrees state row.endpoint (presentedToken row)

theorem silentAttachment_eq (unknowns : Nat) : silentAttachment state unknowns row =
    match remembers state row with
    | some remembered => some remembered
    | none => match resolveEndpoint false unknowns row.endpoint.transport (resolutionCandidates state)
        ((resolutionCandidates state).any (·.hasStoredState)) with
      | .silentAttach attachTo _ => some attachTo
      | .setupFirst | .askWhich _ | .askNewOrMine _ => none := rfl

theorem silentAttachment_remembered {unknowns : Nat} (h : remembers state row = some d) :
    silentAttachment state unknowns row = some d := by
  rw [silentAttachment_eq, h]

/-- A sole unknown row is attached to the mouse it is remembered for, or to the only mouse there is. -/
theorem silentAttachment_cases (h : silentAttachment state 1 row = some d) :
    remembers state row = some d ∨ remembers state row = none ∧ ∃ device, state.devices.toList = [(d, device)] := by
  cases hr : remembers state row with
  | some d' =>
    rw [silentAttachment_remembered hr] at h
    exact .inl h
  | none =>
    refine .inr ⟨rfl, ?_⟩
    rw [silentAttachment_eq, hr] at h
    simp only at h
    split at h
    · next hsilent =>
      obtain ⟨-, only, honly, hd⟩ := resolveEndpoint_silent hsilent
      obtain ⟨⟨d', device⟩, hlist, rfl⟩ := List.map_eq_singleton_iff.1 honly
      cases h
      cases hd
      exact ⟨device, hlist⟩
    all_goals cases h

/-- Over USB the only mouse is attached to, stored settings or not. -/
theorem silentAttachment_only {device : DeviceState} (husb : isUsbTransport row.endpoint.transport = true)
    (hr : remembers state row = none) (honly : state.devices.toList = [(d, device)]) :
    silentAttachment state 1 row = some d := by
  rw [silentAttachment_eq, hr]
  simp only [resolutionCandidates, honly, List.map_cons, List.map_nil, resolveEndpoint]
  cases ht : row.endpoint.transport with
  | ble => simp [ht, isUsbTransport] at husb
  | wired | receiver => simp

theorem silentAttachment_saved (h : silentAttachment state 1 row = some d) :
    ∃ device, state.devices[d]? = some device := by
  rcases silentAttachment_cases h with hr | ⟨-, device, hlist⟩
  · exact rememberedDeviceIn_saved (Option.filter_eq_some_iff.1 hr).1
  · refine ⟨device, Std.ExtTreeMap.mem_toList_iff_getElem?_eq_some.1 ?_⟩
    simp [hlist]

/-- **Only a sole unknown row is attached**, and no ceremony runs then. -/
theorem silentAttachments_cases (state : StateFile) (rows : List ResolvedConnection) :
    silentAttachments state rows = [] ∨ ∃ u d, unknownRows rows = [u] ∧ state.identitySetup = none ∧
      silentAttachment state 1 u = some d ∧ silentAttachments state rows = [(u.endpoint, d)] := by
  unfold silentAttachments
  by_cases hmany : state.identitySetup.isSome || 2 ≤ (unknownRows rows).length
  · simp [hmany]
  · simp only [hmany, Bool.false_eq_true, if_false]
    simp only [Bool.or_eq_true, Option.isSome_iff_ne_none, decide_eq_true_eq, not_or, not_not, Nat.not_le] at hmany
    obtain ⟨hsetup, hfew⟩ := hmany
    match hrows : unknownRows rows with
    | [] => simp
    | [u] =>
      cases hu : silentAttachment state 1 u with
      | none => simp [hu]
      | some d => exact .inr ⟨u, d, rfl, hsetup, hu, by simp [hu]⟩
    | _ :: _ :: _ =>
      rw [hrows, List.length_cons, List.length_cons] at hfew
      omega

/-! ## The rows a scan shows -/

section Connections

variable {now : Timestamp} {endpoint : DeviceEndpoint} {device : DeviceState}

theorem attachSilently_after (hd : state.devices[d]? = some device) :
    (Txn.attachSilently endpoint d now).after state = Txn.attach state d device endpoint now := by
  simp [Txn.after, Txn.run, Mutation.apply_bind, hd]
  rfl

theorem attach_remembers (state : StateFile) (d : DeviceId) (device : DeviceState) (endpoint : DeviceEndpoint)
    (now : Timestamp) : rememberedDeviceIn (Txn.attach state d device endpoint now) endpoint = some d := by
  simp [rememberedDeviceIn, Txn.attach, rememberEndpointMapping]

theorem attach_physicalIdOf (hd : state.devices[d]? = some device) (d' : DeviceId) :
    physicalIdOf (Txn.attach state d device endpoint now) d' = physicalIdOf state d' :=
  (ordinarilyKept_token d').attached state d device endpoint now hd

/-- A row resolved again is the one it was, or was unknown and is now remembered. -/
theorem mem_reresolve (h : row ∈ reresolve state rows) : row ∈ rows ∨ ∃ row₀ ∈ rows, ∃ d,
    row₀.resolution.isUnknown = true ∧ remembers state row₀ = some d ∧ row = { row₀ with resolution := .resolved d } := by
  unfold reresolve at h
  obtain ⟨row₀, hrow₀, rfl⟩ := List.mem_map.1 h
  split
  · next hcond =>
    obtain ⟨hunknown, hagrees⟩ := Bool.and_eq_true_iff.1 hcond
    split
    · next d hd => exact .inr ⟨row₀, hrow₀, d, hunknown, by simp [remembers, hd, hagrees], rfl⟩
    · exact .inl hrow₀
  · exact .inl hrow₀

/-- The mouse a row is remembered for has the token the row presents, if both have one. -/
theorem remembers_agrees (h : remembers state row = some d) (hT : presentedToken row = some T)
    (hA : physicalIdOf state d = some A) : A = T := by
  obtain ⟨hremembered, hagrees⟩ := Option.filter_eq_some_iff.1 h
  obtain ⟨device, hd, hdA⟩ := of_physicalIdOf hA
  simp only [rememberedMappingAgrees, hT, hremembered, Option.all_some, hd, Option.bind_some, hdA,
    decide_eq_true_eq] at hagrees
  exact hagrees

/-- A foreign token is remembered for no mouse. -/
theorem remembers_foreign (hv : state.validate = .ok ()) (hmode : state.identityMode = .persistent)
    (hT : presentedToken row = some T) (free : ∀ d, physicalIdOf state d ≠ some T) : remembers state row = none := by
  cases h : remembers state row with
  | none => rfl
  | some d =>
    obtain ⟨device, hd⟩ := rememberedDeviceIn_saved (Option.filter_eq_some_iff.1 h).1
    obtain ⟨A, hA⟩ := valid_physicalId hv hmode hd
    exact absurd (remembers_agrees h hT hA ▸ hA) (free d)

/-- **The connected rows a scan shows** are those it resolved by what they present, and a sole unknown one attached to a
mouse that its token, if it has one, is. -/
theorem mem_scanConnections (h : row ∈ scanConnections now state rows) (hconnected : row.connected = true) :
    row ∈ rows ∨ ∃ u d, unknownRows rows = [u] ∧ state.identitySetup = none ∧ silentAttachment state 1 u = some d ∧
      (∀ T, presentedToken u = some T → ∀ A, physicalIdOf state d = some A → A = T) ∧
      row = { u with resolution := .resolved d } := by
  rcases silentAttachments_cases state rows with hnone | ⟨u, d, hsole, hsetup, hu, hsilent⟩
  · rw [scanConnections, hnone] at h
    exact .inl h
  · obtain ⟨device, hd⟩ := silentAttachment_saved hu
    simp only [scanConnections, hsilent, List.isEmpty_cons, Bool.false_eq_true, if_false, silentlyAttached,
      List.foldl_cons, List.foldl_nil, attachSilently_after hd] at h
    rcases mem_reresolve h with hold | ⟨row₀, hrow₀, d', hunknown, hremembers, rfl⟩
    · exact .inl hold
    · have hmem : row₀ ∈ unknownRows rows := mem_unknownRows.2 ⟨hrow₀, hconnected, hunknown⟩
      rw [hsole, List.mem_singleton] at hmem
      subst hmem
      have hd' : rememberedDeviceIn (Txn.attach state d device row₀.endpoint now) row₀.endpoint = some d' :=
        (Option.filter_eq_some_iff.1 hremembers).1
      rw [attach_remembers, Option.some.injEq] at hd'
      subst hd'
      refine .inr ⟨row₀, d, hsole, hsetup, hu, ?_, rfl⟩
      intro T hT A hA
      exact remembers_agrees hremembers hT ((attach_physicalIdOf hd d).trans hA)

theorem scanConnections_source (h : row ∈ scanConnections now state rows) :
    ∃ row₀ ∈ rows, row.endpoint = row₀.endpoint ∧ row.connected = row₀.connected := by
  unfold scanConnections at h
  simp only at h
  split at h
  · exact ⟨row, h, rfl, rfl⟩
  · rcases mem_reresolve h with hold | ⟨row₀, hrow₀, d, -, -, rfl⟩
    · exact ⟨row, hold, rfl, rfl⟩
    · exact ⟨row₀, hrow₀, rfl, rfl⟩

/-- A row that is not unknown stays as it is. -/
theorem scanConnections_mem (hrow : row ∈ rows) (hknown : row.resolution.isUnknown = false) :
    row ∈ scanConnections now state rows := by
  unfold scanConnections
  simp only
  split
  · exact hrow
  · exact List.mem_map.2 ⟨row, hrow, by simp [hknown]⟩

/-- Every row is still there, resolved or not. -/
theorem scanConnections_endpoint (hrow : row ∈ rows) :
    ∃ row' ∈ scanConnections now state rows, row'.endpoint = row.endpoint ∧ row'.connected = row.connected := by
  unfold scanConnections
  simp only
  split
  · exact ⟨row, hrow, rfl, rfl⟩
  · refine ⟨_, List.mem_map.2 ⟨row, hrow, rfl⟩, ?_⟩
    split
    · split
      · exact ⟨rfl, rfl⟩
      · exact ⟨rfl, rfl⟩
    · exact ⟨rfl, rfl⟩

theorem silentAttachments_sole {u : ResolvedConnection} (hsetup : state.identitySetup = none)
    (hsole : unknownRows rows = [u]) (hu : silentAttachment state 1 u = some d) :
    silentAttachments state rows = [(u.endpoint, d)] := by
  simp [silentAttachments, hsetup, hsole, hu]

/-- A connected row is as it was found, and known, or it is the sole unknown one, without a token, and shown as the mouse
it is attached to. -/
theorem scanConnections_attached {u : ResolvedConnection} (hsetup : state.identitySetup = none)
    (hsole : unknownRows rows = [u]) (hu : silentAttachment state 1 u = some d) (hblank : presentedToken u = none)
    (hrow : row ∈ scanConnections now state rows) (hconnected : row.connected = true) :
    (row ∈ rows ∧ row.resolution.isUnknown = false) ∨ row = { u with resolution := .resolved d } := by
  obtain ⟨device, hd⟩ := silentAttachment_saved hu
  simp only [scanConnections, silentAttachments_sole hsetup hsole hu, List.isEmpty_cons, Bool.false_eq_true, if_false,
    silentlyAttached, List.foldl_cons, List.foldl_nil, attachSilently_after hd] at hrow
  obtain ⟨row₀, hrow₀, rfl⟩ := List.mem_map.1 hrow
  cases hunknown : row₀.resolution.isUnknown with
  | false => exact .inl (by simpa [hunknown] using hrow₀)
  | true =>
    have hmem : row₀ ∈ unknownRows rows := by
      refine mem_unknownRows.2 ⟨hrow₀, ?_, hunknown⟩
      revert hconnected
      split
      · split <;> exact id
      · exact id
    rw [hsole, List.mem_singleton] at hmem
    subst hmem
    exact .inr (by simp [rememberedMappingAgrees, hblank, attach_remembers])

end Connections

end AttackSharkX3
