import AttackSharkX3.Found
import AttackSharkX3.Worker
/-!
# Remembered — where the worker attaches a remembered connection

The resolver is told that a fingerprint is known, not whose it is: it attaches to the first candidate.  The connection
then leaves the mouse it was remembered for, unless that mouse is the first.
-/
namespace AttackSharkX3

open Effects (Fallible)

variable {bench : Bench} {desk desk' : Desk} {state : StateFile} {row : ResolvedConnection} {d m : DeviceId}

/-! ## What the worker reads -/

theorem call_rememberedDeviceFor (endpoint : DeviceEndpoint) :
    bench.call (rememberedDeviceFor endpoint) desk = some (.ok (rememberedDeviceIn desk.store endpoint), desk) := rfl

theorem call_devicePhysicalId (d : DeviceId) :
    bench.call (devicePhysicalId d) desk = some (.ok (physicalIdOf desk.store d), desk) := rfl

theorem call_fingerprintKnown (row : ResolvedConnection) :
    bench.call (fingerprintKnown row) desk = some (.ok (remembers desk.store row).isSome, desk) := by
  have hremembered : bench.call (isEndpointRemembered row.endpoint) desk =
      some (.ok (rememberedDeviceIn desk.store row.endpoint).isSome, desk) := rfl
  rw [fingerprintKnown, Bench.call_bind_ok hremembered]
  cases hd : rememberedDeviceIn desk.store row.endpoint with
  | none =>
    simp only [remembers, hd]
    rfl
  | some d =>
    cases hT : presentedToken row with
    | none =>
      simp only [remembers, hd, hT, rememberedMappingAgrees]
      rfl
    | some T =>
      have hagain := @call_rememberedDeviceFor bench desk row.endpoint
      rw [hd] at hagain
      simp only [Option.isSome_some, if_true]
      rw [Bench.call_bind_ok hagain, Bench.call_bind_ok (call_devicePhysicalId d)]
      have hagrees : rememberedMappingAgrees desk.store row.endpoint (some T) =
          (physicalIdOf desk.store d).all (· = T) := by
        simp [rememberedMappingAgrees, hd, physicalIdOf]
      simp only [remembers, hd, hT, hagrees]
      cases hall : (physicalIdOf desk.store d).all (· = T) with
      | false => rfl
      | true => rfl

theorem call_candidatesOf : ∀ saved : List (DeviceId × DeviceState),
    bench.call (candidatesOf state saved) desk = some (.ok (saved.map fun entry => ⟨entry.1, entry.2.identity.displayName,
      entry.2.identity.selectedTransport, state.endpointMapping.lastSeenUnixSeconds.values.max?,
      (desk.store.devices[entry.1]?).any deviceHasEvidence⟩), desk)
  | [] => rfl
  | (id, device) :: rest => by
    have hstored : bench.call (hasEvidence id) desk =
        some (.ok ((desk.store.devices[id]?).any deviceHasEvidence), desk) := rfl
    rw [candidatesOf, Bench.call_bind_ok hstored, Bench.call_bind_ok (call_candidatesOf rest)]
    rfl

/-- **The worker's candidates are the manager's.** -/
theorem call_savedCandidates : bench.call savedCandidates desk = some (.ok (resolutionCandidates desk.store), desk) := by
  have hload : bench.call (Manager.attempt Manager.load) desk = some (.ok (.ok desk.store), desk) := rfl
  have hcandidates := @call_candidatesOf bench desk desk.store desk.store.devices.toList
  rw [savedCandidates, Bench.call_bind_ok hload]
  refine hcandidates.trans ?_
  have hmap : (desk.store.devices.toList.map fun entry => (⟨entry.1, entry.2.identity.displayName,
      entry.2.identity.selectedTransport, desk.store.endpointMapping.lastSeenUnixSeconds.values.max?,
      (desk.store.devices[entry.1]?).any deviceHasEvidence⟩ : Candidate)) = resolutionCandidates desk.store := by
    refine List.map_congr_left ?_
    rintro ⟨id, device⟩ hmem
    simp [Std.ExtTreeMap.mem_toList_iff_getElem?_eq_some.1 hmem]
  rw [hmap]

theorem resolutionCandidates_identity (state : StateFile) :
    (resolutionCandidates state).map (·.identity) = state.devices.keys := by
  rw [resolutionCandidates, List.map_map]
  exact Std.ExtTreeMap.map_fst_toList_eq_keys

/-! ## One row -/

/-- Only the first candidate is ever attached to, and one of several only if the fingerprint is known. -/
theorem resolveEndpoint_first {known : Bool} {count : Nat} {transport : TransportKind} {candidates : List Candidate}
    {stored keep : Bool} (h : resolveEndpoint known count transport candidates stored = .silentAttach d keep) :
    (candidates.map (·.identity)).head? = some d ∧ (known = true ∨ count < 2) := by
  cases known with
  | true =>
    unfold resolveEndpoint at h
    match candidates with
    | [] => simp at h
    | only :: rest =>
      simp at h
      simp [h.1]
  | false =>
    obtain ⟨hfew, only, rfl, rfl⟩ := resolveEndpoint_silent h
    exact ⟨rfl, .inr hfew⟩

/-- A remembered row is attached to the first candidate. -/
theorem resolveEndpoint_known {count : Nat} {transport : TransportKind} {candidates : List Candidate} {stored : Bool}
    (h : (candidates.map (·.identity)).head? = some d) :
    resolveEndpoint true count transport candidates stored = .silentAttach d stored := by
  match candidates with
  | [] => simp at h
  | only :: rest =>
    simp at h
    simp [resolveEndpoint, h]

/-- **What one row does**: nothing, if its fingerprint is unknown, or the first saved mouse is remembered for it. -/
theorem resolveUnknown_ok {candidates : List Candidate} {stored : Bool} {count : Nat} {out : ScanResolution}
    (h : bench.call (resolveUnknown candidates stored count row) desk = some (.ok out, desk')) :
    desk' = desk ∧ (candidates = [] ∨ remembers desk.store row = none) ∨
      ∃ d, (candidates.map (·.identity)).head? = some d ∧ ((remembers desk.store row).isSome = true ∨ count < 2) ∧
        desk'.store = (commitReliably (.rememberResolution row.endpoint d bench.now) desk.store).2 ∧
        desk'.asked = (desk.store, .rememberResolution row.endpoint d bench.now) :: desk.asked := by
  rw [resolveUnknown, Bench.call_bind_ok (call_fingerprintKnown row)] at h
  simp only at h
  have hunknown : ∀ r, resolveEndpoint (remembers desk.store row).isSome count row.endpoint.transport candidates stored = r →
      (∀ d keep, r ≠ .silentAttach d keep) → candidates = [] ∨ remembers desk.store row = none := by
    intro r hr hsilent
    match hc : candidates, hk : remembers desk.store row with
    | [], _ => exact .inl rfl
    | _, none => exact .inr rfl
    | only :: rest, some m =>
      have hknown := @resolveEndpoint_known only.identity count row.endpoint.transport
        (only :: rest) stored rfl
      rw [hk, Option.isSome_some, hknown] at hr
      exact absurd hr.symm (hsilent _ _)
  split at h
  · next d keep hsilent =>
    obtain ⟨hfirst, hknown⟩ := resolveEndpoint_first hsilent
    split at h
    · next hforeign =>
      obtain ⟨-, rfl⟩ := Bench.of_call_pure h
      have hnone : (remembers desk'.store row).isSome = false := by
        simpa using (Bool.and_eq_true_iff.1 hforeign).2
      exact .inl ⟨rfl, .inr (by simpa using hnone)⟩
    · obtain ⟨attached, desk₁, hattach, hdone⟩ := Bench.of_call_bind h
      obtain ⟨-, rfl⟩ := Bench.of_call_pure hdone
      have hcall : ∃ r, bench.call (Manager.attempt (rememberResolution row.endpoint d)) desk = some (.ok r,
          { desk with
            store := (commitReliably (.rememberResolution row.endpoint d bench.now) desk.store).2
            asked := (desk.store, .rememberResolution row.endpoint d bench.now) :: desk.asked }) := ⟨_, rfl⟩
      obtain ⟨r, hcall⟩ := hcall
      rw [hcall, Option.some.injEq, Prod.mk.injEq] at hattach
      obtain ⟨-, rfl⟩ := hattach
      exact .inr ⟨d, hfirst, hknown, rfl, rfl⟩
  · next list hask =>
    obtain ⟨-, rfl⟩ := Bench.of_call_pure h
    exact .inl ⟨rfl, hunknown _ hask nofun⟩
  · next candidate hask =>
    obtain ⟨-, rfl⟩ := Bench.of_call_pure h
    exact .inl ⟨rfl, hunknown _ hask nofun⟩
  · next hask =>
    obtain ⟨-, rfl⟩ := Bench.of_call_pure h
    exact .inl ⟨rfl, hunknown _ hask nofun⟩

/-! ## What a row changes for the others -/

/-- The mouse has the token presented, if both have one. -/
def fitsToken (state : StateFile) (presented : Option PhysicalId) (m : DeviceId) : Bool :=
  presented.all fun token => (physicalIdOf state m).all (· = token)

theorem remembers_eq (state : StateFile) (row : ResolvedConnection) :
    remembers state row = (rememberedDeviceIn state row.endpoint).filter (fitsToken state (presentedToken row)) := by
  unfold remembers rememberedMappingAgrees fitsToken
  cases hm : rememberedDeviceIn state row.endpoint with
  | none => rfl
  | some m =>
    cases presentedToken row with
    | none => rfl
    | some T => simp [Option.filter_some, physicalIdOf]

theorem rememberResolution_after (endpoint : DeviceEndpoint) (d : DeviceId) (now : Timestamp) (state : StateFile) :
    (Txn.rememberResolution endpoint d now).after state = match state.devices[d]? with
      | none => state
      | some device => Txn.attach state d device endpoint now := by
  show ((do
    let state ← get
    let deviceState ← Mutation.orError (.deviceNotFound d) state.devices[d]?
    set (Txn.attach state d deviceState endpoint now) : Mutation Unit).apply state).2 = _
  cases hd : state.devices[d]? with
  | none => simp [Mutation.apply_bind, hd]
  | some device => simp [Mutation.apply_bind, hd]

theorem commit_remember_cases (endpoint : DeviceEndpoint) (d : DeviceId) (now : Timestamp) (state : StateFile) :
    (commitReliably (.rememberResolution endpoint d now) state).2 = state ∨
      ∃ device, state.devices[d]? = some device ∧
        (commitReliably (.rememberResolution endpoint d now) state).2 = Txn.attach state d device endpoint now := by
  rcases (commits_reliably (.rememberResolution endpoint d now) state).cases with hsame | ⟨hafter, -⟩
  · exact .inl hsame
  · rw [hafter, rememberResolution_after]
    cases hd : state.devices[d]? with
    | none => exact .inl rfl
    | some device => exact .inr ⟨device, rfl, rfl⟩

theorem rememberedDeviceIn_attach {device : DeviceState} (hd : state.devices[d]? = some device)
    (endpoint endpoint' : DeviceEndpoint) (now : Timestamp) :
    rememberedDeviceIn (Txn.attach state d device endpoint now) endpoint' =
      if endpointFingerprint endpoint = endpointFingerprint endpoint' then some d
      else rememberedDeviceIn state endpoint' := by
  have hcontains : (Txn.attach state d device endpoint now).devices.contains = state.devices.contains := by
    funext m
    have hsaved : state.devices.contains d = true := by
      rw [Std.ExtTreeMap.contains_eq_isSome_getElem?, hd]
      rfl
    simp only [Txn.attach, rememberEndpointMapping, Std.ExtTreeMap.contains_insert]
    by_cases hm : d = m
    · subst hm
      simp [hsaved]
    · simp [hm]
  unfold rememberedDeviceIn
  rw [hcontains]
  split
  · next hsame =>
    have hsaved : state.devices.contains d = true := by
      rw [Std.ExtTreeMap.contains_eq_isSome_getElem?, hd]
      rfl
    simp [Txn.attach, rememberEndpointMapping, hsame, Option.filter_some, hsaved]
  · next hother =>
    simp only [Txn.attach, rememberEndpointMapping]
    rw [BTreeMap.get_insert_of_ne _ hother]

/-- A row that is not of the fingerprint, or was remembered for the mouse, is remembered as before. -/
theorem remembers_commit (endpoint : DeviceEndpoint) (d : DeviceId) (now : Timestamp) (state : StateFile)
    (row : ResolvedConnection) :
    remembers (commitReliably (.rememberResolution endpoint d now) state).2 row = remembers state row ∨
      endpointFingerprint endpoint = endpointFingerprint row.endpoint ∧
        remembers (commitReliably (.rememberResolution endpoint d now) state).2 row =
          (some d).filter (fitsToken state (presentedToken row)) := by
  rcases commit_remember_cases endpoint d now state with hsame | ⟨device, hd, hattach⟩
  · rw [hsame]
    exact .inl rfl
  · have hfits : fitsToken (Txn.attach state d device endpoint now) (presentedToken row) =
        fitsToken state (presentedToken row) := by
      funext m
      simp only [fitsToken, attach_physicalIdOf hd]
    rw [hattach, remembers_eq, remembers_eq, hfits, rememberedDeviceIn_attach hd]
    by_cases hsame : endpointFingerprint endpoint = endpointFingerprint row.endpoint
    · exact .inr ⟨hsame, by rw [if_pos hsame]⟩
    · exact .inl (by rw [if_neg hsame])

/-! ## A whole scan -/

section Rows

variable {candidates : List Candidate} {stored : Bool} {count : Nat} {out : ScanResolution}

theorem resolveRows_cons {rows : List ResolvedConnection}
    (h : bench.call (resolveRows candidates stored count (row :: rows)) desk = some (.ok out, desk')) :
    ∃ first desk₁ rest, bench.call (resolveUnknown candidates stored count row) desk = some (.ok first, desk₁) ∧
      bench.call (resolveRows candidates stored count rows) desk₁ = some (.ok rest, desk') := by
  obtain ⟨first, desk₁, hfirst, h₁⟩ := Bench.of_call_bind h
  obtain ⟨rest, desk₂, hrest, h₂⟩ := Bench.of_call_bind h₁
  obtain ⟨-, rfl⟩ := Bench.of_call_pure h₂
  exact ⟨first, desk₁, rest, hfirst, hrest⟩

/-- What was asked stays asked. -/
theorem resolveRows_mono : ∀ (rows : List ResolvedConnection) {desk desk' : Desk} {out : ScanResolution},
    bench.call (resolveRows candidates stored count rows) desk = some (.ok out, desk') →
    ∀ p ∈ desk.asked, p ∈ desk'.asked
  | [], desk, desk', out, h => by
    obtain ⟨-, rfl⟩ := Bench.of_call_pure h
    exact fun _ => id
  | row :: rows, desk, desk', out, h => by
    obtain ⟨first, desk₁, rest, hfirst, hrest⟩ := resolveRows_cons h
    intro p hp
    refine resolveRows_mono rows hrest p ?_
    rcases resolveUnknown_ok hfirst with ⟨rfl, -⟩ | ⟨d, -, -, -, hasked⟩
    · exact hp
    · rw [hasked]
      exact List.mem_cons_of_mem _ hp

/-- **Each new request attaches to the first candidate**, on a state where rows are remembered as before or for it. -/
theorem resolveRows_asks : ∀ (rows : List ResolvedConnection) {desk desk' : Desk} {out : ScanResolution},
    bench.call (resolveRows candidates stored count rows) desk = some (.ok out, desk') →
    ∀ p ∈ desk'.asked, p ∈ desk.asked ∨ ∃ endpoint d now, p.2 = .rememberResolution endpoint d now ∧
      (candidates.map (·.identity)).head? = some d ∧
      ∀ row m, remembers p.1 row = some m → m = d ∨ remembers desk.store row = some m
  | [], desk, desk', out, h => by
    obtain ⟨-, rfl⟩ := Bench.of_call_pure h
    exact fun _ => .inl
  | row :: rows, desk, desk', out, h => by
    obtain ⟨first, desk₁, rest, hfirst, hrest⟩ := resolveRows_cons h
    intro p hp
    rcases resolveUnknown_ok hfirst with ⟨rfl, -⟩ | ⟨d, hd, -, hstore, hasked⟩
    · exact resolveRows_asks rows hrest p hp
    · rcases resolveRows_asks rows hrest p hp with hold | ⟨endpoint, d', now, hp, hd', hsince⟩
      · rw [hasked] at hold
        rcases List.mem_cons.1 hold with rfl | hold
        · exact .inr ⟨row.endpoint, d, bench.now, rfl, hd, fun _ _ => .inr⟩
        · exact .inl hold
      · refine .inr ⟨endpoint, d', now, hp, hd', ?_⟩
        intro row' m hm
        cases hd.symm.trans hd'
        rcases hsince row' m hm with hm | hm
        · exact .inl hm
        · rw [hstore] at hm
          rcases remembers_commit row.endpoint d bench.now desk.store row' with hsame | ⟨-, hfilter⟩
          · exact .inr (hsame ▸ hm)
          · rw [hfilter] at hm
            exact .inl (Option.some.inj (Option.filter_eq_some_iff.1 hm).1).symm

/-- No request takes a remembered connection away from the mouse it is remembered for. -/
def KeepsRemembered (asked : List (StateFile × Txn)) (rows : List ResolvedConnection) : Prop :=
  ∀ state endpoint d now, (state, Txn.rememberResolution endpoint d now) ∈ asked →
    ∀ row ∈ unknownRows rows, row.endpoint = endpoint → ∀ m, remembers state row = some m → d = m

/-- Every unknown connection that is remembered is remembered for the first saved mouse. -/
def FirstIsRemembered (state : StateFile) (rows : List ResolvedConnection) : Prop :=
  ∀ row ∈ unknownRows rows, ∀ m, remembers state row = some m → state.devices.keys.head? = some m

/-- Where no remembered connection is taken away, each remembered row was remembered for the first candidate. -/
theorem first_of_keepsRemembered {all : List ResolvedConnection} (hne : candidates ≠ []) :
    ∀ (rows : List ResolvedConnection) {desk desk' : Desk} {out : ScanResolution}, 2 ≤ count ∨ rows.length ≤ 1 →
      (∀ row ∈ rows, row ∈ unknownRows all) →
      bench.call (resolveRows candidates stored count rows) desk = some (.ok out, desk') →
      KeepsRemembered desk'.asked all →
      ∀ row ∈ rows, ∀ m, remembers desk.store row = some m → (candidates.map (·.identity)).head? = some m
  | [], _, _, _, _, _, _, _ => fun _ hrow => absurd hrow List.not_mem_nil
  | row :: rows, desk, desk', out, hmany, hmem, h, hkept => by
    obtain ⟨first, desk₁, rest, hfirst, hrest⟩ := resolveRows_cons h
    have ih := first_of_keepsRemembered hne rows (hmany.imp_right fun hlen => by simp at hlen; simp [hlen])
      (fun r hr => hmem r (List.mem_cons_of_mem _ hr)) hrest hkept
    rcases resolveUnknown_ok hfirst with ⟨rfl, hunknown⟩ | ⟨d, hd, hknown, hstore, hasked⟩
    · intro r hr m hm
      rcases List.mem_cons.1 hr with rfl | hr
      · rcases hunknown with hnil | hnone
        · exact absurd hnil hne
        · rw [hnone] at hm
          cases hm
      · exact ih r hr m hm
    · have hown : ∀ m, remembers desk.store row = some m → d = m := by
        intro m hm
        refine hkept desk.store row.endpoint d bench.now ?_ row (hmem row (List.mem_cons_self ..)) rfl m hm
        exact resolveRows_mono rows hrest _ (hasked ▸ List.mem_cons_self ..)
      intro r hr m hm
      rcases List.mem_cons.1 hr with rfl | hr
      · rw [hd, hown m hm]
      · rcases remembers_commit row.endpoint d bench.now desk.store r with hsame | ⟨hfingerprint, -⟩
        · exact ih r hr m (by rw [hstore, hsame, hm])
        · rcases hknown with hsome | hfew
          · obtain ⟨m', hm'⟩ := Option.isSome_iff_exists.1 hsome
            have hdevice : rememberedDeviceIn desk.store row.endpoint = rememberedDeviceIn desk.store r.endpoint := by
              simp only [rememberedDeviceIn, hfingerprint]
            have hmm : m' = m := by
              have h₁ := (Option.filter_eq_some_iff.1 hm').1
              have h₂ := (Option.filter_eq_some_iff.1 hm).1
              rw [hdevice, h₂] at h₁
              exact (Option.some.inj h₁).symm
            rw [hd, hown m' hm', hmm]
          · rcases hmany with hmany | hlen
            · omega
            · simp at hlen
              simp [hlen] at hr

/-- **The worker takes a remembered connection away from its mouse exactly when one is remembered for another than the
first saved mouse.** -/
theorem scan_keeps_remembered_iff {cache : IdentityCache} {rows : List ResolvedConnection}
    (h : bench.call (resolveScan rows) ⟨state, cache, []⟩ = some (.ok out, desk')) :
    KeepsRemembered desk'.asked rows ↔ FirstIsRemembered state rows := by
  rw [resolveScan, Bench.call_bind_ok call_savedCandidates] at h
  constructor
  · intro hkept row hrow m hm
    have hne : resolutionCandidates state ≠ [] := by
      intro hnil
      obtain ⟨device, hdevice⟩ := rememberedDeviceIn_saved (Option.filter_eq_some_iff.1 hm).1
      have hmem := Std.ExtTreeMap.mem_toList_iff_getElem?_eq_some.2 hdevice
      rw [List.map_eq_nil_iff.1 hnil] at hmem
      exact List.not_mem_nil hmem
    rw [← resolutionCandidates_identity]
    refine first_of_keepsRemembered hne (unknownRows rows) ?_ (fun _ => id) h hkept row hrow m hm
    unfold simultaneousUnknowns
    omega
  · intro hfirst state' endpoint d now hasked row hrow hendpoint m hm
    rcases resolveRows_asks _ h _ hasked with hold | ⟨_, d', _, heq, hd, hsince⟩
    · exact absurd hold List.not_mem_nil
    · cases heq
      rw [resolutionCandidates_identity] at hd
      rcases hsince row m hm with rfl | hm
      · rfl
      · exact Option.some.inj (hd.symm.trans (hfirst row hrow m hm))

end Rows

end AttackSharkX3

namespace AttackSharkX3.Rig

/-- Two saved mice; the wired mice without a serial number are remembered for one of them. -/
def remembering (d : DeviceId) : StateFile :=
  { saved [(mouse1, token 1, wired "x"), (mouse2, token 2, wired "y")] with
    endpointMapping := ⟨(∅ : BTreeMap String DeviceId).insert (endpointFingerprint (wired "a")) d, ∅⟩ }

def blank (path : String) : ResolvedConnection := ⟨wired path, true, .unassociated .absent none⟩

/-- Two mice remembered for the first saved mouse stay with it. -/
theorem keeps_remembered_first : ∃ out desk',
    (bench []).call (resolveScan [blank "a", blank "b"]) (deskOf (remembering mouse1)) = some (.ok out, desk') ∧
      KeepsRemembered desk'.asked [blank "a", blank "b"] := by
  obtain ⟨out, desk', hcall, -⟩ := benched [] (resolveScan [blank "a", blank "b"]) (deskOf (remembering mouse1))
    (fun _ _ => true) (by decide +kernel)
  refine ⟨out, desk', hcall, (scan_keeps_remembered_iff hcall).2 ?_⟩
  intro row hrow m hm
  have hboth : (unknownRows [blank "a", blank "b"]).all (fun row => remembers (remembering mouse1) row = some mouse1) ∧
      (remembering mouse1).devices.keys.head? = some mouse1 := by decide +kernel
  rw [of_decide_eq_true (List.all_eq_true.1 hboth.1 row hrow)] at hm
  cases hm
  exact hboth.2

/-- **Two mice remembered for the second saved mouse are attached to the first**, after the scan that found them. -/
theorem takes_remembered_second : (remembering mouse2).validate = .ok () ∧ ∃ view desk₁ out desk',
    (bench [plug "a" none, plug "b" none]).call (discover .auto) (deskOf (remembering mouse2)) =
      some (.ok view, desk₁) ∧
    (bench [plug "a" none, plug "b" none]).call (resolveScan view.connections) (deskOf desk₁.store) =
      some (.ok out, desk') ∧ ¬ KeepsRemembered desk'.asked view.connections := by
  refine ⟨by decide +kernel, ?_⟩
  obtain ⟨view, desk₁, hscan, htest⟩ := benched [plug "a" none, plug "b" none] (discover .auto)
    (deskOf (remembering mouse2)) (fun view desk₁ => view.connections = [blank "a", blank "b"] ∧
      desk₁.store = remembering mouse2) (by decide +kernel)
  obtain ⟨hrows, hstore⟩ := of_decide_eq_true htest
  obtain ⟨out, desk', hcall, htest⟩ := benched [plug "a" none, plug "b" none] (resolveScan [blank "a", blank "b"])
    (deskOf (remembering mouse2)) (fun _ desk' =>
      desk'.asked.getLast? = some (remembering mouse2, .rememberResolution (wired "a") mouse1 ⟨0⟩) ∧
      remembers (remembering mouse2) (blank "a") = some mouse2) (by decide +kernel)
  obtain ⟨hasked, hremembered⟩ := of_decide_eq_true htest
  refine ⟨view, desk₁, out, desk', hscan, by rw [hrows, hstore, hcall], ?_⟩
  intro hkept
  rw [hrows] at hkept
  have hsame := hkept (remembering mouse2) (wired "a") mouse1 ⟨0⟩ (List.mem_of_getLast? hasked) (blank "a")
    (mem_unknownRows.2 ⟨List.mem_cons_self .., rfl, rfl⟩) rfl mouse2 hremembered
  exact absurd hsame (by decide)

end AttackSharkX3.Rig
