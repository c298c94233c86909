import AttackSharkX3.Applied
import AttackSharkX3.Late
import AttackSharkX3.Valid
/-!
# Wireless — a draft over BLE, from what was loaded to what is written

A mouse over BLE is never read back.  The worker shows what is stored of it, or the stock image; the manager merges the
draft onto what it finds in the store itself.
-/
namespace AttackSharkX3

open Effects (Fallible Leads ends_bind ends_stop ends_pure ends_perform ends_ensure ends_attempt)
open Effects.Prog (Event History Ends Kept)

/-! ## What is loaded -/

/-- **A mouse loaded over BLE shows what the state has of it.** -/
structure LoadedDevice.LoadedFrom (current : LoadedDevice) (state : StateFile) (requested : Option ProfileId) : Prop where
  opens : ∃ endpoint : DeviceEndpoint, state.opens current.device = some (current.identity, endpoint) ∧
    endpoint.transport = .ble
  working : current.metadata.current = requested.getD .MIN_ID
  shown : ∃ stock, (DpiState.capturedStockReset current.metadata.current).toOption = some stock ∧ current.profile =
    storedProfileData (state.devices[current.device]?.bind fun saved : DeviceState =>
      saved.profiles[current.metadata.current]?) current.metadata.current stock

theorem transport_of_isBleIdentity {identity : DeviceIdentity} {endpoint : DeviceEndpoint}
    (hselected : identity.selectedEndpoint = some endpoint) (hble : isBleIdentity identity = true) :
    endpoint.transport = .ble := by
  have hsome : identity.selectedTransport = some .ble := of_decide_eq_true hble
  unfold DeviceIdentity.selectedTransport at hsome
  rw [hselected] at hsome
  exact Option.some.inj hsome

section Loading

variable [Crc32fast] {state : StateFile} {device : DeviceId} {requested : Option ProfileId}

omit [Crc32fast] in
theorem stays_load : Leads (S := Backend) Op.does (fun s _ => s = state) Manager.load
    (fun loaded s _ => loaded = state ∧ s = state) fun _ _ _ => True :=
  (leads_load (P := fun _ => True) fun _ _ _ _ => id).mono (fun _ _ hs => ⟨hs, trivial⟩) (fun _ _ _ hh => ⟨hh.1, hh.2.1⟩)
    fun _ _ _ _ => trivial

theorem stays_openLocked {operation : String} : Leads (S := Backend) Op.does (fun s _ => s = state) (openLocked device operation)
    (fun opened s _ => state.opens device = some (opened.1, opened.2.endpoint) ∧ s = state) fun _ _ _ => True :=
  (leads_openLocked (P := fun _ => True) fun _ _ _ _ => id).mono (fun _ _ hs => ⟨hs, trivial⟩)
    (fun _ _ _ hh => ⟨hh.1, hh.2.1⟩) fun _ _ _ _ => trivial

omit [Crc32fast] in
theorem stays_looking {α : Type} {x : Manager α} (hx : Looks x) : Leads (S := Backend) Op.does (fun s _ => s = state) x
    (fun _ s _ => s = state) fun _ _ _ => True :=
  (leads_looks (P := fun _ => True) (fun _ _ _ _ => id) hx).mono (fun _ _ hs => ⟨hs, trivial⟩) (fun _ _ _ hh => hh.1)
    fun _ _ _ _ => trivial

omit [Crc32fast] in
/-- A call that may do anything. -/
theorem leads_anyhow {α : Type} {x : Manager α} {pre : StateFile → History Backend → Prop} :
    Leads (S := Backend) Op.does pre x (fun _ _ _ => True) fun _ _ _ => True := by
  intro s h r s' h' _ _
  cases r with
  | ok a => trivial
  | error e => trivial

omit [Crc32fast] in
theorem stays_expect {α : Type} {site : String} {x : Option α} : Leads (S := Backend) Op.does (fun s _ => s = state)
    (Manager.expect site x) (fun a s _ => x = some a ∧ s = state) fun _ _ _ => True := by
  cases x with
  | some a => exact .pure fun s h hs => ⟨rfl, hs⟩
  | none => exact .perform fun s h r => r.elim

/-- The status of a mouse over BLE records nothing. -/
theorem leads_readStatus (hble : ∀ identity endpoint, state.opens device = some (identity, endpoint) →
    endpoint.transport = .ble) : Leads (S := Backend) Op.does (fun s _ => s = state) (readStatus device)
      (fun status s _ => (∃ endpoint : DeviceEndpoint, state.opens device = some (status.identity, endpoint) ∧
        endpoint.transport = .ble) ∧ s = state) fun _ _ _ => True := by
  refine .bind stays_openLocked fun opened => .of_pure fun hopens => ?_
  obtain ⟨identity, session⟩ := opened
  have htransport : session.transport = .ble := hble _ _ hopens
  have hbattery : Looks (readBatteryIfAny session) := by
    refine .bind (.attempt (looks_call rfl)) fun level => ?_
    split
    · exact .pure
    · exact .pure
    · exact .throw
  have hmetadata : Looks (readStatusMetadata device session) := by
    unfold readStatusMetadata
    rw [htransport]
    refine .bind (.attempt (looks_call rfl)) fun metadata => ?_
    split
    · exact .pure
    · exact .pure
    · exact .throw
  dsimp only
  rw [htransport]
  refine .bind (stays_looking hbattery) fun battery => .bind (stays_looking hmetadata) fun metadata => ?_
  have hdone : ∀ status : DeviceStatus, status.identity = identity →
      Leads (S := Backend) Op.does (fun s _ => s = state) (pure status : Manager DeviceStatus)
        (fun status s _ => (∃ endpoint : DeviceEndpoint, state.opens device = some (status.identity, endpoint) ∧
          endpoint.transport = .ble) ∧ s = state) fun _ _ _ => True := by
    rintro status rfl
    exact .pure fun s h hs => ⟨⟨_, hopens, htransport⟩, hs⟩
  split
  · next husb => cases husb
  · exact hdone _ rfl

/-- What the state opens over BLE. -/
def StateFile.OpensBle (state : StateFile) (device : DeviceId) : Prop :=
  ∀ identity endpoint, state.opens device = some (identity, endpoint) → endpoint.transport = .ble

omit [Crc32fast] in
theorem leads_readBleLoaded (hvalid : state.validate = .ok ()) {status : DeviceStatus}
    (hopens : ∃ endpoint : DeviceEndpoint, state.opens device = some (status.identity, endpoint) ∧ endpoint.transport = .ble) :
    Leads (S := Backend) Op.does (fun s _ => s = state) (readBleLoaded status requested)
      (fun current s _ => (current.LoadedFrom state requested ∧ current.device = device) ∧ s = state) fun _ _ _ => True := by
  obtain ⟨endpoint, hopens, htransport⟩ := hopens
  obtain ⟨⟨saved, hsaved, hidentity⟩, -⟩ := identity_of_opens hopens
  have hid : status.identity.id = device := by
    rw [← hidentity]
    exact StateFile.valid_identity hvalid hsaved
  refine .bind stays_load fun loaded => .of_pure ?_
  rintro rfl
  refine .bind stays_expect fun stock => .of_pure fun hstock => .bind stays_expect fun metadata => .of_pure fun hmetadata => ?_
  have hcurrent : metadata.current = requested.getD .MIN_ID := by
    unfold ProfileMetadata.new at hmetadata
    split at hmetadata
    · cases hmetadata
      rfl
    · cases hmetadata
  refine .bind (stays_looking (.attempt (.bind looks_load fun _ => .bind .ofOption fun _ => .pure))) fun names => ?_
  refine .pure fun s h hs => ⟨⟨⟨⟨endpoint, ?_, htransport⟩, ?_, stock, ?_, ?_⟩, hid⟩, hs⟩
  · rw [hid]
    exact hopens
  · exact hcurrent
  · rw [hcurrent]
    exact hstock
  · rw [hcurrent]

/-- **A mouse that was loaded over BLE** shows what the state has of it, and the state is as it was. -/
theorem leads_readLoaded (hvalid : state.validate = .ok ()) : Leads (S := Backend) Op.does (fun s _ => s = state)
    (readLoaded device requested) (fun current s _ => isBleIdentity current.identity = true →
      (current.LoadedFrom state requested ∧ current.device = device) ∧ s = state) fun _ _ _ => True := by
  have hidentity : Leads (S := Backend) Op.does (fun s _ => s = state) (deviceIdentityOf device)
      (fun identity s _ => (∃ saved, state.devices[device]? = some saved ∧ saved.identity = identity) ∧ s = state)
      fun _ _ _ => True := by
    refine .bind stays_load fun loaded => .of_pure ?_
    rintro rfl
    refine .bind (Q := fun saved s _ => loaded.devices[device]? = some saved ∧ s = loaded)
      (.ofOption (fun saved hsaved s h hs => ⟨hsaved, hs⟩) fun _ _ _ _ => trivial) fun saved => .of_pure fun hsaved => ?_
    exact .pure fun s h hs => ⟨⟨saved, hsaved, rfl⟩, hs⟩
  refine .bind hidentity fun identity => .of_pure ?_
  rintro ⟨saved, hsaved, rfl⟩
  have hsame : ∀ identity endpoint, state.opens device = some (identity, endpoint) →
      identity = saved.identity ∧ saved.identity.selectedEndpoint = some endpoint := by
    intro identity endpoint hopens
    obtain ⟨⟨saved', hsaved', hidentity⟩, hselected⟩ := identity_of_opens hopens
    rw [hsaved] at hsaved'
    cases hsaved'
    rw [hidentity]
    exact ⟨rfl, hselected⟩
  split
  · next hble =>
    refine .bind (leads_readStatus fun identity endpoint hopens => ?_) fun status => .of_pure fun hopens => ?_
    · exact transport_of_isBleIdentity (hsame _ _ hopens).2 hble
    · exact (leads_readBleLoaded hvalid hopens).mono (fun _ _ => id) (fun _ _ _ hh _ => hh) fun _ _ _ => id
  · next husb =>
    have hlive : Leads (S := Backend) Op.does (fun s _ => s = state) (readLiveProfile device requested)
        (fun live _ _ => live.identity = saved.identity) fun _ _ _ => True := by
      refine .bind stays_openLocked fun opened => .of_pure fun hopens => ?_
      obtain ⟨hidentity, -⟩ := hsame _ _ hopens
      refine .bind leads_anyhow fun _ => ?_
      dsimp only
      split
      · exact .bind leads_anyhow fun _ => .bind leads_anyhow fun _ => .bind leads_anyhow fun _ => .bind leads_anyhow fun _ =>
          .bind leads_anyhow fun _ => .pure fun _ _ _ => hidentity
      · exact .bind leads_anyhow fun _ => .bind leads_anyhow fun _ => .bind leads_anyhow fun _ => .bind leads_anyhow fun _ =>
          .bind leads_anyhow fun _ => .pure fun _ _ _ => hidentity
    refine .bind (Q := fun live _ _ => live.identity = saved.identity ∧ True)
      (hlive.mono (fun _ _ => id) (fun _ _ _ hh => ⟨hh, trivial⟩) fun _ _ _ => id) fun live => .of_pure fun hidentity => ?_
    refine .bind leads_anyhow fun _ => .bind leads_anyhow fun _ => .pure fun _ _ _ hble => absurd ?_ husb
    rw [← hidentity]
    exact hble

omit [Crc32fast] in
/-- What was loaded names its profile. -/
theorem LoadedDevice.LoadedFrom.profiles {current : LoadedDevice} (hloaded : current.LoadedFrom state requested)
    (hvalid : state.validate = .ok ()) : current.profile.dpi.profile = current.metadata.current ∧
      current.profile.preferences.profile = current.metadata.current ∧
        current.profile.buttons.profile = current.metadata.current := by
  obtain ⟨stock, hstock, hprofile⟩ := hloaded.shown
  have hunder : ∀ {T : Type} (stored : ProfileState → ResourceState T) (profileOf : T → ProfileId) (otherwise : T),
      (∀ profile : ProfileState, profile.Under current.metadata.current →
        (stored profile).Under profileOf current.metadata.current) → profileOf otherwise = current.metadata.current →
      profileOf (((state.devices[current.device]?.bind fun saved : DeviceState => saved.profiles[current.metadata.current]?).bind
        fun profile => storedValue (stored profile)).getD otherwise) = current.metadata.current := by
    intro T stored profileOf otherwise hstored hotherwise
    obtain ⟨endpoint, hopens, -⟩ := hloaded.opens
    obtain ⟨⟨saved, hsaved, -⟩, -⟩ := identity_of_opens hopens
    rw [hsaved, Option.bind_some]
    cases hfound : saved.profiles[current.metadata.current]? with
    | none => exact hotherwise
    | some profile =>
      have hprofile := (validateDevice_ok.1 (StateFile.valid_device hvalid hsaved)).2.2.2.1 _ _ hfound
      obtain ⟨hdesired, hobserved, -⟩ := hstored profile hprofile
      rw [Option.bind_some, storedValue]
      cases hd : (stored profile).desired with
      | some desired => exact hdesired desired hd
      | none =>
        cases ho : (stored profile).observed with
        | some observed => exact hobserved observed ho
        | none => exact hotherwise
  rw [hprofile]
  refine ⟨hunder (·.dpi) (·.profile) _ (fun profile hp => hp.dpi) ?_,
    hunder (·.preferences) (·.profile) _ (fun profile hp => hp.preferences) rfl,
    hunder (·.buttons) (·.profile) _ (fun profile hp => hp.buttons) rfl⟩
  have hnamed : ∀ {p : ProfileId} {stock : DpiState}, (DpiState.capturedStockReset p).toOption = some stock →
      stock.profile = p := by
    intro p stock hstock
    cases hstock
    rfl
  exact hnamed hstock

end Loading

/-! ## What is written -/

section Written

variable [Crc32fast] {state state' : StateFile} {current : LoadedDevice} {draft : Draft} {requested : Option ProfileId}
  {update : ProfileUpdate} {rate : Option PollingRate}

omit [Crc32fast] in
/-- What a run alone finds of a section. -/
theorem onto_of_based {T : Type} {sect : Section T} {captured : ProfileId → Except ManagerError T} {given baseline : T}
    {before : History Backend} (hloads : ∀ loaded ∈ loads before, loaded = state)
    (h : Based sect captured current.device current.metadata.current (draft.policy true) .ble given baseline before) :
    draft.onto state current sect captured = some baseline := by
  obtain ⟨loaded, hloaded, hbaseline⟩ := h
  rw [hloads loaded hloaded] at hbaseline
  exact hbaseline

/-- **A draft over what was recorded alike is written as it is shown.** -/
theorem shown_ble (hloaded : current.LoadedFrom state requested) (hble : isBleIdentity current.identity = true)
    (hagrees : RecordAgrees state current draft) {result : Except ManagerError (Except String (String × ProfileId))}
    {h : History Backend} (hgoes : Goes (applyDraft current draft) state result state' h) :
    WritesShown current draft (fun token => current.identity.physicalId = some token) (fun _ => True) h := by
  rcases kept_applyDraft hgoes with rfl | ⟨update, rate, hmakes, hkept⟩
  · exact ⟨fun _ _ _ _ => nofun, fun _ _ _ _ => nofun, fun _ _ _ _ => nofun⟩
  have halone : ∀ before, before <:+ h → commitsOf before = [] → ∀ loaded ∈ loads before, loaded = state :=
    loads_alone hgoes (fun _ => rfl) fun before hbefore _ loaded hmem => by
      rw [List.suffix_nil.1 hbefore] at hmem
      cases hmem
  obtain ⟨endpoint₀, hopens₀, htransport₀⟩ := hloaded.opens
  have hsame : ∀ {before identity endpoint}, before <:+ h → OpenAt current.device identity endpoint before →
      (∀ loaded ∈ loads before, loaded = state) ∧ identity = current.identity ∧ endpoint.transport = .ble := by
    rintro before identity endpoint hbefore ⟨hnone, loaded, hmem, hopens⟩
    have hloads := halone before hbefore hnone
    rw [hloads loaded hmem, hopens₀] at hopens
    cases hopens
    exact ⟨hloads, rfl, htransport₀⟩
  rw [hble] at hkept
  have hpassesDpi : ∀ {before}, (∀ loaded ∈ loads before, loaded = state) →
      PassedDpi current.device current.metadata.current update (draft.policy true) current.baseline current.identity .ble
        before → draft.PassesDpi state current := by
    intro before hloads hpassed hedits
    obtain ⟨delta, hdelta⟩ := dpi_of_edits hmakes hedits
    obtain ⟨baseline, desired, hbased, hmerge⟩ := hpassed delta hdelta
    exact ⟨baseline, onto_of_based hloads hbased, (stampedDpi_iff hmakes hdelta).1 ⟨desired, hmerge⟩⟩
  have hpassesPreferences : ∀ {before}, (∀ loaded ∈ loads before, loaded = state) →
      PassedPreferences current.device current.metadata.current update (draft.policy true) current.baseline .ble before →
        draft.PassesPreferences state current := by
    intro before hloads hpassed hedits
    obtain ⟨delta, hdelta⟩ := preferences_of_edits hmakes hedits
    obtain ⟨baseline, desired, hbased, -⟩ := hpassed delta hdelta
    exact ⟨baseline, onto_of_based hloads hbased⟩
  refine ⟨fun endpoint image verification r hmem _ => ?_, fun endpoint image verification r hmem _ => ?_,
    fun endpoint image verification r hmem _ => ?_⟩
  · obtain ⟨before, hbefore, identity, hopen, delta, hdelta, baseline, hbased, hstamped⟩ := allowed_of_mem hkept hmem
    obtain ⟨hof, hedits⟩ := ofDraft_of_makes hmakes hdelta
    obtain ⟨hloads, rfl, htransport⟩ := hsame hbefore hopen
    rw [htransport] at hbased
    refine ⟨hedits, (showsDpi_iff hof hstamped fun _ => Iff.rfl).2 ?_⟩
    exact hagrees.dpi hedits baseline (onto_of_based hloads hbased) ((stampedDpi_iff hmakes hdelta).1 ⟨image, hstamped⟩)
  · obtain ⟨before, hbefore, identity, hopen, hpassed, delta, hdelta, baseline, hbased, hmerged⟩ :=
      allowed_of_mem hkept hmem
    obtain ⟨hmade, hedits⟩ := edits_preferences hmakes hdelta
    obtain ⟨hloads, rfl, htransport⟩ := hsame hbefore hopen
    rw [htransport] at hpassed hbased
    refine ⟨hedits, hmerged.symm.trans ((showsPreferences_iff hmade).2 ?_)⟩
    exact hagrees.preferences (hpassesDpi hloads hpassed) hedits baseline (onto_of_based hloads hbased)
  · obtain ⟨before, hbefore, identity, hopen, hpassed, hpassed', hdeltas, baseline, hbased, hmerged⟩ :=
      allowed_of_mem hkept hmem
    have hedits := edits_buttons hmakes hdeltas
    obtain ⟨hloads, rfl, htransport⟩ := hsame hbefore hopen
    rw [htransport] at hpassed hpassed' hbased
    refine ⟨hedits, ?_⟩
    rw [← hmerged]
    refine (showsButtons_iff (updates_ok hmakes.updates).2.2.1).2 ?_
    exact hagrees.buttons (hpassesDpi hloads hpassed) (hpassesPreferences hloads hpassed') hedits baseline
      (onto_of_based hloads hbased)

end Written

/-! ## A way to write it -/

section Ways

variable {T : Type} {state : StateFile} {sect : Section T} {name : String} {captured : ProfileId → Except ManagerError T}
  {device : DeviceId} {profile : ProfileId} {policy : UpdatePolicy} {transport : TransportKind} {allow : Bool}
  {baseline desired : T} {h h' : History Backend}

theorem way_loaded (hbaseline : state.baseline sect captured device profile allow = some baseline) :
    Way (loadStoredBaseline sect name captured device profile allow) state h (.ok baseline) (loadedEvent state :: h) := by
  refine ends_bind (ends_perform (.ok state : Except StateError StateFile) rfl ⟨rfl, .inl rfl⟩) ?_
  unfold StateFile.baseline at hbaseline
  cases hstored : storedBaseline (state.resource sect device profile) allow with
  | some value =>
    rw [hstored] at hbaseline
    cases hbaseline
    exact ends_pure
  | none =>
    rw [hstored] at hbaseline
    cases allow with
    | false => cases hbaseline
    | true =>
      cases hcaptured : captured profile with
      | error e =>
        rw [hcaptured] at hbaseline
        cases hbaseline
      | ok value =>
        rw [hcaptured] at hbaseline
        cases hbaseline
        exact ends_pure

variable {provided : Option ProfileUpdateBaseline} {get : ProfileUpdateBaseline → T} {read : Manager T}

/-- A part that is sent, and one that fails at that. -/
theorem way_merged (merge : T → Except ManagerError T) (send : T → Manager (SessionWrite T)) (hfrom : policy.fromStore transport = some allow)
    (hbaseline : state.baseline sect captured device profile allow = some baseline) (hmerge : merge baseline = .ok desired)
    {r : Except ManagerError (SessionWrite T)} (hsend : Way (send desired) state (loadedEvent state :: h) r h') :
    Way (do
        let baseline ← resolveBaseline transport policy (loadStoredBaseline sect name captured device profile)
          (liveBaseline provided get read)
        let desired ← Fallible.ofExcept id (merge baseline)
        let write ← send desired
        return (desired, write)) state h (r.map fun write => (desired, write)) h' := by
  rw [resolveBaseline_fromStore hfrom]
  refine ends_bind (way_loaded hbaseline) ?_
  rw [hmerge]
  refine ends_bind ends_pure ?_
  cases r with
  | ok write => exact ends_bind hsend ends_pure
  | error e => exact ends_stop hsend

end Ways

section Reached

variable {state : StateFile} {h : History Backend}

/-- A part that may be left out passes. -/
theorem way_passes {D A : Type} {part : Option D} {apply : D → Manager A}
    (happly : ∀ d ∈ part, ∃ a h', Way (apply d) state h (.ok a) h') :
    ∃ a h', Way (optionally part apply) state h (.ok a) h' := by
  cases part with
  | none => exact ⟨none, h, ends_pure⟩
  | some d =>
    obtain ⟨a, h', hends⟩ := happly d rfl
    exact ⟨some a, h', ends_bind hends ends_pure⟩

/-- A part that fails ends the parts. -/
theorem way_fails {D A : Type} {part : Option D} {apply : D → Manager A} {d : D} {e : ManagerError} {h' : History Backend}
    (hpart : part = some d) (happly : Way (apply d) state h (.error e) h') :
    Way (optionally part apply) state h (.error e) h' := by
  rw [hpart]
  exact ends_stop happly

variable [Crc32fast] {current : LoadedDevice} {draft : Draft} {update : ProfileUpdate} {rate : Option PollingRate}
  {endpoint : DeviceEndpoint} {requested : Option ProfileId}

omit [Crc32fast] in
theorem fromStore_ble (hble : endpoint.transport = .ble) :
    (draft.policy true).fromStore (Session.transport ⟨endpoint⟩) = some draft.allowExplicitDefaults := by
  unfold Session.transport
  rw [hble]
  rfl

omit [Crc32fast] in
theorem way_call (session : Session) (call : SessionCall) (r : Except ManagerError call.Value) :
    Way (session.call call) state h r (Did.session session.endpoint call r :: h) := by
  let read : Except ManagerError call.Value → Except ManagerError call.Value := fun r => r
  have hends : Way (Fallible.perform (S := Backend) (Op.session session.endpoint call) read) state h (read r)
      (⟨Op.session session.endpoint call, r⟩ :: h) := .call rfl .pure
  exact hends

/-- **A section of the draft is merged onto what is stored of it, and sent**; the mouse answers what it likes. -/
theorem way_dpiPart (hble : endpoint.transport = .ble) {delta : DpiDelta} {baseline image : DpiState}
    (honto : draft.onto state current .dpi capturedEvidenceDpi = some baseline)
    (hstamped : stampedDpi delta current.identity.physicalId baseline = .ok image)
    (r : Except ManagerError (SessionWrite DpiState)) :
    Way (applyDpiPart current.device current.metadata.current delta current.identity.physicalId (draft.policy true)
      (some current.baseline) ⟨endpoint⟩) state h (r.map fun write => (image, write))
        (Did.session endpoint (.writeDpi image (draft.policy true).verification) r :: loadedEvent state :: h) := by
  rw [applyDpiPart_eq]
  refine way_merged _ (fun desired => Session.writeDpi ⟨endpoint⟩ desired (draft.policy true).verification)
    (fromStore_ble hble) honto hstamped ?_
  exact way_call ⟨endpoint⟩ (.writeDpi _ _) r

omit [Crc32fast] in
theorem way_preferencesPart (hble : endpoint.transport = .ble) {delta : PreferencesDelta} {baseline : PreferencesState}
    (honto : draft.onto state current .preferences (fun profile => .ok (capturedEvidencePreferences profile)) = some baseline)
    (r : Except ManagerError (SessionWrite PreferencesState)) :
    Way (applyPreferencesPart current.device current.metadata.current delta (draft.policy true) (some current.baseline)
      ⟨endpoint⟩) state h (r.map fun write => (mergePreferencesDelta baseline delta, write))
        (Did.session endpoint (.writePreferences (mergePreferencesDelta baseline delta) (draft.policy true).verification) r ::
          loadedEvent state :: h) := by
  rw [applyPreferencesPart_eq]
  refine way_merged (fun baseline => .ok (mergePreferencesDelta baseline delta)) (fun desired => Session.writePreferences ⟨endpoint⟩ desired (draft.policy true).verification)
    (fromStore_ble hble) honto rfl ?_
  exact way_call ⟨endpoint⟩ (.writePreferences _ _) r

omit [Crc32fast] in
theorem way_buttonsPart (hble : endpoint.transport = .ble) {deltas : List ButtonSlotDelta} {baseline : ButtonsState}
    (honto : draft.onto state current .buttons (fun profile => .ok (.defaultForProfile profile)) = some baseline)
    (r : Except ManagerError (SessionWrite ButtonsState)) :
    Way (applyButtonsPart current.device current.metadata.current deltas (draft.policy true) (some current.baseline)
      ⟨endpoint⟩) state h (r.map fun write => (deltas.foldl ButtonsState.assign baseline, write))
        (Did.session endpoint (.writeButtons (deltas.foldl ButtonsState.assign baseline) (draft.policy true).verification) r ::
          loadedEvent state :: h) := by
  rw [applyButtonsPart_eq]
  refine way_merged (fun baseline => .ok (deltas.foldl ButtonsState.assign baseline)) (fun desired => Session.writeButtons ⟨endpoint⟩ desired (draft.policy true).verification)
    (fromStore_ble hble) honto rfl ?_
  exact way_call ⟨endpoint⟩ (.writeButtons _ _) r

theorem way_passesDpi (hmakes : draft.Makes current update rate) (hble : endpoint.transport = .ble)
    (hpasses : draft.PassesDpi state current) :
    ∃ a h', Way (optionally update.dpi (applyDpiPart current.device current.metadata.current ·
      current.identity.physicalId (draft.policy true) (some current.baseline) ⟨endpoint⟩)) state h (.ok a) h' := by
  refine way_passes fun delta hdelta => ?_
  obtain ⟨baseline, honto, hmerges⟩ := hpasses (ofDraft_of_makes hmakes hdelta).2
  obtain ⟨image, hstamped⟩ := (stampedDpi_iff hmakes hdelta).2 hmerges
  exact ⟨_, _, way_dpiPart hble honto hstamped (.ok .acknowledged)⟩

omit [Crc32fast] in
theorem way_passesPreferences (hmakes : draft.Makes current update rate) (hble : endpoint.transport = .ble)
    (hpasses : draft.PassesPreferences state current) :
    ∃ a h', Way (optionally update.preferences (applyPreferencesPart current.device current.metadata.current ·
      (draft.policy true) (some current.baseline) ⟨endpoint⟩)) state h (.ok a) h' := by
  refine way_passes fun delta hdelta => ?_
  obtain ⟨baseline, honto⟩ := hpasses (edits_preferences hmakes hdelta).2
  exact ⟨_, _, way_preferencesPart hble honto (.ok .acknowledged)⟩

/-- The parts of the draft's update, over BLE. -/
abbrev draftParts (current : LoadedDevice) (draft : Draft) (update : ProfileUpdate) (endpoint : DeviceEndpoint) :
    Manager ProfileUpdateOutcome :=
  applyParts current.device current.metadata.current update (draft.policy true) (some current.baseline)
    current.identity.physicalId ⟨endpoint⟩

/-- A mouse that does not answer. -/
def unanswered : ManagerError := .driver "no answer"

/-- **The update of a draft that is accepted** is applied, and its error is the worker's. -/
theorem way_applyDraft (hmakes : draft.Makes current update rate) (hble : isBleIdentity current.identity = true)
    (hopens : state.opens current.device = some (current.identity, endpoint))
    (hprofile : current.profile.dpi.profile = current.metadata.current ∧
      current.profile.preferences.profile = current.metadata.current ∧
      current.profile.buttons.profile = current.metadata.current)
    (hsome : update.hasNonRate = true) {Q : History Backend → Prop}
    (hparts : ∀ h, ∃ e h', Way (draftParts current draft update endpoint) state h (.error e) h' ∧ Q h') :
    ∃ result h', Way (applyDraft current draft) state [] result h' ∧ Q h' := by
  obtain ⟨-, hpreferencesDelta, -, hrate, -⟩ := updates_ok hmakes.updates
  have hnonempty : update.isEmpty = false := by
    unfold ProfileUpdate.hasNonRate at hsome
    unfold ProfileUpdate.isEmpty
    cases hdpi : update.dpi <;> cases hpreferences : update.preferences <;> cases hbuttons : update.buttons <;>
      simp_all
  have hnorate : ¬ (update.hasPolling = true ∧ update.hasNonRate = true) := by
    simp [ProfileUpdate.hasPolling, hrate]
  have hdpi : update.dpi.all (!·.isEmpty) = true := by
    cases hpart : update.dpi with
    | none => rfl
    | some delta =>
      obtain ⟨hof, -⟩ := ofDraft_of_makes hmakes hpart
      rcases hof.edits with hchanged | hsensor
      · obtain ⟨stages, stage, hstages, -⟩ := hof.changed hchanged
        simp [DpiDelta.isEmpty, hstages]
      · have hdelta : delta.sensor = some (draft.sensorDelta current.profile.dpi.sensor) := by
          rw [hof.sensor, if_neg (by simp [hsensor])]
        simp [DpiDelta.isEmpty, hdelta, hsensor]
  have hpreferences : update.preferences.all (!·.isEmpty) = true := by
    rw [← hpreferencesDelta]
    unfold Draft.preferencesDelta
    split
    · rfl
    · next hchanged => simpa using hchanged
  obtain ⟨h₁, hopened⟩ := way_openLocked [] "apply_profile_update" hopens
  obtain ⟨e, h₂, hends, hQ⟩ := hparts h₁
  have happly : Way (applyProfileUpdateFromSnapshot current.device current.metadata.current update (draft.policy true)
      current.baseline) state [] (.error e) h₂ := by
    refine ends_bind (ends_ensure hprofile) (ends_bind (ends_ensure hnonempty) (ends_bind (ends_ensure hnorate)
      (ends_bind (ends_ensure hdpi) (ends_bind (ends_ensure hpreferences) (ends_bind hopened ?_)))))
    rw [hrate]
    exact hends
  refine ⟨.ok (.error (formatErrorString "apply failed" e)), h₂, ?_, hQ⟩
  unfold applyDraft
  rw [hmakes.profile, hmakes.updates]
  dsimp only
  rw [if_neg (by simp), if_neg (by simp [hsome]), if_pos hsome, hble]
  exact ends_bind (ends_bind (ends_attempt happly) ends_pure) ends_pure

/-- **A draft over what was recorded otherwise** is written as it is not shown. -/
theorem agrees_of_shown (hvalid : state.validate = .ok ()) (hloaded : current.LoadedFrom state requested)
    (hble : isBleIdentity current.identity = true) (hmakes : draft.Makes current update rate)
    (hall : ∀ result state' h, Goes (applyDraft current draft) state result state' h →
      WritesShown current draft (fun token => current.identity.physicalId = some token) (fun _ => True) h) :
    RecordAgrees state current draft := by
  obtain ⟨endpoint, hopens, htransport⟩ := hloaded.opens
  have hprofile := hloaded.profiles hvalid
  have hway : update.hasNonRate = true → ∀ {Q : History Backend → Prop},
      (∀ h, ∃ e h', Way (draftParts current draft update endpoint) state h (.error e) h' ∧ Q h') →
        ∃ h', WritesShown current draft (fun token => current.identity.physicalId = some token) (fun _ => True) h' ∧ Q h' := by
    intro hsome Q hparts
    obtain ⟨result, h', hway, hQ⟩ := way_applyDraft hmakes hble hopens hprofile hsome hparts
    exact ⟨h', hall _ _ _ hway, hQ⟩
  refine ⟨fun hedits baseline honto hmerges => ?_, fun hpasses hedits baseline honto => ?_,
    fun hpasses hpasses' hedits baseline honto => ?_⟩
  · obtain ⟨delta, hdelta⟩ := dpi_of_edits hmakes hedits
    obtain ⟨image, hstamped⟩ := (stampedDpi_iff hmakes hdelta (p := current.identity.physicalId)).2 hmerges
    obtain ⟨h', hshown, hmem⟩ := hway (by simp [ProfileUpdate.hasNonRate, hdelta])
      (Q := fun h' => Did.session endpoint (.writeDpi image (draft.policy true).verification) (.error unanswered) ∈ h')
      fun h => ⟨unanswered, _, ends_stop (way_fails hdelta (way_dpiPart htransport honto hstamped (.error unanswered))),
        List.mem_cons_self⟩
    exact (showsDpi_iff (ofDraft_of_makes hmakes hdelta).1 hstamped fun _ => Iff.rfl).1
      (hshown.dpi _ _ _ _ hmem trivial).2
  · obtain ⟨delta, hdelta⟩ := preferences_of_edits hmakes hedits
    obtain ⟨h', hshown, hmem⟩ := hway (by simp [ProfileUpdate.hasNonRate, hdelta])
      (Q := fun h' => Did.session endpoint (.writePreferences (mergePreferencesDelta baseline delta)
        (draft.policy true).verification) (.error unanswered) ∈ h') fun h => by
        obtain ⟨a, h₁, hdpi⟩ := way_passesDpi (h := h) hmakes htransport hpasses
        exact ⟨unanswered, _, ends_bind hdpi (ends_stop (way_fails hdelta
          (way_preferencesPart htransport honto (.error unanswered)))), List.mem_cons_self⟩
    exact (showsPreferences_iff (edits_preferences hmakes hdelta).1).1 (hshown.preferences _ _ _ _ hmem trivial).2
  · have hdeltas := buttons_of_edits hmakes hedits
    obtain ⟨h', hshown, hmem⟩ := hway (by simp [ProfileUpdate.hasNonRate, hdeltas])
      (Q := fun h' => Did.session endpoint (.writeButtons (update.buttons.foldl ButtonsState.assign baseline)
        (draft.policy true).verification) (.error unanswered) ∈ h') fun h => by
        obtain ⟨a, h₁, hdpi⟩ := way_passesDpi (h := h) hmakes htransport hpasses
        obtain ⟨a', h₂, hpreferences⟩ := way_passesPreferences (h := h₁) hmakes htransport hpasses'
        refine ⟨unanswered, _, ends_bind hdpi (ends_bind hpreferences (ends_stop (way_fails (if_neg ?_)
          (way_buttonsPart htransport honto (.error unanswered))))), List.mem_cons_self⟩
        simpa using hdeltas
    exact (showsButtons_iff (updates_ok hmakes.updates).2.2.1).1 (hshown.buttons _ _ _ _ hmem trivial).2

end Reached

/-! ## A draft that was not touched -/

/-- Everything is shown as it was loaded. -/
structure Draft.Unedited (draft : Draft) (current : LoadedDevice) : Prop where
  dpiValues : draft.dpiValues = current.profile.dpi.stages.map (·.get)
  activeStage : draft.activeStage = current.profile.dpi.activeStage.get
  sensor : draft.sensor = current.profile.dpi.sensor
  preferences : shownPreferences current.profile.preferences draft = current.profile.preferences
  buttons : ∀ entry ∈ draft.slots, Draft.shownAction current.profile.buttons entry.1 = entry.2
  pollingRate : draft.pollingRateHz = current.pollingRate.hz

namespace Draft.Unedited

variable {draft : Draft} {current : LoadedDevice} {update : ProfileUpdate} {rate : Option PollingRate}

/-- It makes no update. -/
theorem makes_nothing (hunedited : draft.Unedited current) (hmakes : draft.Makes current update rate) :
    update.hasNonRate = false ∧ rate = none := by
  obtain ⟨-, -, hbuttons, -, requested, hrequested, hrate⟩ := updates_ok hmakes.updates
  have hdpi : update.dpi = none := by
    cases hpart : update.dpi with
    | none => rfl
    | some delta =>
      refine absurd ⟨?_, hunedited.activeStage.symm, hunedited.sensor.symm⟩ (ofDraft_of_makes hmakes hpart).2
      have hsteps : ∀ stages : List DpiValue, (stages.map (·.get)).map roundDpiStep = stages.map (·.get) := by
        intro stages
        rw [List.map_map]
        exact List.map_congr_left fun stage _ => roundDpiStep_get stage
      rw [Draft.requestedDpi, hunedited.dpiValues, hsteps]
  have hpreferences : update.preferences = none := by
    cases hpart : update.preferences with
    | none => rfl
    | some delta => exact absurd hunedited.preferences (edits_preferences hmakes hpart).2
  have hnobuttons : update.buttons = [] := by
    by_contra hsome
    obtain ⟨entry, hentry, hrenamed⟩ := edits_buttons hmakes hsome
    exact hrenamed (hunedited.buttons entry hentry)
  have hsame : requested = current.pollingRate := by
    unfold Draft.requestedRate at hrequested
    rw [hunedited.pollingRate] at hrequested
    cases hrate : current.pollingRate <;> (rw [hrate] at hrequested; cases hrequested; rfl)
  refine ⟨?_, ?_⟩
  · simp [ProfileUpdate.hasNonRate, hdpi, hpreferences, hnobuttons]
  · rw [hrate, if_neg (not_not.2 hsame)]

/-- **A draft that was not touched does nothing.** -/
theorem sends_nothing [Crc32fast] (hunedited : draft.Unedited current) :
    ∃ result, applyDraft current draft = pure result := by
  by_cases hmakes : ∃ update rate, draft.Makes current update rate
  · obtain ⟨update, rate, hmakes⟩ := hmakes
    obtain ⟨hnone, rfl⟩ := hunedited.makes_nothing hmakes
    unfold applyDraft
    rw [hmakes.profile, hmakes.updates]
    dsimp only
    rw [if_neg (by simp), if_pos (by simp [hnone])]
    exact ⟨_, rfl⟩
  · simp only [not_exists] at hmakes
    obtain ⟨e, heq⟩ := applyDraft_refused hmakes
    exact ⟨_, heq⟩

end Draft.Unedited

/-! ## What is on record -/

/-- The section is on record, and the draft may build on what is. -/
def Draft.Recorded {T : Type} (draft : Draft) (state : StateFile) (current : LoadedDevice) (sect : Section T) : Prop :=
  ∃ resource value, state.resource sect current.device current.metadata.current = some resource ∧
    storedValue resource = some value ∧
      ∀ desired ∈ resource.desired, draft.allowExplicitDefaults = true ∨ desired.source ≠ .explicitDefaults

section Recorded

variable [Crc32fast] {state : StateFile} {current : LoadedDevice} {draft : Draft} {requested : Option ProfileId}

omit [Crc32fast] in
/-- The manager then takes the value the worker shows. -/
theorem onto_of_recorded {T : Type} {sect : Section T} (captured : ProfileId → Except ManagerError T)
    (hrecorded : draft.Recorded state current sect) : ∃ value, draft.onto state current sect captured = some value ∧
      ((state.devices[current.device]?.bind fun saved : DeviceState => saved.profiles[current.metadata.current]?).bind
        fun profile => storedValue (sect.get profile)) = some value := by
  obtain ⟨resource, value, hresource, hvalue, hallowed⟩ := hrecorded
  refine ⟨value, ?_, ?_⟩
  · have hstored : storedBaseline (some resource) draft.allowExplicitDefaults = storedValue resource := by
      unfold storedBaseline storedValue
      cases hdesired : resource.desired with
      | none => simp [hdesired]
      | some desired =>
        have hkept : (draft.allowExplicitDefaults || decide (desired.source ≠ .explicitDefaults)) = true := by
          rcases hallowed desired hdesired with hallow | hsource
          · simp [hallow]
          · simp [hsource]
        simp only [Option.bind_some, hdesired, Option.filter_some, hkept, if_true, Option.map_some, Option.some_or]
    unfold Draft.onto StateFile.baseline
    rw [hresource, hstored, hvalue, Option.some_or]
  · unfold StateFile.resource at hresource
    obtain ⟨saved, hsaved, hprofile⟩ := Option.bind_eq_some_iff.1 hresource
    obtain ⟨profile, hfound, rfl⟩ := Option.map_eq_some_iff.1 hprofile
    rw [hsaved, Option.bind_some, hfound, Option.bind_some, hvalue]

omit [Crc32fast] in
/-- **Where each section the draft edits is on record**, it agrees with what was loaded. -/
theorem recordAgrees_of_recorded (hloaded : current.LoadedFrom state requested)
    (hdpi : draft.EditsDpi current.profile.dpi → draft.Recorded state current .dpi)
    (hpreferences : draft.EditsPreferences current.profile.preferences → draft.Recorded state current .preferences)
    (hbuttons : draft.EditsButtons current.profile.buttons → draft.Recorded state current .buttons) :
    RecordAgrees state current draft := by
  obtain ⟨stock, -, hprofile⟩ := hloaded.shown
  refine ⟨fun hedits baseline honto _ => ?_, fun _ hedits baseline honto => ?_, fun _ _ hedits baseline honto => ?_⟩
  · obtain ⟨value, hvalue, hshown⟩ := onto_of_recorded capturedEvidenceDpi (hdpi hedits)
    have hsame : current.profile.dpi = value := by
      rw [hprofile]
      exact congrArg (·.getD stock) hshown
    rw [hvalue] at honto
    cases honto
    rw [hsame]
    exact .refl
  · obtain ⟨value, hvalue, hshown⟩ := onto_of_recorded (fun profile => .ok (capturedEvidencePreferences profile))
      (hpreferences hedits)
    have hsame : current.profile.preferences = value := by
      rw [hprofile]
      exact congrArg (·.getD (.capturedStockReset current.metadata.current)) hshown
    rw [hvalue] at honto
    cases honto
    rw [hsame]
    exact .refl
  · obtain ⟨value, hvalue, hshown⟩ := onto_of_recorded (fun profile => .ok (.defaultForProfile profile)) (hbuttons hedits)
    have hsame : current.profile.buttons = value := by
      rw [hprofile]
      exact congrArg (·.getD (.defaultForProfile current.metadata.current)) hshown
    rw [hvalue] at honto
    cases honto
    rw [hsame]
    exact .refl

end Recorded

/-- **What a draft shows is what is written.**  Over USB always; over BLE exactly where what the manager finds stored agrees
with what the worker loaded, wherever the draft leaves it.  A draft that was not touched sends nothing. -/
theorem draft_written_iff [Crc32fast] :
    (∀ (current : LoadedDevice) (draft : Draft), isBleIdentity current.identity = false → draft.baseline = .live →
      ∀ {σ : Type} (step : (o : Op) → σ → o.Res → σ → Prop) (s s' : σ) result h,
        Ends (S := Backend) step (applyDraft current draft).run s [] result s' h →
          WritesShown current draft (fun token => ∃ state ∈ loads h, ∃ saved : DeviceState,
            state.devices[current.device]? = some saved ∧ saved.identity.physicalId = some token) (· ≠ .ble) h) ∧
    (∀ (stored state : StateFile) (device : DeviceId) (requested : Option ProfileId) (current : LoadedDevice) h₀,
      stored.validate = .ok () → Goes (readLoaded device requested) stored (.ok current) state h₀ →
        isBleIdentity current.identity = true → ∀ draft : Draft, (∃ update rate, draft.Makes current update rate) →
          ((∀ result state' h, Goes (applyDraft current draft) state result state' h →
            WritesShown current draft (fun token => current.identity.physicalId = some token) (fun _ => True) h) ↔
              RecordAgrees state current draft)) ∧
    ∀ (current : LoadedDevice) (draft : Draft), draft.Unedited current →
      ∀ {σ : Type} (step : (o : Op) → σ → o.Res → σ → Prop) (s s' : σ) result h,
        Ends (S := Backend) step (applyDraft current draft).run s [] result s' h → h = [] := by
  refine ⟨fun current draft husb hlive σ step s s' result h hends => shown_usb husb hlive hends, ?_, ?_⟩
  · intro stored state device requested current h₀ hvalid hloaded hble draft hmakes
    obtain ⟨update, rate, hmakes⟩ := hmakes
    obtain ⟨⟨hfrom, -⟩, rfl⟩ := leads_readLoaded hvalid stored [] (.ok current) state h₀ rfl hloaded hble
    constructor
    · intro hall
      exact agrees_of_shown hvalid hfrom hble hmakes hall
    · intro hagrees result state' h hgoes
      exact shown_ble hfrom hble hagrees hgoes
  · intro current draft hunedited σ step s s' result h hends
    obtain ⟨result', heq⟩ := hunedited.sends_nothing
    rw [heq] at hends
    cases hends
    rfl

end AttackSharkX3

namespace AttackSharkX3.Rig

open Effects.Prog (History)

/-- A mouse over BLE of which nothing is on record. -/
def stockBle : StateFile := holding (ble "a") .empty []

/-- The stock image as it is shown. -/
def stockDraft : Draft where
  profile := 1
  dpiValues := CAPTURED_STOCK_RESET_STAGES.map (·.get)
  activeStage := 2
  buttons := SAFE_BUTTON_SLOTS.map (Draft.shownAction (.defaultForProfile first))
  liftOffChoice := 0
  rippleControl := false
  angleSnap := false
  motionSync := false
  rawConfiguration := 0x03
  rawDeepSleep := 0xa8
  rawSleepTimer := 0x01
  rawDebounce := 0x04
  pollingRateHz := 1000
  verification := .transport
  baseline := .live
  allowExplicitDefaults := true

/-- The stock image, with angle snapping. -/
def snapDraft : Draft := { stockDraft with angleSnap := true }

def bleBench : Bench := bench [(ble "a", unit fun _ => some (token 1))]

/-- A DPI image is handed over whose stages are not the draft's. -/
def handsOtherStages (draft : Draft) (h : History Backend) : Bool :=
  h.any fun ev => match ev with
    | ⟨.session _ (.writeDpi image _), _⟩ => image.stages.map (·.get) ≠ draft.requestedDpi
    | _ => false

/-- The mouse is loaded over BLE, the draft passes its checks, and applying it hands over other stages. -/
def rewritesStages (state : StateFile) (draft : Draft) : Except ManagerError LoadedDevice × StateFile × History Backend → Bool
  | (.ok current, _, _) => isBleIdentity current.identity && ProfileId.new draft.profile = some current.metadata.current &&
      (draft.updates current).isOk && (bleBench.goes (applyDraft current draft) state).any (handsOtherStages draft ·.2.2)
  | _ => false

/-- **One option is toggled, and the stages are rewritten**: nothing is on record, and the stages that are shown are not
those the manager takes in their place. -/
theorem snap_rewrites_stages : stockBle.validate = .ok () ∧ ∃ current h₀ update rate,
    Goes (readLoaded mouse1 none) stockBle (.ok current) stockBle h₀ ∧ isBleIdentity current.identity = true ∧
      snapDraft.Makes current update rate ∧ ¬ ∀ result state' h, Goes (applyDraft current snapDraft) stockBle result state' h →
        WritesShown current snapDraft (fun token => current.identity.physicalId = some token) (fun _ => True) h := by
  have hvalid : stockBle.validate = .ok () := by decide +kernel
  refine ⟨hvalid, ?_⟩
  have hrun : (bleBench.goes (readLoaded mouse1 none) stockBle).any (rewritesStages stockBle snapDraft) = true := by
    decide +kernel
  obtain ⟨⟨loaded, state, h₀⟩, hgoes, htest⟩ := (Option.any_eq_true ..).1 hrun
  have hends := Bench.goes_ends hgoes
  unfold rewritesStages at htest
  split at htest
  · next current state h₀ heq =>
    cases heq
    simp only [Bool.and_eq_true, decide_eq_true_eq] at htest
    obtain ⟨⟨⟨hble, hprofile⟩, hupdates⟩, hrewrites⟩ := htest
    obtain ⟨-, rfl⟩ := leads_readLoaded hvalid _ _ _ _ _ rfl hends hble
    cases hmade : snapDraft.updates current with
    | error e =>
      rw [hmade] at hupdates
      cases hupdates
    | ok made =>
      refine ⟨current, h₀, made.1, made.2, hends, hble, ⟨hprofile, hmade⟩, fun hall => ?_⟩
      obtain ⟨⟨result, state', h⟩, hgoes', hother⟩ := (Option.any_eq_true ..).1 hrewrites
      have hshown := hall result state' h (Bench.goes_ends hgoes')
      obtain ⟨ev, hmem, hev⟩ := List.any_eq_true.1 hother
      split at hev
      · next endpoint image verification r =>
        exact of_decide_eq_true hev (hshown.dpi endpoint image verification r hmem trivial).2.stages
      · cases hev
  · cases htest

/-- The same mouse with its three sections on record. -/
def recordedBle : StateFile := holding (ble "a") .empty [(first, { ProfileState.empty with
  dpi := acknowledged (image (some (token 1)) first)
  preferences := acknowledged (.capturedStockReset first)
  buttons := acknowledged (.defaultForProfile first) })]

/-- The recorded image, with angle snapping. -/
def recordedSnapDraft : Draft := { snapDraft with dpiValues := [800], activeStage := 1, allowExplicitDefaults := false }

/-- The mouse is loaded over BLE, and the draft passes its checks. -/
def loadsBle (draft : Draft) : Except ManagerError LoadedDevice × StateFile × History Backend → Bool
  | (.ok current, _, _) => isBleIdentity current.identity && current.device = mouse1 &&
      ProfileId.new draft.profile = some current.metadata.current && (draft.updates current).isOk
  | _ => false

/-- On record, the mouse gets what is shown. -/
theorem draft_written_recorded : ∃ current h₀, Goes (readLoaded mouse1 none) recordedBle (.ok current) recordedBle h₀ ∧
    ∀ result state' h, Goes (applyDraft current recordedSnapDraft) recordedBle result state' h →
      WritesShown current recordedSnapDraft (fun token => current.identity.physicalId = some token) (fun _ => True) h := by
  have hvalid : recordedBle.validate = .ok () := by decide +kernel
  have hrun : (bleBench.goes (readLoaded mouse1 none) recordedBle).any (loadsBle recordedSnapDraft) = true := by
    decide +kernel
  obtain ⟨⟨loaded, state, h₀⟩, hgoes, htest⟩ := (Option.any_eq_true ..).1 hrun
  have hends := Bench.goes_ends hgoes
  unfold loadsBle at htest
  split at htest
  · next current state h₀ heq =>
    cases heq
    simp only [Bool.and_eq_true, decide_eq_true_eq] at htest
    obtain ⟨⟨⟨hble, hdevice⟩, hprofile⟩, hupdates⟩ := htest
    obtain ⟨⟨hfrom, -⟩, rfl⟩ := leads_readLoaded hvalid _ _ _ _ _ rfl hends hble
    have hfirst : current.metadata.current = first := hfrom.working
    have hrecorded : ∀ {T : Type} (sect : Section T) (value : T),
        recordedBle.resource sect mouse1 first = some (acknowledged value) →
        recordedSnapDraft.Recorded recordedBle current sect := by
      intro T sect value hresource
      refine ⟨acknowledged value, value, ?_, rfl, ?_⟩
      · rw [hdevice, hfirst]
        exact hresource
      · rintro desired ⟨⟩
        exact .inr nofun
    cases hmade : recordedSnapDraft.updates current with
    | error e =>
      rw [hmade] at hupdates
      cases hupdates
    | ok made =>
      refine ⟨current, h₀, hends, (draft_written_iff.2.1 recordedBle recordedBle mouse1 none current h₀ hvalid hends hble
        recordedSnapDraft ⟨made.1, made.2, hprofile, hmade⟩).2 ?_⟩
      refine recordAgrees_of_recorded hfrom (fun _ => hrecorded .dpi (image (some (token 1)) first) ?_)
        (fun _ => hrecorded .preferences (.capturedStockReset first) ?_)
        fun _ => hrecorded .buttons (.defaultForProfile first) ?_
      · decide +kernel
      · decide +kernel
      · decide +kernel
  · cases htest

end AttackSharkX3.Rig
