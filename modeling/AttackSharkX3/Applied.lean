import AttackSharkX3.Shown
/-!
# Applied — a draft, from the load to the mouse

Over USB the manager merges a draft into the image it was made from.  Over BLE it takes its baseline of the store again, and
not by the worker's rule: it passes over explicit defaults that are not allowed, and where nothing is stored its captured
image is another than the stock image the worker shows.
-/
namespace AttackSharkX3

open Effects (Fallible Leads Tries Either ends_bind ends_stop ends_pure ends_perform ends_ensure)
open Effects.Prog (Event History Ends Kept)

/-! ## What a draft makes -/

/-- The draft passes the worker's checks, and makes these updates. -/
structure Draft.Makes (draft : Draft) (current : LoadedDevice) (update : ProfileUpdate) (rate : Option PollingRate) : Prop where
  profile : ProfileId.new draft.profile = some current.metadata.current
  updates : draft.updates current = .ok (update, rate)

section Updates

variable {draft : Draft} {current : LoadedDevice} {update : ProfileUpdate} {rate : Option PollingRate}

theorem updates_ok (h : draft.updates current = .ok (update, rate)) :
    draft.dpiDelta current.profile.dpi = .ok update.dpi ∧
      draft.preferencesDelta current.profile.preferences = update.preferences ∧
      Draft.buttonDeltas current.profile.buttons SAFE_BUTTON_SLOTS draft.buttons = .ok update.buttons ∧
      update.pollingRate = none ∧ ∃ requested, draft.requestedRate = .ok requested ∧
        rate = if requested ≠ current.pollingRate then some requested else none := by
  unfold Draft.updates at h
  cases hstages : draft.checkStages with
  | error e =>
    rw [hstages] at h
    cases h
  | ok u =>
    cases hdpi : draft.dpiDelta current.profile.dpi with
    | error e =>
      rw [hstages, hdpi] at h
      cases h
    | ok dpi =>
      cases hbuttons : Draft.buttonDeltas current.profile.buttons SAFE_BUTTON_SLOTS draft.buttons with
      | error e =>
        rw [hstages, hdpi, hbuttons] at h
        cases h
      | ok buttons =>
        cases hrate : draft.requestedRate with
        | error e =>
          rw [hstages, hdpi, hbuttons, hrate] at h
          cases h
        | ok requested =>
          rw [hstages, hdpi, hbuttons, hrate] at h
          cases h
          exact ⟨rfl, rfl, rfl, rfl, requested, rfl, rfl⟩

/-- The stages of a draft that makes updates are those of a mouse. -/
theorem stages_of_updates (h : draft.updates current = .ok (update, rate)) :
    1 ≤ draft.dpiValues.length ∧ draft.dpiValues.length ≤ 8 ∧ draft.activeStage.toNat ≤ draft.dpiValues.length := by
  unfold Draft.updates Draft.checkStages at h
  split at h
  · cases h
  · next hcount =>
    split at h
    · cases h
    · next hactive =>
      rw [not_or, Nat.not_lt] at hcount hactive
      have hsome : draft.dpiValues ≠ [] := fun hnil => hcount.1 (List.isEmpty_iff.2 hnil)
      exact ⟨List.length_pos_of_ne_nil hsome, hcount.2, hactive.2⟩

end Updates

section Applying

variable [Crc32fast] {current : LoadedDevice} {draft : Draft} {σ : Type}
  {step : (o : Op) → σ → o.Res → σ → Prop} {s s' : σ} {h : History Backend}
  {result : Except ManagerError (Except String (String × ProfileId))}

theorem only_applyProfileUpdate {device : DeviceId} {profile : ProfileId} {rate : PollingRate} {policy : UpdatePolicy} :
    Fallible.Only (S := Backend) (fun o => o.handsNone = true)
      (applyProfileUpdate device profile { pollingRate := some rate } policy) := by
  have hlooks : ∀ o : Op, o.looks = true → o.handsNone = true := by
    intro o ho
    cases o with
    | session endpoint call =>
      cases call with
      | writeDpi | writePreferences | writeButtons => cases ho
      | _ => rfl
    | _ => rfl
  refine .bind .ensure fun _ => .bind .ensure fun _ => .bind .ensure fun _ => .bind .ensure fun _ => ?_
  refine .bind (looks_openLocked.mono hlooks) fun opened => ?_
  refine .bind .ensure fun _ => .bind (looks_requireCompleteDesiredImage.mono hlooks) fun image => ?_
  refine .bind (.perform rfl) fun snapshot => .bind .ensure fun _ => .bind .ensure fun _ => .bind .ensure fun _ =>
    .bind .ensure fun _ => .bind (.perform rfl) fun live => .bind (.ite .pure (.perform rfl)) fun write => ?_
  exact .bind (.perform rfl) fun now => .bind (.perform rfl) fun outcome => .bind .ofExcept fun _ => .pure

/-- **Applying a draft** hands over the images of its own updates. -/
theorem handed_applyDraft {update : ProfileUpdate} {rate : Option PollingRate} (hmakes : draft.Makes current update rate) :
    Tries (handedRule current.device current.metadata.current update (draft.policy (isBleIdentity current.identity))
        current.baseline) (fun h => commitsOf h = []) (applyDraft current draft) (fun _ _ => True) fun _ _ => True := by
  unfold applyDraft
  rw [hmakes.profile, hmakes.updates]
  dsimp only
  rw [if_neg (by simp)]
  split
  · exact .pure fun _ _ => trivial
  · refine .bind (Q := fun _ _ => True) ?_ fun applied => ?_
    · split
      · exact .bind (Q := fun _ _ => True)
          (.attempt (handed_applyProfileUpdateFromSnapshot (updates_ok hmakes.updates).2.2.2.1)) fun _ => .pure fun _ _ => trivial
      · exact .pure fun _ _ => trivial
    · split
      · exact .pure fun _ _ => trivial
      · exact .pure fun _ _ => trivial
      · exact handed_none (.bind (.bind (.attempt only_applyProfileUpdate) fun _ => .pure) fun _ => .pure)

/-- A draft that makes no update does nothing. -/
theorem applyDraft_refused (hnone : ∀ update rate, ¬ draft.Makes current update rate) :
    ∃ e, applyDraft current draft = pure (.error e) := by
  unfold applyDraft
  split
  · exact ⟨_, rfl⟩
  · next profile hprofile =>
    split
    · exact ⟨_, rfl⟩
    · next hcurrent =>
      rw [not_not] at hcurrent
      split
      · exact ⟨_, rfl⟩
      · next update rate hupdates => exact absurd ⟨hcurrent ▸ hprofile, hupdates⟩ (hnone update rate)

/-- **What a run of a draft handed over**: nothing, or images of its updates. -/
theorem kept_applyDraft (hends : Ends (S := Backend) step (applyDraft current draft).run s [] result s' h) :
    h = [] ∨ ∃ update rate, draft.Makes current update rate ∧
      Kept (S := Backend) (handedRule current.device current.metadata.current update
        (draft.policy (isBleIdentity current.identity)) current.baseline) h := by
  by_cases hmakes : ∃ update rate, draft.Makes current update rate
  · obtain ⟨update, rate, hmakes⟩ := hmakes
    have hkeeps := handed_applyDraft hmakes [] rfl
    exact .inr ⟨update, rate, hmakes, (Effects.Prog.Keeps.ends hends hkeeps trivial).1⟩
  · simp only [not_exists] at hmakes
    obtain ⟨e, heq⟩ := applyDraft_refused hmakes
    rw [heq] at hends
    cases hends
    exact .inl rfl

end Applying

/-! ## The states a run loaded -/

/-- Before anything is committed a run alone loads the state it started from. -/
theorem loads_alone {α : Type} {p : Effects.Prog Backend α} {state s s' : StateFile} {h h' : History Backend} {a : α}
    (hends : Ends (S := Backend) Op.does p s h a s' h') (hs : commitsOf h = [] → s = state)
    (hh : ∀ before, before <:+ h → commitsOf before = [] → ∀ loaded ∈ loads before, loaded = state) :
    ∀ before, before <:+ h' → commitsOf before = [] → ∀ loaded ∈ loads before, loaded = state := by
  induction hends with
  | pure => exact hh
  | @call o k s h r s' a s'' h'' does rest ih =>
    have hquiet : commitsOf (⟨o, r⟩ :: h) = [] → commitsOf h = [] ∧ s' = s := by
      intro hnone
      cases o with
      | commit t => cases hnone
      | load => exact ⟨hnone, does.1⟩
      | _ => exact ⟨hnone, does⟩
    refine ih (fun hnone => ?_) fun before hbefore hnone loaded hloaded => ?_
    · obtain ⟨hbefore, hsame⟩ := hquiet hnone
      exact hsame.trans (hs hbefore)
    · rcases List.suffix_cons_iff.1 hbefore with rfl | hbefore
      · obtain ⟨hold, hsame⟩ := hquiet hnone
        cases o with
        | load =>
          unfold loads at hloaded
          rw [List.filterMap_cons] at hloaded
          obtain ⟨-, hr | ⟨e, hr⟩⟩ := does
          · have hanswer : Op.loaded Op.load r = some s := by
              subst hr
              rfl
            rw [hanswer] at hloaded
            rcases List.mem_cons.1 hloaded with rfl | hloaded
            · exact hs hold
            · exact hh h (List.suffix_refl _) hold loaded hloaded
          · have hanswer : Op.loaded Op.load r = none := by
              subst hr
              rfl
            rw [hanswer] at hloaded
            exact hh h (List.suffix_refl _) hold loaded hloaded
        | _ => exact hh h (List.suffix_refl _) hold loaded hloaded
      · exact hh before hbefore hnone loaded hloaded

/-! ## What is handed over -/

/-- The draft changes a value that is shown of the section. -/
def Draft.EditsDpi (draft : Draft) (loaded : DpiState) : Prop :=
  ¬ (loaded.stages.map (·.get) = draft.requestedDpi ∧ loaded.activeStage.get = draft.activeStage ∧
    loaded.sensor = draft.sensor)

def Draft.EditsPreferences (draft : Draft) (loaded : PreferencesState) : Prop := shownPreferences loaded draft ≠ loaded

def Draft.EditsButtons (draft : Draft) (loaded : ButtonsState) : Prop :=
  ∃ entry ∈ draft.slots, Draft.shownAction loaded entry.1 ≠ entry.2

/-- **Every image that was handed to a session shows the draft**, and only sections the draft edits were. -/
structure WritesShown [Crc32fast] (current : LoadedDevice) (draft : Draft) (own : PhysicalId → Prop)
    (covers : TransportKind → Prop) (h : History Backend) : Prop where
  dpi : ∀ endpoint image verification r, Did.session endpoint (.writeDpi image verification) r ∈ h →
    covers endpoint.transport → draft.EditsDpi current.profile.dpi ∧ ShowsDpi current.profile.dpi draft own image
  preferences : ∀ endpoint image verification r, Did.session endpoint (.writePreferences image verification) r ∈ h →
    covers endpoint.transport → draft.EditsPreferences current.profile.preferences ∧
      image = shownPreferences current.profile.preferences draft
  buttons : ∀ endpoint image verification r, Did.session endpoint (.writeButtons image verification) r ∈ h →
    covers endpoint.transport → draft.EditsButtons current.profile.buttons ∧ ShowsButtons current.profile.buttons draft image

/-- What the state has for a section of the profile that was loaded, under the draft's policy. -/
def Draft.onto {T : Type} (draft : Draft) (state : StateFile) (current : LoadedDevice) (sect : Section T)
    (captured : ProfileId → Except ManagerError T) : Option T :=
  state.baseline sect captured current.device current.metadata.current draft.allowExplicitDefaults

/-- A baseline whose own stages are kept must be able to keep them. -/
def Draft.Merges (draft : Draft) (loaded baseline : DpiState) : Prop :=
  draft.dpiChanged loaded = true ∨ validateStageSelection baseline.stages.length baseline.activeStage = .ok ()

/-- The DPI section keeps no update from the sections after it. -/
def Draft.PassesDpi (draft : Draft) (state : StateFile) (current : LoadedDevice) : Prop :=
  draft.EditsDpi current.profile.dpi → ∃ baseline, draft.onto state current .dpi capturedEvidenceDpi = some baseline ∧
    draft.Merges current.profile.dpi baseline

/-- Neither do the preferences. -/
def Draft.PassesPreferences (draft : Draft) (state : StateFile) (current : LoadedDevice) : Prop :=
  draft.EditsPreferences current.profile.preferences →
    ∃ baseline, draft.onto state current .preferences (fun profile => .ok (capturedEvidencePreferences profile)) = some baseline

/-- **What is stored of each section the draft edits agrees with what was loaded**, wherever the draft leaves the loaded
value.  A section is only reached when those before it could be written. -/
structure RecordAgrees (state : StateFile) (current : LoadedDevice) (draft : Draft) : Prop where
  dpi : draft.EditsDpi current.profile.dpi → ∀ baseline, draft.onto state current .dpi capturedEvidenceDpi = some baseline →
    draft.Merges current.profile.dpi baseline → AgreesDpi current.profile.dpi draft current.identity.physicalId baseline
  preferences : draft.PassesDpi state current → draft.EditsPreferences current.profile.preferences →
    ∀ baseline, draft.onto state current .preferences (fun profile => .ok (capturedEvidencePreferences profile)) =
      some baseline → AgreesPreferences current.profile.preferences draft baseline
  buttons : draft.PassesDpi state current → draft.PassesPreferences state current →
    draft.EditsButtons current.profile.buttons → ∀ baseline,
      draft.onto state current .buttons (fun profile => .ok (.defaultForProfile profile)) = some baseline →
      AgreesButtons current.profile.buttons draft baseline

section Shown

variable [Crc32fast] {draft : Draft} {current : LoadedDevice} {update : ProfileUpdate} {rate : Option PollingRate}
  {own : PhysicalId → Prop}

theorem ShowsDpi.mono {loaded image : DpiState} {own' : PhysicalId → Prop} (h : ShowsDpi loaded draft own image)
    (hown : ∀ token, own token → own' token) : ShowsDpi loaded draft own' image :=
  ⟨h.profile, h.stages, h.activeStage, h.sensor, h.tail.imp_right fun ⟨token, ht, htail⟩ => ⟨token, hown token ht, htail⟩⟩

omit [Crc32fast] in
/-- A DPI part is one the draft edits. -/
theorem ofDraft_of_makes (hmakes : draft.Makes current update rate) {delta : DpiDelta} (hdelta : delta ∈ update.dpi) :
    delta.OfDraft draft current.profile.dpi ∧ draft.EditsDpi current.profile.dpi := by
  rcases dpiDelta_ok (updates_ok hmakes.updates).1 with ⟨hnone, -⟩ | ⟨delta', hsome, hof⟩
  · rw [hnone] at hdelta
    cases hdelta
  · rw [hsome] at hdelta
    cases hdelta
    refine ⟨hof, ?_⟩
    rintro ⟨hstages, hactive, hsensor⟩
    have hsame : draft.dpiChanged current.profile.dpi = false := dpiChanged_false.2 ⟨hstages, hactive⟩
    have hempty := sensorDelta_isEmpty.2 hsensor
    rcases hof.edits with hchanged | hsome
    · rw [hsame] at hchanged
      cases hchanged
    · rw [hempty] at hsome
      cases hsome

omit [Crc32fast] in
/-- Preferences are updated where the draft edits them. -/
theorem edits_preferences (hmakes : draft.Makes current update rate) {delta : PreferencesDelta}
    (hdelta : delta ∈ update.preferences) : draft.preferencesDelta current.profile.preferences = some delta ∧
      draft.EditsPreferences current.profile.preferences := by
  have hmade : draft.preferencesDelta current.profile.preferences = some delta :=
    (updates_ok hmakes.updates).2.1.trans hdelta
  refine ⟨hmade, fun hsame => ?_⟩
  rw [preferencesDelta_none.2 hsame] at hmade
  cases hmade

omit [Crc32fast] in
/-- Buttons are updated where the draft renames them. -/
theorem edits_buttons (hmakes : draft.Makes current update rate) (hdeltas : update.buttons ≠ []) :
    draft.EditsButtons current.profile.buttons := by
  obtain ⟨delta, hdelta⟩ := List.exists_mem_of_ne_nil _ hdeltas
  obtain ⟨entry, hentry, -, hrenamed⟩ := renamed_of_delta (updates_ok hmakes.updates).2.2.1 hdelta
  exact ⟨entry, hentry, hrenamed⟩

omit [Crc32fast] in
/-- A DPI section the draft edits has a part. -/
theorem dpi_of_edits (hmakes : draft.Makes current update rate) (hedits : draft.EditsDpi current.profile.dpi) :
    ∃ delta, update.dpi = some delta := by
  rcases dpiDelta_ok (updates_ok hmakes.updates).1 with ⟨-, hsame, hempty⟩ | ⟨delta, hsome, -⟩
  · obtain ⟨hstages, hactive⟩ := dpiChanged_false.1 hsame
    exact absurd ⟨hstages, hactive, sensorDelta_isEmpty.1 hempty⟩ hedits
  · exact ⟨delta, hsome⟩

omit [Crc32fast] in
theorem preferences_of_edits (hmakes : draft.Makes current update rate)
    (hedits : draft.EditsPreferences current.profile.preferences) : ∃ delta, update.preferences = some delta := by
  refine Option.ne_none_iff_exists'.1 fun hnone => hedits ?_
  exact preferencesDelta_none.1 ((updates_ok hmakes.updates).2.1.trans hnone)

omit [Crc32fast] in
theorem buttons_of_edits (hmakes : draft.Makes current update rate)
    (hedits : draft.EditsButtons current.profile.buttons) : update.buttons ≠ [] := by
  obtain ⟨entry, hentry, hrenamed⟩ := hedits
  obtain ⟨delta, hdelta, -⟩ := delta_of_renamed (updates_ok hmakes.updates).2.2.1 hentry hrenamed
  exact List.ne_nil_of_mem hdelta

/-- **A part is merged** with every baseline whose stages, where they are kept, can be. -/
theorem stampedDpi_iff (hmakes : draft.Makes current update rate) {delta : DpiDelta} (hdelta : delta ∈ update.dpi)
    {p : Option PhysicalId} {baseline : DpiState} :
    (∃ image, stampedDpi delta p baseline = .ok image) ↔ draft.Merges current.profile.dpi baseline := by
  have hselection : (∃ image, stampedDpi delta p baseline = .ok image) ↔
      validateStageSelection (delta.stages.getD baseline.stages).length (delta.activeStage.getD baseline.activeStage) = .ok () := by
    unfold stampedDpi mergeDpiDelta DpiState.new
    cases validateStageSelection (delta.stages.getD baseline.stages).length (delta.activeStage.getD baseline.activeStage) with
    | error e => exact iff_of_false (fun ⟨_, hmade⟩ => by cases hmade) nofun
    | ok u => exact ⟨fun _ => rfl, fun _ => ⟨_, rfl⟩⟩
  obtain ⟨hof, -⟩ := ofDraft_of_makes hmakes hdelta
  rw [hselection, Draft.Merges]
  cases hchanged : draft.dpiChanged current.profile.dpi with
  | false =>
    obtain ⟨hstages, hactive⟩ := hof.unchanged hchanged
    rw [hstages, hactive]
    simp
  | true =>
    obtain ⟨stages, stage, hstages, hactive, hvalues, hvalue⟩ := hof.changed hchanged
    have hlength : stages.length = draft.dpiValues.length := by
      have h := congrArg List.length hvalues
      simpa [Draft.requestedDpi] using h
    rw [hstages, hactive, Option.getD_some, Option.getD_some, hlength]
    obtain ⟨hlow, hhigh, hactive⟩ := stages_of_updates hmakes.updates
    refine iff_of_true ?_ (.inl rfl)
    unfold validateStageSelection
    rw [if_neg (not_not.2 ⟨hlow, hhigh⟩), hvalue, if_neg (Nat.not_lt.2 hactive)]

omit [Crc32fast] in
/-- What the state opens the mouse with is saved. -/
theorem identity_of_opens {state : StateFile} {device : DeviceId} {identity : DeviceIdentity} {endpoint : DeviceEndpoint}
    (h : state.opens device = some (identity, endpoint)) :
    (∃ deviceState, state.devices[device]? = some deviceState ∧ deviceState.identity = identity) ∧
      identity.selectedEndpoint = some endpoint := by
  unfold StateFile.opens at h
  split at h
  · cases h
  · obtain ⟨deviceState, hdevice, hendpoint⟩ := Option.bind_eq_some_iff.1 h
    obtain ⟨selected, hselected, heq⟩ := Option.map_eq_some_iff.1 hendpoint
    cases heq
    exact ⟨⟨deviceState, hdevice, rfl⟩, hselected⟩

omit [Crc32fast] in
/-- An event of a history that keeps a rule was allowed. -/
theorem allowed_of_mem {rule : History Backend → Op → Prop} {h : History Backend} {ev : Event Backend} (hk : Kept rule h)
    (hmem : ev ∈ h) : ∃ before, before <:+ h ∧ rule before ev.1 := by
  obtain ⟨after, before, rfl⟩ := List.append_of_mem hmem
  exact ⟨before, (List.suffix_cons ev before).trans (List.suffix_append after _), hk.of_suffix (List.suffix_append after _)⟩

/-- **A run over USB hands over what is shown**, whatever others do to the store. -/
theorem shown_usb {σ : Type} {step : (o : Op) → σ → o.Res → σ → Prop} {s s' : σ} {h : History Backend}
    {result : Except ManagerError (Except String (String × ProfileId))} (husb : isBleIdentity current.identity = false)
    (hlive : draft.baseline = .live)
    (hends : Ends (S := Backend) step (applyDraft current draft).run s [] result s' h) :
    WritesShown current draft (fun token => ∃ state ∈ loads h, ∃ deviceState, state.devices[current.device]? = some deviceState ∧
      deviceState.identity.physicalId = some token) (· ≠ .ble) h := by
  rcases kept_applyDraft hends with rfl | ⟨update, rate, hmakes, hkept⟩
  · exact ⟨fun _ _ _ _ => nofun, fun _ _ _ _ => nofun, fun _ _ _ _ => nofun⟩
  have hfrom : ∀ transport : TransportKind, transport ≠ .ble →
      (draft.policy (isBleIdentity current.identity)).fromStore transport = none := by
    intro transport hne
    rw [husb]
    cases transport with
    | ble => exact absurd rfl hne
    | wired | receiver => simp [UpdatePolicy.fromStore, Draft.policy, hlive]
  refine ⟨fun endpoint image verification r hmem hover => ?_, fun endpoint image verification r hmem hover => ?_,
    fun endpoint image verification r hmem hover => ?_⟩
  · obtain ⟨before, hbefore, identity, hopen, delta, hdelta, baseline, hbased, hstamped⟩ := allowed_of_mem hkept hmem
    obtain ⟨hof, hedits⟩ := ofDraft_of_makes hmakes hdelta
    rw [Based, hfrom _ hover] at hbased
    rw [hbased] at hstamped
    refine ⟨hedits, ((showsDpi_iff hof hstamped
      fun _ => Iff.rfl).2 .refl).mono ?_⟩
    intro token htoken
    obtain ⟨-, state, hloaded, hopens⟩ := hopen
    obtain ⟨⟨deviceState, hdevice, rfl⟩, -⟩ := identity_of_opens hopens
    refine ⟨state, ?_, deviceState, hdevice, htoken⟩
    obtain ⟨after, rfl⟩ := hbefore
    unfold loads
    rw [List.filterMap_append]
    exact List.mem_append_right _ hloaded
  · obtain ⟨before, hbefore, identity, hopen, -, delta, hdelta, baseline, hbased, hmerged⟩ := allowed_of_mem hkept hmem
    obtain ⟨hmade, hedits⟩ := edits_preferences hmakes hdelta
    rw [Based, hfrom _ hover] at hbased
    rw [← hmerged, hbased]
    exact ⟨hedits, (showsPreferences_iff hmade).2 .refl⟩
  · obtain ⟨before, hbefore, identity, hopen, -, -, hdeltas, baseline, hbased, hmerged⟩ := allowed_of_mem hkept hmem
    rw [Based, hfrom _ hover] at hbased
    rw [← hmerged, hbased]
    exact ⟨edits_buttons hmakes hdeltas, (showsButtons_iff (updates_ok hmakes.updates).2.2.1).2 .refl⟩

end Shown

end AttackSharkX3
