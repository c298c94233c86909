import AttackSharkX3.Composite
/-!
# Late — a baseline found missing once something was written

An update that cannot be made should be refused before anything is written.  A composite update resolves the baseline of
each part only after the part before it was sent, and the store may lack the later one.
-/
namespace AttackSharkX3

open Effects (Fallible Leads ends_bind ends_stop ends_pure ends_perform ends_ensure)
open Effects.Prog (Event History)

/-- **Refused before a write**: a call that ends for want of a baseline or of an image wrote nothing. -/
def RefusedUnwritten (e : ManagerError) (h : History Backend) : Prop :=
  e.OfPart → SessionFailed h ∨ writesOf h = []

section Rate

variable {state : StateFile} {device : DeviceId} {profile : ProfileId} {policy : UpdatePolicy} {session : Session}

theorem writesOf_stable (written : History Backend) : LookStable (writesOf · = written) :=
  fun _ _ _ ho hh => (writesOf_looks ho).trans hh

/-- **A rate is written last**, and what can fail after that is no part's failure. -/
theorem leads_applyPollingRate (hsaved : ∃ deviceState, state.devices[device]? = some deviceState) (rate : PollingRate) :
    Leads (S := Backend) Op.does (fun s h => s = state ∧ writesOf h = [])
      (applyPollingRate device profile rate policy session) (fun _ _ _ => True) fun e _ h => RefusedUnwritten e h := by
  have hfine : ∀ {c : Prop} [Decidable c] {e : ManagerError},
      Leads (S := Backend) Op.does (fun s h => s = state ∧ writesOf h = []) (Fallible.ensure c e)
        (fun _ s h => s = state ∧ writesOf h = []) fun e _ h => RefusedUnwritten e h :=
    .ensure (fun _ _ _ => id) fun _ _ _ hh _ => .inr hh.2
  have hlooks : ∀ {α : Type} {x : Manager α}, Looks x →
      Leads (S := Backend) Op.does (fun s h => s = state ∧ writesOf h = []) x
        (fun _ s h => s = state ∧ writesOf h = []) fun e _ h => RefusedUnwritten e h :=
    fun hx => (leads_looks (writesOf_stable []) hx).mono (fun _ _ => id) (fun _ _ _ => id) fun _ _ _ hh _ => .inr hh.2
  refine .bind hfine fun _ => .bind (hlooks looks_requireCompleteDesiredImage) fun image =>
    .bind (hlooks (looks_call rfl)) fun snapshot => .bind hfine fun _ => .bind hfine fun _ => .bind hfine fun _ =>
    .bind hfine fun _ => .bind (hlooks (looks_call rfl)) fun current => ?_
  have hwrite : Leads (S := Backend) Op.does (fun s h => s = state ∧ writesOf h = [])
      (if current = rate then pure (.readbackVerified current)
        else session.writePollingRateUnchecked profile rate policy.verification : Manager (SessionWrite PollingRate))
      (fun _ s _ => s = state) fun e _ h => RefusedUnwritten e h := by
    split
    · exact .pure fun s h hh => hh.1
    · refine (leads_call (P := fun _ => True)).mono (fun s h hh => ⟨hh.1, trivial⟩) (fun _ _ _ hh => hh.1) ?_
      rintro e s h ⟨-, before, rfl, -⟩ -
      exact .inl ⟨_, _, e, before, rfl⟩
  refine .bind hwrite fun write => ?_
  have hnow : Leads (S := Backend) Op.does (fun s _ => s = state) Manager.now (fun _ s _ => s = state)
      fun e _ h => RefusedUnwritten e h :=
    .perform fun s h r s' hs hd => (show s' = s from hd).trans hs
  refine .bind hnow fun now => ?_
  have hcommit : Leads (S := Backend) Op.does (fun s _ => s = state)
      (Manager.commit (.persistPollingRate device profile rate write now)) (fun _ _ _ => True)
      fun e _ h => RefusedUnwritten e h := by
    refine .perform fun s h r s' hs hd => ?_
    subst hs
    obtain ⟨deviceState, hdevice⟩ := hsaved
    have hanswer : (Txn.persistPollingRate device profile rate write now).answer s = .ok (writeOutcome rate write) :=
      congrArg Prod.fst (persistWrite_apply lawful_pollingRate hdevice rate write now)
    cases (show Commits (.persistPollingRate device profile rate write now) s r s' from hd) with
    | unchanged _ | stored _ =>
      rw [hanswer]
      trivial
    | rejected _ | failed _ | unsynced _ _ => exact fun he => he.elim
  refine .bind hcommit fun outcome => ?_
  refine .bind (Q := fun _ _ _ => True) (.ofExcept (fun _ _ _ _ _ => trivial) fun e he s h _ hpart => ?_) fun _ =>
    .pure fun _ _ _ => trivial
  unfold finishWrite at he
  split at he
  · cases he
    exact hpart.elim
  · cases he

end Rate

/-! ## When nothing is written before a refusal -/

/-- The update has no rate, and no part that is empty. -/
structure ProfileUpdate.Composite (update : ProfileUpdate) : Prop where
  rate : update.pollingRate = none
  dpi : update.dpi.all (!·.isEmpty) = true
  preferences : update.preferences.all (!·.isEmpty) = true

/-- **A later baseline is missing** on the mouse the store opens. -/
def Late (state : StateFile) (device : DeviceId) (profile : ProfileId) (update : ProfileUpdate) (policy : UpdatePolicy) :
    Prop :=
  update.Composite ∧ ∃ opened, state.opens device = some opened ∧
    BaselineLate state device profile update policy opened.2.transport

section Refusal

variable [Crc32fast] {state : StateFile} {device : DeviceId} {profile : ProfileId} {update : ProfileUpdate}
  {policy : UpdatePolicy} {provided : Option ProfileUpdateBaseline}

theorem leads_applyProfileUpdate (hlate : ¬ Late state device profile update policy) :
    Leads (S := Backend) Op.does (fun s h => s = state ∧ Untouched [] h)
      (applyProfileUpdateInner device profile update policy provided) (fun _ _ _ => True)
      fun e _ h => RefusedUnwritten e h := by
  have hfine : ∀ {c : Prop} [Decidable c] {e : ManagerError}, Leads (S := Backend) Op.does
      (fun s h => s = state ∧ Untouched [] h) (Fallible.ensure c e)
      (fun _ s h => c ∧ s = state ∧ Untouched [] h) fun e _ h => RefusedUnwritten e h :=
    .ensure (fun hc _ _ hh => ⟨hc, hh⟩) fun _ _ _ hh _ => .inr hh.2.1
  refine .bind hfine fun _ => .of_pure fun _ => .bind hfine fun _ => .of_pure fun _ =>
    .bind hfine fun _ => .of_pure fun hdpi => .bind hfine fun _ => .of_pure fun hpreferences => ?_
  refine .bind ((leads_openLocked (Untouched.stable [])).mono (fun _ _ => id) (fun _ _ _ => id)
    fun _ _ _ hh _ => .inr hh.2.1) fun opened => .of_pure fun hopens => ?_
  obtain ⟨identity, session⟩ := opened
  dsimp only
  cases hrate : update.pollingRate with
  | some rate =>
    exact (leads_applyPollingRate (StateFile.saved_of_opens hopens) rate).mono (fun _ _ hh => ⟨hh.1, hh.2.1⟩)
      (fun _ _ _ => id) fun _ _ _ => id
  | none =>
    refine (leads_applyParts (StateFile.saved_of_opens hopens) update identity.physicalId).mono (fun _ _ => id)
      (fun _ _ _ _ => trivial) ?_
    rintro e s h (⟨-, -, hpart⟩ | ⟨-, hpart⟩) he
    · rcases hpart he with hsession | hwrites | hmissing
      · exact .inl hsession
      · exact .inr hwrites
      · exact absurd ⟨⟨hrate, hdpi, hpreferences⟩, (identity, session.endpoint), hopens, hmissing⟩ hlate
    · exact absurd he hpart

end Refusal

/-! ## A call that is refused late -/

/-- One way a call goes that leaves the store alone. -/
abbrev Way {α : Type} (x : Manager α) (state : StateFile) (h : History Backend) (result : Except ManagerError α)
    (h' : History Backend) : Prop :=
  Effects.Prog.Ends (S := Backend) Op.does x.run state h result state h'

section Ways

variable [Crc32fast] {state : StateFile} {device : DeviceId} {profile : ProfileId} {policy : UpdatePolicy}
  {provided : Option ProfileUpdateBaseline} {h : History Backend}

/-- **A mouse the store can open** is opened, where its watermark is cached. -/
theorem way_openLocked {identity : DeviceIdentity} {endpoint : DeviceEndpoint} (h : History Backend) (operation : String)
    (hopens : state.opens device = some (identity, endpoint)) :
    ∃ h', Way (openLocked device operation) state h (.ok (identity, ⟨endpoint⟩)) h' := by
  unfold StateFile.opens at hopens
  split at hopens
  · cases hopens
  · next hfree =>
    obtain ⟨deviceState, hdevice, hselected⟩ := Option.bind_eq_some_iff.1 hopens
    obtain ⟨endpoint', hendpoint, heq⟩ := Option.map_eq_some_iff.1 hselected
    cases heq
    have hrefuse : ∀ h, Way (refuseInvolved state.identitySetup device) state h (.ok ()) h := by
      intro h
      unfold refuseInvolved
      cases hjournal : state.identitySetup with
      | none => exact ends_pure
      | some journal =>
        refine ends_ensure ?_
        rw [hjournal] at hfree
        simpa using hfree
    have hgate : ∀ h, ∃ h', Way (gateAttachment device deviceState.identity.physicalId endpoint ⟨endpoint⟩) state h (.ok ()) h' := by
      intro h
      unfold gateAttachment
      split
      · next token _ _ =>
        let cache : IdentityCache := fun _ => some (.valid token, endpoint)
        have hauth : Way (authenticateAttachment endpoint ⟨endpoint⟩) state h (.ok (.valid token)) (⟨Op.cached, cache⟩ :: h) := by
          refine ends_bind (ends_perform cache rfl rfl) ?_
          have hlookup : cache.lookup endpoint = some (.valid token) := by simp [cache, IdentityCache.lookup]
          rw [hlookup]
          exact ends_pure
        exact ⟨_, ends_bind hauth (ends_ensure rfl)⟩
      · exact ⟨h, ends_pure⟩
    obtain ⟨h', hgate⟩ := hgate (⟨Op.open_ endpoint, (.ok () : Except ManagerError Unit)⟩ ::
      ⟨Op.load, (.ok state : Except StateError StateFile)⟩ ::
      ⟨Op.acquire device operation, (.ok () : Except ManagerError Unit)⟩ :: h)
    refine ⟨h', ?_⟩
    unfold openLocked
    refine ends_bind (ends_perform (.ok () : Except ManagerError Unit) rfl rfl) ?_
    refine ends_bind (ends_perform (.ok state : Except StateError StateFile) rfl ⟨rfl, .inl rfl⟩) ?_
    refine ends_bind (hrefuse _) ?_
    rw [hdevice]
    refine ends_bind ends_pure ?_
    rw [hendpoint]
    refine ends_bind ends_pure ?_
    refine ends_bind (ends_perform (.ok () : Except ManagerError Unit) rfl rfl) ?_
    exact ends_bind hgate ends_pure

variable {T : Type} {sect : Section T} {name : String} {captured : ProfileId → Except ManagerError T}

/-- The event of a load that succeeds. -/
abbrev loadedEvent (state : StateFile) : Event Backend := ⟨Op.load, (.ok state : Except StateError StateFile)⟩

omit [Crc32fast] in
theorem way_stored {value : T} (hvalue : storedBaseline (state.resource sect device profile) false = some value) :
    Way (loadStoredBaseline sect name captured device profile false) state h (.ok value) (loadedEvent state :: h) := by
  refine ends_bind (ends_perform (.ok state : Except StateError StateFile) rfl ⟨rfl, .inl rfl⟩) ?_
  rw [hvalue]
  exact ends_pure

omit [Crc32fast] in
theorem way_missing (hnone : storedBaseline (state.resource sect device profile) false = none) :
    Way (loadStoredBaseline sect name captured device profile false) state h (.error (.missingBaseline name (some profile))) (loadedEvent state :: h) := by
  refine ends_bind (ends_perform (.ok state : Except StateError StateFile) rfl ⟨rfl, .inl rfl⟩) ?_
  rw [hnone]
  exact .pure

omit [Crc32fast] in
/-- A write that is acknowledged. -/
theorem way_write (state : StateFile) (h : History Backend) (session : Session) (call : SessionCall) (value : call.Value)
    (hw : call.writes = true) :
    ∃ h', Way (session.call call) state h (.ok value) h' ∧
      writesOf h' ≠ [] := by
  refine ⟨_, ends_perform (.ok value : Except ManagerError call.Value) rfl rfl, ?_⟩
  rw [writesOf_write hw]
  exact List.cons_ne_nil _ _

omit [Crc32fast] in
/-- A part that may be left out; where there is one it is written. -/
theorem way_optionally {D A : Type} (h : History Backend) (part : Option D) (apply : D → Manager A)
    (happly : ∀ d ∈ part, ∃ a h', Way (apply d) state h (.ok a) h' ∧
      writesOf h' ≠ []) :
    ∃ a h', Way (optionally part apply) state h (.ok a) h' ∧
      (part.isSome ∨ writesOf h ≠ [] → writesOf h' ≠ []) := by
  cases part with
  | none => exact ⟨none, h, ends_pure, by simp⟩
  | some d =>
    obtain ⟨a, h', hends, hwrote⟩ := happly d rfl
    exact ⟨some a, h', ends_bind hends ends_pure, fun _ => hwrote⟩

variable {session : Session}

/-- **A part that is sent.** -/
theorem way_dpi {delta : DpiDelta} {physicalId : Option PhysicalId} {baseline desired : DpiState}
    (hstore : policy.fromStore session.transport = some false)
    (hbaseline : storedBaseline (state.resource .dpi device profile) false = some baseline)
    (hmerge : mergeDpiDelta baseline delta = .ok desired) :
    ∃ made h', Way (applyDpiPart device profile delta physicalId policy provided session) state h (.ok made) h' ∧
      writesOf h' ≠ [] := by
  obtain ⟨h', hends, hwrote⟩ := way_write state (loadedEvent state :: h) session
    (.writeDpi (withPhysicalWatermark desired physicalId) policy.verification) .acknowledged rfl
  refine ⟨(withPhysicalWatermark desired physicalId, .acknowledged), h', ?_, hwrote⟩
  unfold applyDpiPart
  rw [resolveBaseline_fromStore hstore]
  refine ends_bind (way_stored hbaseline) ?_
  rw [hmerge]
  exact ends_bind ends_pure (ends_bind hends ends_pure)

omit [Crc32fast] in
theorem way_preferences {delta : PreferencesDelta} {baseline : PreferencesState}
    (hstore : policy.fromStore session.transport = some false)
    (hbaseline : storedBaseline (state.resource .preferences device profile) false = some baseline) :
    ∃ made h', Way (applyPreferencesPart device profile delta policy provided session) state h (.ok made) h' ∧
      writesOf h' ≠ [] := by
  obtain ⟨h', hends, hwrote⟩ := way_write state (loadedEvent state :: h) session
    (.writePreferences (mergePreferencesDelta baseline delta) policy.verification) .acknowledged rfl
  refine ⟨(mergePreferencesDelta baseline delta, .acknowledged), h', ?_, hwrote⟩
  unfold applyPreferencesPart
  rw [resolveBaseline_fromStore hstore]
  exact ends_bind (way_stored hbaseline) (ends_bind hends ends_pure)

omit [Crc32fast] in
/-- A load after the writes: no session failed last, and the writes stay. -/
theorem loaded_unrefused {e : ManagerError} (he : e.OfPart) (hwrote : writesOf h ≠ []) :
    ¬ RefusedUnwritten e (loadedEvent state :: h) := by
  intro hr
  rcases hr he with ⟨endpoint, call, e', before, heq⟩ | hnone
  · cases heq
  · have hsame : writesOf (loadedEvent state :: h) = writesOf h := writesOf_looks rfl
    exact hwrote (hsame.symm.trans hnone)

/-- **A late baseline is refused late.** -/
theorem way_applyParts {update : ProfileUpdate} (provided : Option ProfileUpdateBaseline)
    (physicalId : Option PhysicalId) (session : Session) (h : History Backend)
    (hlate : BaselineLate state device profile update policy session.transport) :
    ∃ e h', Way (applyParts device profile update policy provided physicalId session) state h (.error e) h' ∧
      ¬ RefusedUnwritten e h' := by
  obtain ⟨hstore, hready, hlate⟩ := hlate
  obtain ⟨dpi, h₁, hdpi, hwrote₁⟩ := way_optionally h update.dpi
    (applyDpiPart device profile · physicalId policy provided session) fun delta hdelta => by
      obtain ⟨baseline, desired, hbaseline, hmerge⟩ := hready delta hdelta
      exact way_dpi hstore hbaseline hmerge
  rcases hlate with ⟨hsome, hpreferences, hnone⟩ | ⟨hsome, hbuttons, hpreferences, hnone⟩
  · obtain ⟨delta, hdelta⟩ := Option.isSome_iff_exists.1 hpreferences
    refine ⟨.missingBaseline "preferences" (some profile), loadedEvent state :: h₁, ?_,
      loaded_unrefused trivial (hwrote₁ (.inl hsome))⟩
    unfold applyParts
    refine ends_bind hdpi (ends_stop ?_)
    rw [hdelta]
    refine ends_stop ?_
    unfold applyPreferencesPart
    rw [resolveBaseline_fromStore hstore]
    exact ends_stop (way_missing hnone)
  · obtain ⟨preferences, h₂, hpreferencesEnds, hwrote₂⟩ := way_optionally h₁ update.preferences
      (applyPreferencesPart device profile · policy provided session) fun delta hdelta => by
        obtain ⟨baseline, hbaseline⟩ := Option.ne_none_iff_exists'.1 (hpreferences (Option.isSome_iff_exists.2 ⟨delta, hdelta⟩))
        exact way_preferences hstore hbaseline
    have hwrote : writesOf h₂ ≠ [] := by
      rcases hsome with hsome | hsome
      · exact hwrote₂ (.inr (hwrote₁ (.inl hsome)))
      · exact hwrote₂ (.inl hsome)
    refine ⟨.missingBaseline "buttons" (some profile), loadedEvent state :: h₂, ?_, loaded_unrefused trivial hwrote⟩
    unfold applyParts
    refine ends_bind hdpi (ends_bind hpreferencesEnds (ends_stop ?_))
    rw [if_neg (by simpa using hbuttons)]
    refine ends_stop ?_
    unfold applyButtonsPart
    rw [resolveBaseline_fromStore hstore]
    exact ends_stop (way_missing hnone)

/-- **An update whose later baseline is missing** is refused once something was written. -/
theorem way_applyProfileUpdate {update : ProfileUpdate} (hlate : Late state device profile update policy) :
    ∃ e h', Way (applyProfileUpdateInner device profile update policy provided) state [] (.error e) h' ∧
      ¬ RefusedUnwritten e h' := by
  obtain ⟨hcomposite, ⟨identity, endpoint⟩, hopens, hlate⟩ := hlate
  obtain ⟨h₁, hopened⟩ := way_openLocked [] "apply_profile_update" hopens
  obtain ⟨e, h₂, hends, hrefused⟩ := way_applyParts provided identity.physicalId ⟨endpoint⟩ h₁ hlate
  refine ⟨e, h₂, ?_, hrefused⟩
  have hnonempty : update.isEmpty = false := by
    obtain ⟨-, -, ⟨hsome, -⟩ | ⟨hsome | hsome, -⟩⟩ := hlate <;>
      simp [ProfileUpdate.isEmpty, Option.isNone_eq_false_iff.2 hsome]
  have hnorate : ¬ (update.hasPolling = true ∧ update.hasNonRate = true) := by
    simp [ProfileUpdate.hasPolling, hcomposite.rate]
  unfold applyProfileUpdateInner
  refine ends_bind (ends_ensure hnonempty) (ends_bind (ends_ensure hnorate) (ends_bind (ends_ensure hcomposite.dpi)
    (ends_bind (ends_ensure hcomposite.preferences) (ends_bind hopened ?_))))
  rw [hcomposite.rate]
  exact hends

end Ways

/-- **When a composite update is validated first.**  Every call that ends for want of a baseline or of an image wrote
nothing, exactly when no later baseline is missing. -/
theorem refused_unwritten_iff [Crc32fast] (state : StateFile) (device : DeviceId) (profile : ProfileId)
    (update : ProfileUpdate) (policy : UpdatePolicy) (provided : Option ProfileUpdateBaseline) :
    (∀ e state' h, Goes (applyProfileUpdateInner device profile update policy provided) state (.error e) state' h →
      e.OfPart → ¬ SessionFailed h → writesOf h = []) ↔ ¬ Late state device profile update policy := by
  constructor
  · intro hall hlate
    obtain ⟨e, h, hway, hrefused⟩ := @way_applyProfileUpdate _ _ _ _ _ provided _ hlate
    refine hrefused fun he => ?_
    by_cases hsession : SessionFailed h
    · exact .inl hsession
    · exact .inr (hall e state h hway he hsession)
  · intro hlate e state' h hgoes he hsession
    rcases leads_applyProfileUpdate hlate state [] (.error e) state' h ⟨rfl, rfl, rfl⟩ hgoes he with hfailed | hnone
    · exact absurd hfailed hsession
    · exact hnone

namespace Rig

/-- A saved mouse of which only the DPI section of the first profile is on record. -/
def dpiOnly : StateFile :=
  holding (wired "a") .empty [(first, { ProfileState.empty with dpi := acknowledged (image (some (token 1)) first) })]

/-- Another stage and another debounce, against the store. -/
def stagesAndDebounce : ProfileUpdate :=
  { dpi := some { activeStage := some ⟨1, StageIndex.one_range⟩ }, preferences := some { debounce := some 4 } }

/-- A baseline was missing right after a load, once something was written. -/
def refusedLate {α : Type} (ended : Except ManagerError α × StateFile × History Backend) : Bool :=
  match ended with
  | (.error (.missingBaseline ..), _, ⟨.load, _⟩ :: before) => !(writesOf before).isEmpty
  | _ => false

/-- **A DPI image is written, and then the preferences have no baseline.** -/
theorem refused_written_dpiOnly : dpiOnly.validate = .ok () ∧
    ¬ ∀ (policy : UpdatePolicy) (provided : Option ProfileUpdateBaseline) (e : ManagerError) (state' : StateFile)
      (h : History Backend), Goes (applyProfileUpdateInner mouse1 first stagesAndDebounce policy provided) dpiOnly
        (.error e) state' h → e.OfPart → ¬ SessionFailed h → writesOf h = [] := by
  refine ⟨by decide +kernel, fun hall => ?_⟩
  have hrun : ((bench [(wired "a", unit fun _ => some (token 1))]).goes
      (applyProfileUpdateInner mouse1 first stagesAndDebounce { baseline := .stored } none) dpiOnly).any refusedLate =
        true := by decide +kernel
  obtain ⟨⟨r, state', h⟩, hgoes, hlate⟩ := (Option.any_eq_true ..).1 hrun
  unfold refusedLate at hlate
  split at hlate
  · next resource profile state answer before heq =>
    cases heq
    have hnone := hall _ _ _ _ _ (Bench.goes_ends hgoes) trivial (by rintro ⟨_, _, _, _, heq⟩; cases heq)
    have hsame : writesOf (⟨Op.load, answer⟩ :: before) = writesOf before := writesOf_looks rfl
    rw [hsame] at hnone
    simp [hnone] at hlate
  · cases hlate

end Rig
end AttackSharkX3
