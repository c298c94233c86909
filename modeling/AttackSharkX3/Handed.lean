import AttackSharkX3.Composite
import AttackSharkX3.Draft
/-!
# Handed — the images an update hands to the session

Each image is merged from a baseline: the one the update was given, or one of a state the call loaded.  What is merged, and
for which mouse it is stamped, is known from the call's own history, whatever else happens to the store.
-/
namespace AttackSharkX3

open Effects (Fallible Tries Either)
open Effects.Prog (Event History)

/-- **The stored baseline of a section**, or the captured image where that is allowed. -/
def StateFile.baseline {T : Type} (state : StateFile) (sect : Section T) (captured : ProfileId → Except ManagerError T)
    (device : DeviceId) (profile : ProfileId) (allow : Bool) : Option T :=
  (storedBaseline (state.resource sect device profile) allow).or (if allow then (captured profile).toOption else none)

/-- Nothing is recorded yet, and a state that was loaded opens the mouse there. -/
def OpenAt (device : DeviceId) (identity : DeviceIdentity) (endpoint : DeviceEndpoint) (h : History Backend) : Prop :=
  commitsOf h = [] ∧ ∃ state ∈ loads h, state.opens device = some (identity, endpoint)

/-- Where a baseline comes from: a state that was loaded, or the image that was given. -/
def Based {T : Type} (sect : Section T) (captured : ProfileId → Except ManagerError T) (device : DeviceId)
    (profile : ProfileId) (policy : UpdatePolicy) (transport : TransportKind) (given baseline : T)
    (h : History Backend) : Prop :=
  match policy.fromStore transport with
  | some allow => ∃ state ∈ loads h, state.baseline sect captured device profile allow = some baseline
  | none => baseline = given

/-- A baseline was found, and merged. -/
def Merged {T : Type} (sect : Section T) (captured : ProfileId → Except ManagerError T) (device : DeviceId)
    (profile : ProfileId) (policy : UpdatePolicy) (transport : TransportKind) (given : T)
    (merge : T → Except ManagerError T) (h : History Backend) : Prop :=
  ∃ baseline desired, Based sect captured device profile policy transport given baseline h ∧ merge baseline = .ok desired

section Rule

variable [Crc32fast] (device : DeviceId) (profile : ProfileId) (update : ProfileUpdate) (policy : UpdatePolicy)
  (provided : ProfileUpdateBaseline)

/-- The DPI part, where there is one, was merged. -/
def PassedDpi (identity : DeviceIdentity) (transport : TransportKind) (h : History Backend) : Prop :=
  ∀ delta ∈ update.dpi, Merged .dpi capturedEvidenceDpi device profile policy transport provided.dpi
    (stampedDpi delta identity.physicalId) h

/-- So were the preferences. -/
def PassedPreferences (transport : TransportKind) (h : History Backend) : Prop :=
  ∀ delta ∈ update.preferences, Merged .preferences (fun profile => .ok (capturedEvidencePreferences profile)) device
    profile policy transport provided.preferences (fun baseline => .ok (mergePreferencesDelta baseline delta)) h

/-- **The images a call may hand to a session**, each after the parts before it. -/
def HandsCall (before : History Backend) (endpoint : DeviceEndpoint) : SessionCall → Prop
  | .writeDpi image _ => ∃ identity, OpenAt device identity endpoint before ∧ ∃ delta ∈ update.dpi, ∃ baseline,
      Based .dpi capturedEvidenceDpi device profile policy endpoint.transport provided.dpi baseline before ∧
        stampedDpi delta identity.physicalId baseline = .ok image
  | .writePreferences image _ => ∃ identity, OpenAt device identity endpoint before ∧
      PassedDpi device profile update policy provided identity endpoint.transport before ∧ ∃ delta ∈ update.preferences,
      ∃ baseline, Based .preferences (fun profile => .ok (capturedEvidencePreferences profile)) device profile policy
          endpoint.transport provided.preferences baseline before ∧ mergePreferencesDelta baseline delta = image
  | .writeButtons image _ => ∃ identity, OpenAt device identity endpoint before ∧
      PassedDpi device profile update policy provided identity endpoint.transport before ∧
      PassedPreferences device profile update policy provided endpoint.transport before ∧ update.buttons ≠ [] ∧
      ∃ baseline, Based .buttons (fun profile => .ok (.defaultForProfile profile)) device profile policy
          endpoint.transport provided.buttons baseline before ∧ update.buttons.foldl ButtonsState.assign baseline = image
  | _ => True

def handedRule (before : History Backend) : Op → Prop
  | .session endpoint call => HandsCall device profile update policy provided before endpoint call
  | _ => True

end Rule

/-! ## Histories -/

theorem loads_cons {state : StateFile} {h : History Backend} (hs : state ∈ loads h) (ev : Event Backend) :
    state ∈ loads (ev :: h) := by
  unfold loads at *
  rw [List.filterMap_cons]
  split
  · exact hs
  · exact List.mem_cons_of_mem _ hs

theorem commitsOf_cons {o : Op} {r : o.Res} {h : History Backend} (ho : ∀ t, o ≠ .commit t) :
    commitsOf (⟨o, r⟩ :: h) = commitsOf h := by
  unfold commitsOf
  cases o with
  | commit t => exact absurd rfl (ho t)
  | _ => rfl

/-- What happens later leaves it, but for a commit. -/
def Grows (P : History Backend → Prop) : Prop := ∀ h (o : Op) r, (∀ t, o ≠ .commit t) → P h → P (⟨o, r⟩ :: h)

theorem Grows.and {P Q : History Backend → Prop} (hP : Grows P) (hQ : Grows Q) : Grows fun h => Q h ∧ P h :=
  fun h o r ho hh => ⟨hQ h o r ho hh.1, hP h o r ho hh.2⟩

section Tries

variable {device : DeviceId} {identity : DeviceIdentity} {endpoint : DeviceEndpoint} {h : History Backend}

theorem OpenAt.cons (ho : OpenAt device identity endpoint h) {o : Op} (hcommit : ∀ t, o ≠ .commit t) (r : o.Res) :
    OpenAt device identity endpoint (⟨o, r⟩ :: h) := by
  obtain ⟨hnone, state, hs, hopens⟩ := ho
  exact ⟨(commitsOf_cons hcommit).trans hnone, state, loads_cons hs _, hopens⟩

theorem grows_openAt : Grows (OpenAt device identity endpoint) := fun _ _ r ho hh => hh.cons ho r

theorem not_commit_of_looks {o : Op} (ho : o.looks = true) (t : Txn) : o ≠ .commit t := by
  rintro rfl
  cases ho

section Looking

variable {rule : History Backend → Op → Prop} {P : History Backend → Prop}

/-- A call that only looks leaves the session open, under a rule that lets it look. -/
theorem looking_only {α : Type} (may : ∀ h o, Op.looks o = true → rule h o) {x : Manager α} (hx : Looks x) (hP : Grows P) :
    Tries rule P x (fun _ => P) fun _ _ => True :=
  (hx.tries (fun h o ho _ => may h o ho) fun h o r ho => hP h o r (not_commit_of_looks ho)).mono (fun _ => id)
    (fun _ _ => id) fun _ _ _ => trivial

theorem looking_load (may : ∀ h o, Op.looks o = true → rule h o) (hP : Grows P) :
    Tries rule P Manager.load (fun state h => state ∈ loads h ∧ P h) fun _ _ => True := by
  refine .perform (fun h _ => may h .load rfl) fun h r hh => ?_
  cases (r : Except StateError StateFile) with
  | ok state => exact ⟨List.mem_cons_self, hP h _ _ (fun _ => nofun) hh⟩
  | error e => trivial

/-- **Opening a mouse.** -/
theorem looking_openLocked [Crc32fast] (may : ∀ h o, Op.looks o = true → rule h o) (operation : String) :
    Tries rule (fun h => commitsOf h = []) (openLocked device operation)
      (fun opened h => OpenAt device opened.1 opened.2.endpoint h) fun _ _ => True := by
  have hquiet : Grows fun h => commitsOf h = [] :=
    fun h o r ho hh => (commitsOf_cons ho).trans hh
  refine .bind (looking_only may (.perform rfl) hquiet) fun _ => .bind (looking_load may hquiet) fun state => ?_
  have hstable : Grows fun h => state ∈ loads h ∧ commitsOf h = [] :=
    fun h o r ho hh => ⟨loads_cons hh.1 _, hquiet h o r ho hh.2⟩
  refine .bind (Q := fun _ h => state.identitySetup.any (journalBlocksDevice · device) = false ∧
    state ∈ loads h ∧ commitsOf h = []) ?_ fun _ => .of_pure fun hfree => ?_
  · unfold refuseInvolved
    cases state.identitySetup with
    | none => exact .pure fun h hh => ⟨rfl, hh⟩
    | some journal => exact .ensure (fun hc h hh => ⟨hc, hh⟩) fun _ _ _ => trivial
  refine .bind (Q := fun deviceState h => state.devices[device]? = some deviceState ∧ state ∈ loads h ∧ commitsOf h = [])
    (.ofOption (fun _ hd _ hh => ⟨hd, hh⟩) fun _ _ _ => trivial) fun deviceState => .of_pure fun hdevice => ?_
  refine .bind (Q := fun endpoint h => deviceState.identity.selectedEndpoint = some endpoint ∧ state ∈ loads h ∧
    commitsOf h = []) (.ofOption (fun _ hd _ hh => ⟨hd, hh⟩) fun _ _ _ => trivial) fun endpoint => .of_pure fun hendpoint => ?_
  refine .bind (Q := fun session h => session = ⟨endpoint⟩ ∧ state ∈ loads h ∧ commitsOf h = [])
    (.perform (fun h _ => may h (.open_ endpoint) rfl) fun h r hh => ?_) fun session => .of_pure ?_
  · cases (r : Except ManagerError Unit) with
    | ok _ => exact ⟨rfl, hstable h _ _ (fun _ => nofun) hh⟩
    | error e => trivial
  rintro rfl
  have hgate : Looks (gateAttachment device deviceState.identity.physicalId endpoint ⟨endpoint⟩) := by
    unfold gateAttachment
    split
    · exact .bind looks_authenticateAttachment fun _ => .ensure
    · exact .pure
  refine .bind (looking_only may hgate hstable) fun _ => .pure fun h hh => ⟨hh.2, state, hh.1, ?_⟩
  simp [StateFile.opens, hfree, hdevice, hendpoint]

section Stored

variable {T : Type} {sect : Section T} {name : String} {captured : ProfileId → Except ManagerError T} {profile : ProfileId}

/-- What a loaded state has for a baseline. -/
theorem looking_value (state : StateFile) (allow : Bool) (e : ManagerError) :
    Tries rule P
      (match storedBaseline (state.resource sect device profile) allow with
        | some value => pure value
        | none => if allow then Fallible.ofExcept id (captured profile) else throw e : Manager T)
      (fun value h => state.baseline sect captured device profile allow = some value ∧ P h) fun _ _ => True := by
  cases hstored : storedBaseline (state.resource sect device profile) allow with
  | some value =>
    refine .pure fun h hh => ⟨?_, hh⟩
    simp [StateFile.baseline, hstored]
  | none =>
    cases allow with
    | false => exact .throw fun _ _ => trivial
    | true =>
      refine .ofExcept (fun value hvalue h hh => ⟨?_, hh⟩) fun _ _ _ _ => trivial
      simp [StateFile.baseline, hstored, hvalue, Except.toOption]

/-- **A stored baseline** is one a loaded state has. -/
theorem looking_stored (may : ∀ h o, Op.looks o = true → rule h o) (hP : Grows P) (allow : Bool) :
    Tries rule P (loadStoredBaseline sect name captured device profile allow)
      (fun value h => (∃ state ∈ loads h, state.baseline sect captured device profile allow = some value) ∧ P h)
      fun _ _ => True :=
  .bind (looking_load may hP) fun state => Tries.then_ (looking_value state allow _) fun _ _ hh =>
    ⟨⟨state, hh.2.1, hh.1⟩, hh.2.2⟩

end Stored

end Looking

variable [Crc32fast] {profile : ProfileId} {update : ProfileUpdate} {policy : UpdatePolicy}
  {provided : ProfileUpdateBaseline} {α : Type}

/-- What only looks may always be done. -/
theorem handedRule_looks (h : History Backend) (o : Op) (ho : o.looks = true) :
    handedRule device profile update policy provided h o := by
  cases o with
  | session endpoint call =>
    cases call with
    | writeDpi | writePreferences | writeButtons => cases ho
    | _ => trivial
  | _ => trivial

/-! ## Parts -/

section Part

variable {T : Type} {sect : Section T} {name : String} {captured : ProfileId → Except ManagerError T} {given : T}
  {P : History Backend → Prop}

omit [Crc32fast] in
theorem grows_based {transport : TransportKind} {value : T} :
    Grows (Based sect captured device profile policy transport given value) := by
  intro h o r _ hbased
  unfold Based at *
  split
  · next allow hfrom =>
    rw [hfrom] at hbased
    obtain ⟨state, hstate, hbaseline⟩ := hbased
    exact ⟨state, loads_cons hstate _, hbaseline⟩
  · next hfrom =>
    rw [hfrom] at hbased
    exact hbased

omit [Crc32fast] in
theorem grows_merged {transport : TransportKind} {merge : T → Except ManagerError T} :
    Grows (Merged sect captured device profile policy transport given merge) := by
  rintro h o r ho ⟨baseline, desired, hbased, hmerge⟩
  exact ⟨baseline, desired, grows_based h o r ho hbased, hmerge⟩

/-- **The baseline of a part** is one a loaded state has, or the one that was given. -/
theorem handed_baseline (hP : Grows P) {transport : TransportKind} {get : ProfileUpdateBaseline → T} {read : Manager T} :
    Tries (handedRule device profile update policy provided) P
      (resolveBaseline transport policy (loadStoredBaseline sect name captured device profile)
        (liveBaseline (some provided) get read))
      (fun value h => Based sect captured device profile policy transport (get provided) value h ∧ P h)
      fun _ _ => True := by
  unfold Based
  cases hfrom : policy.fromStore transport with
  | some allow =>
    rw [resolveBaseline_fromStore hfrom]
    exact looking_stored handedRule_looks hP allow
  | none =>
    rw [resolveBaseline_live hfrom]
    exact .pure fun h hh => ⟨rfl, hh⟩

/-- **A part of an update**: its baseline, merged and sent. -/
theorem handed_part (hP : Grows P) {transport : TransportKind} {get : ProfileUpdateBaseline → T} {read : Manager T}
    {send : T → Manager (SessionWrite T)} (merge : T → Except ManagerError T)
    (hsend : ∀ baseline desired, merge baseline = .ok desired → Tries (handedRule device profile update policy provided)
      (fun h => Based sect captured device profile policy transport (get provided) baseline h ∧ P h) (send desired)
      (fun _ h => Based sect captured device profile policy transport (get provided) baseline h ∧ P h) fun _ _ => True) :
    Tries (handedRule device profile update policy provided) P
      (do
        let baseline ← resolveBaseline transport policy (loadStoredBaseline sect name captured device profile)
          (liveBaseline (some provided) get read)
        let desired ← Fallible.ofExcept id (merge baseline)
        let write ← send desired
        return (desired, write))
      (fun _ h => Merged sect captured device profile policy transport (get provided) merge h ∧ P h) fun _ _ => True := by
  refine .bind (handed_baseline hP) fun baseline => ?_
  refine .bind (Q := fun desired h => merge baseline = .ok desired ∧
    Based sect captured device profile policy transport (get provided) baseline h ∧ P h)
    (.ofExcept (fun desired hd h hh => ⟨hd, hh⟩) fun _ _ _ _ => trivial) fun desired => .of_pure fun hmerge => ?_
  exact .bind (hsend baseline desired hmerge) fun write => .pure fun h hh => ⟨⟨baseline, desired, hh.1, hmerge⟩, hh.2⟩

/-- A call to the session that may be made. -/
theorem handed_call (hP : Grows P) {session : Session} {call : SessionCall}
    (may : ∀ h, P h → HandsCall device profile update policy provided h session.endpoint call) :
    Tries (handedRule device profile update policy provided) P (session.call call) (fun _ => P) fun _ _ => True := by
  refine .perform may fun h r hh => ?_
  cases (r : Except ManagerError call.Value) with
  | ok value => exact hP h (.session session.endpoint call) _ (fun _ => nofun) hh
  | error e => trivial

end Part

variable {physicalId : Option PhysicalId} {session : Session} {P : History Backend → Prop}

theorem handed_applyDpiPart {delta : DpiDelta} (hdelta : delta ∈ update.dpi) (hP : Grows P)
    (hopen : ∀ h, P h → OpenAt device identity session.endpoint h) :
    Tries (handedRule device profile update policy provided) P
      (applyDpiPart device profile delta identity.physicalId policy (some provided) session)
      (fun _ h => Merged .dpi capturedEvidenceDpi device profile policy session.transport provided.dpi
        (stampedDpi delta identity.physicalId) h ∧ P h) fun _ _ => True := by
  rw [applyDpiPart_eq]
  refine handed_part hP _ fun baseline desired hmerge => handed_call (hP.and grows_based) fun h hh => ?_
  exact ⟨identity, hopen h hh.2, delta, hdelta, baseline, hh.1, hmerge⟩

theorem handed_applyPreferencesPart {delta : PreferencesDelta} (hdelta : delta ∈ update.preferences) (hP : Grows P)
    (hopen : ∀ h, P h → OpenAt device identity session.endpoint h ∧
      PassedDpi device profile update policy provided identity session.transport h) :
    Tries (handedRule device profile update policy provided) P
      (applyPreferencesPart device profile delta policy (some provided) session)
      (fun _ h => Merged .preferences (fun profile => .ok (capturedEvidencePreferences profile)) device profile policy
        session.transport provided.preferences (fun baseline => .ok (mergePreferencesDelta baseline delta)) h ∧ P h)
      fun _ _ => True := by
  rw [applyPreferencesPart_eq]
  refine handed_part hP (fun baseline => .ok (mergePreferencesDelta baseline delta)) fun baseline desired hmerge =>
    handed_call (hP.and grows_based) fun h hh => ?_
  obtain ⟨hopen, hpassed⟩ := hopen h hh.2
  exact ⟨identity, hopen, hpassed, delta, hdelta, baseline, hh.1, Except.ok.inj hmerge⟩

theorem handed_applyButtonsPart (hdeltas : update.buttons ≠ []) (hP : Grows P)
    (hopen : ∀ h, P h → OpenAt device identity session.endpoint h ∧
      PassedDpi device profile update policy provided identity session.transport h ∧
      PassedPreferences device profile update policy provided session.transport h) :
    Tries (handedRule device profile update policy provided) P
      (applyButtonsPart device profile update.buttons policy (some provided) session) (fun _ => P) fun _ _ => True := by
  rw [applyButtonsPart_eq]
  refine Tries.then_ (handed_part hP (fun baseline => .ok (update.buttons.foldl ButtonsState.assign baseline))
    fun baseline desired hmerge => handed_call (hP.and grows_based) fun h hh => ?_) fun _ _ hh => hh.2
  obtain ⟨hopen, hpassed, hpassed'⟩ := hopen h hh.2
  exact ⟨identity, hopen, hpassed, hpassed', hdeltas, baseline, hh.1, Except.ok.inj hmerge⟩

/-- A part that may be left out: what it leaves holds for each update there is of it. -/
theorem handed_optionally {D A : Type} {M : D → History Backend → Prop} {part : Option D} {apply : D → Manager A}
    (happly : ∀ d ∈ part, Tries (handedRule device profile update policy provided) P (apply d) (fun _ h => M d h ∧ P h)
      fun _ _ => True) :
    Tries (handedRule device profile update policy provided) P (optionally part apply)
      (fun _ h => (∀ d ∈ part, M d h) ∧ P h) fun _ _ => True := by
  cases part with
  | none => exact .pure fun h hh => ⟨fun _ => nofun, hh⟩
  | some d =>
    refine .bind (happly d rfl) fun _ => .pure fun h hh => ⟨?_, hh.2⟩
    rintro d' ⟨⟩
    exact hh.1

/-- No image is handed over by such an operation. -/
def Op.handsNone : Op → Bool
  | .session _ (.writeDpi ..) | .session _ (.writePreferences ..) | .session _ (.writeButtons ..) => false
  | _ => true

/-- What hands no image over may always be done. -/
theorem handed_none {x : Manager α} (hx : Fallible.Only (S := Backend) (fun o => o.handsNone = true) x)
    {P : History Backend → Prop} :
    Tries (handedRule device profile update policy provided) P x (fun _ _ => True) fun _ _ => True := by
  refine Tries.before (hx.tries (P := fun _ => True) (fun h o ho _ => ?_) fun _ _ _ _ _ => trivial) fun _ _ => trivial
  cases o with
  | session endpoint call =>
    cases call with
    | writeDpi | writePreferences | writeButtons => cases ho
    | _ => trivial
  | _ => trivial

theorem handed_applyParts :
    Tries (handedRule device profile update policy provided) (OpenAt device identity session.endpoint)
      (applyParts device profile update policy (some provided) identity.physicalId session) (fun _ _ => True)
      fun _ _ => True := by
  have hdpi : Grows (PassedDpi device profile update policy provided identity session.transport) :=
    fun h o r ho hh delta hdelta => grows_merged h o r ho (hh delta hdelta)
  have hpreferences : Grows (PassedPreferences device profile update policy provided session.transport) :=
    fun h o r ho hh delta hdelta => grows_merged h o r ho (hh delta hdelta)
  refine .bind (handed_optionally fun delta hdelta => handed_applyDpiPart hdelta grows_openAt fun _ => id) fun dpi => ?_
  refine .bind (handed_optionally fun delta hdelta =>
    handed_applyPreferencesPart hdelta (grows_openAt.and hdpi) fun h hh => ⟨hh.2, hh.1⟩) fun preferences => ?_
  refine .bind (handed_optionally (M := fun _ _ => True) fun deltas hdeltas => ?_) fun buttons => handed_none ?_
  · by_cases hempty : update.buttons.isEmpty = true
    · simp [hempty] at hdeltas
    · rw [if_neg hempty] at hdeltas
      cases hdeltas
      refine Tries.then_ (handed_applyButtonsPart (fun hnil => hempty (by rw [hnil]; rfl))
        ((grows_openAt.and hdpi).and hpreferences) fun h hh => ⟨hh.2.2, hh.2.1, hh.1⟩) fun _ _ hh => ⟨trivial, hh⟩
  · refine .bind (.perform rfl) fun now => .bind (.perform rfl) fun outcome => ?_
    have hfinish : ∀ {T : Type} [DecidableEq T] (part : Option (WriteOutcome T)) (name : String),
        Fallible.Only (S := Backend) (fun o => o.handsNone = true)
          (optionally part fun out => Fallible.ofExcept id (finishWrite out name profile)) := by
      intro T _ part name
      cases part with
      | none => exact .pure
      | some out => exact .bind .ofExcept fun _ => .pure
    exact .bind (hfinish outcome.dpi "DPI") fun _ => .bind (hfinish outcome.preferences "preferences") fun _ =>
      .bind (hfinish outcome.buttons "buttons") fun _ => .pure

/-- **A composite update hands over its own parts only**, each merged from its baseline. -/
theorem handed_applyProfileUpdateFromSnapshot (hrate : update.pollingRate = none) :
    Tries (handedRule device profile update policy provided) (fun h => commitsOf h = [])
      (applyProfileUpdateFromSnapshot device profile update policy provided) (fun _ _ => True) fun _ _ => True := by
  have hensure : ∀ {c : Prop} [Decidable c] {e : ManagerError},
      Tries (handedRule device profile update policy provided) (fun h => commitsOf h = [])
        (Fallible.ensure c e : Manager Unit) (fun _ h => commitsOf h = []) fun _ _ => True :=
    .ensure (fun _ _ => id) fun _ _ _ => trivial
  refine .bind hensure fun _ => ?_
  refine .bind hensure fun _ => .bind hensure fun _ => .bind hensure fun _ => .bind hensure fun _ => ?_
  refine .bind (looking_openLocked handedRule_looks "apply_profile_update") fun opened => ?_
  rw [hrate]
  exact handed_applyParts

end Tries
end AttackSharkX3
