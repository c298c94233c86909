import AttackSharkX3.Bench
import AttackSharkX3.Handed
import AttackSharkX3.OnePart
import AttackSharkX3.Report.DpiCodec
/-!
# DpiEdits — what a sparse DPI update writes

Three calls merge a delta into a baseline, read from the mouse, given with the draft or taken from the store.  Each writes one
image at most: the baseline, with the delta's value in each field the delta names, under the mouse's own watermark.
-/
namespace AttackSharkX3

open Effects (Fallible Tries Either)
open Effects.Prog (Event History Ends Kept)
open DpiReport (Selects)

/-! ## Deltas -/

/-- What the second delta names, and what only the first does. -/
def SensorOptionsDelta.override (first second : SensorOptionsDelta) : SensorOptionsDelta where
  liftOffDistance := second.liftOffDistance.or first.liftOffDistance
  rippleControl := second.rippleControl.or first.rippleControl
  angleSnap := second.angleSnap.or first.angleSnap
  motionSync := second.motionSync.or first.motionSync

/-- **The field-wise override of a delta by another**, within the sensor's fields too. -/
def DpiDelta.override (first second : DpiDelta) : DpiDelta where
  stages := second.stages.or first.stages
  activeStage := second.activeStage.or first.activeStage
  sensor := Option.merge SensorOptionsDelta.override first.sensor second.sensor

/-- What a delta names of the sensor's fields. -/
def DpiDelta.names {V : Type} (delta : DpiDelta) (field : SensorOptionsDelta → Option V) : Option V :=
  delta.sensor.bind field

theorem DpiDelta.names_override {V : Type} {field : SensorOptionsDelta → Option V}
    (hfield : ∀ a b, field (SensorOptionsDelta.override a b) = (field b).or (field a)) (first second : DpiDelta) :
    (first.override second).names field = (second.names field).or (first.names field) := by
  unfold DpiDelta.names DpiDelta.override
  cases first.sensor with
  | none => cases second.sensor <;> simp
  | some a =>
    cases second.sensor with
    | none => simp
    | some b => simp [hfield]

/-- An override names nothing only where neither delta does. -/
theorem DpiDelta.isEmpty_override (first second : DpiDelta) :
    (first.override second).isEmpty = (first.isEmpty && second.isEmpty) := by
  obtain ⟨stages, activeStage, sensor⟩ := first
  obtain ⟨stages', activeStage', sensor'⟩ := second
  have hor : ∀ {V : Type} (upper lower : Option V), (upper.or lower).isNone = (lower.isNone && upper.isNone) := by
    intro V upper lower
    cases upper <;> cases lower <;> rfl
  have hsensor : (Option.merge SensorOptionsDelta.override sensor sensor').all (·.isEmpty) =
      (sensor.all (·.isEmpty) && sensor'.all (·.isEmpty)) := by
    cases sensor with
    | none => cases sensor' <;> simp
    | some a =>
      cases sensor' with
      | none => simp
      | some b =>
        simp only [Option.merge_some_some, Option.all_some, SensorOptionsDelta.isEmpty, SensorOptionsDelta.override, hor]
        ac_rfl
  simp only [isEmpty, override, hor, hsensor]
  ac_rfl

theorem getD_or {V : Type} (upper lower : Option V) (base : V) :
    (upper.or lower).getD base = upper.getD (lower.getD base) := by
  cases upper <;> rfl

variable [Crc32fast]

/-- **The image a delta makes of a baseline**: the delta's value where it names one, the baseline's elsewhere, and the tail of
the mouse, if it has one of its own. -/
structure DpiDelta.Edits (delta : DpiDelta) (baseline : DpiState) (physicalId : Option PhysicalId) (image : DpiState) :
    Prop where
  valid : Selects image
  profile : image.profile = baseline.profile
  stages : image.stages = delta.stages.getD baseline.stages
  activeStage : image.activeStage = delta.activeStage.getD baseline.activeStage
  liftOffDistance : image.sensor.liftOffDistance = (delta.names (·.liftOffDistance)).getD baseline.sensor.liftOffDistance
  rippleControl : image.sensor.rippleControl = (delta.names (·.rippleControl)).getD baseline.sensor.rippleControl
  angleSnap : image.sensor.angleSnap = (delta.names (·.angleSnap)).getD baseline.sensor.angleSnap
  motionSync : image.sensor.motionSync = (delta.names (·.motionSync)).getD baseline.sensor.motionSync
  tail : image.preservedTail = physicalId.elim baseline.preservedTail (·.toWatermarkBytes)

omit [Crc32fast] in
theorem dpiState_new_ok {profile : ProfileId} {stages : List DpiValue} {activeStage : StageIndex} {tail : Tail} {state : DpiState} :
    DpiState.new profile stages activeStage tail = .ok state ↔
      state = ⟨profile, stages, activeStage, {}, tail⟩ ∧ Selects state := by
  unfold DpiState.new
  cases hcheck : validateStageSelection stages.length activeStage with
  | error e =>
    refine ⟨fun h => (nomatch h), ?_⟩
    rintro ⟨rfl, hselects⟩
    rw [validateStageSelection_ok.2 hselects] at hcheck
    cases hcheck
  | ok u =>
    have hselects := validateStageSelection_ok.1 hcheck
    constructor
    · intro h
      cases h
      exact ⟨rfl, hselects⟩
    · rintro ⟨rfl, -⟩
      rfl

omit [Crc32fast] in
/-- A merge is the baseline with the delta over it, where the stages and the active one fit. -/
theorem mergeDpiDelta_ok {baseline merged : DpiState} {delta : DpiDelta} :
    mergeDpiDelta baseline delta = .ok merged ↔
      merged = ⟨baseline.profile, delta.stages.getD baseline.stages, delta.activeStage.getD baseline.activeStage,
        delta.sensor.elim baseline.sensor baseline.sensor.merge, baseline.preservedTail⟩ ∧ Selects merged := by
  unfold mergeDpiDelta
  cases hnew : DpiState.new baseline.profile (delta.stages.getD baseline.stages)
    (delta.activeStage.getD baseline.activeStage) baseline.preservedTail with
  | error e =>
    refine ⟨fun h => (nomatch h), ?_⟩
    rintro ⟨rfl, hselects⟩
    rw [dpiState_new_ok.2 ⟨rfl, hselects⟩] at hnew
    cases hnew
  | ok selected =>
    obtain ⟨rfl, hselects⟩ := dpiState_new_ok.1 hnew
    constructor
    · intro h
      cases h
      exact ⟨rfl, hselects⟩
    · rintro ⟨rfl, -⟩
      rfl

omit [Crc32fast] in
/-- The sensor's fields under a delta. -/
theorem merge_sensor (delta : DpiDelta) (sensor : SensorOptions) :
    delta.sensor.elim sensor sensor.merge = ⟨(delta.names (·.liftOffDistance)).getD sensor.liftOffDistance,
      (delta.names (·.rippleControl)).getD sensor.rippleControl, (delta.names (·.angleSnap)).getD sensor.angleSnap,
      (delta.names (·.motionSync)).getD sensor.motionSync⟩ := by
  unfold DpiDelta.names
  cases delta.sensor <;> rfl

/-- **The image that is sent is the one the delta makes.** -/
theorem stampedDpi_edits {delta : DpiDelta} {physicalId : Option PhysicalId} {baseline image : DpiState} :
    stampedDpi delta physicalId baseline = .ok image ↔ delta.Edits baseline physicalId image := by
  have htail : ∀ merged : DpiState, withPhysicalWatermark merged physicalId =
      { merged with preservedTail := physicalId.elim merged.preservedTail (·.toWatermarkBytes) } := by
    intro merged
    cases physicalId <;> rfl
  unfold stampedDpi
  constructor
  · intro h
    cases hmerge : mergeDpiDelta baseline delta with
    | error e =>
      rw [hmerge] at h
      cases h
    | ok merged =>
      rw [hmerge] at h
      have himage : withPhysicalWatermark merged physicalId = image := Except.ok.inj h
      obtain ⟨rfl, hselects⟩ := mergeDpiDelta_ok.1 hmerge
      rw [htail, merge_sensor] at himage
      subst himage
      exact ⟨hselects, rfl, rfl, rfl, rfl, rfl, rfl, rfl, rfl⟩
  · intro h
    obtain ⟨profile, stages, activeStage, ⟨lift, ripple, angle, motion⟩, tail⟩ := image
    obtain ⟨hselects, rfl, rfl, rfl, rfl, rfl, rfl, rfl, rfl⟩ := h
    rw [mergeDpiDelta_ok.2 ⟨rfl, hselects⟩, merge_sensor]
    exact congrArg Except.ok (htail _)

omit [Crc32fast] in
theorem elim_elim {V : Type} (x : Option V) (base : Tail) (f : V → Tail) : x.elim (x.elim base f) f = x.elim base f := by
  cases x <;> rfl

/-- **One delta after another is their override.** -/
theorem DpiDelta.Edits.trans {first second : DpiDelta} {physicalId : Option PhysicalId} {baseline image image' : DpiState}
    (h : first.Edits baseline physicalId image) (h' : second.Edits image physicalId image') :
    (first.override second).Edits baseline physicalId image' where
  valid := h'.valid
  profile := h'.profile.trans h.profile
  stages := by rw [h'.stages, h.stages, override, getD_or]
  activeStage := by rw [h'.activeStage, h.activeStage, override, getD_or]
  liftOffDistance := by rw [h'.liftOffDistance, h.liftOffDistance, names_override fun _ _ => rfl, getD_or]
  rippleControl := by rw [h'.rippleControl, h.rippleControl, names_override fun _ _ => rfl, getD_or]
  angleSnap := by rw [h'.angleSnap, h.angleSnap, names_override fun _ _ => rfl, getD_or]
  motionSync := by rw [h'.motionSync, h.motionSync, names_override fun _ _ => rfl, getD_or]
  tail := by rw [h'.tail, h.tail, elim_elim]

/-! ## The calls -/

/-- **The calls that apply a DPI delta**, alone or with the rest of a composite update. -/
inductive DpiCall where
  | updateDpiDelta (delta : DpiDelta)
  | applyProfileUpdate (update : ProfileUpdate)
  | applyProfileUpdateFromSnapshot (update : ProfileUpdate) (baseline : ProfileUpdateBaseline)

namespace DpiCall

def Value : DpiCall → Type
  | updateDpiDelta _ => WriteOutcome DpiState
  | applyProfileUpdate _ | applyProfileUpdateFromSnapshot .. => ProfileUpdateOutcome

def operation (device : DeviceId) (profile : ProfileId) (policy : UpdatePolicy) : (call : DpiCall) → Manager call.Value
  | updateDpiDelta delta => AttackSharkX3.updateDpiDelta device profile delta policy
  | applyProfileUpdate update => AttackSharkX3.applyProfileUpdate device profile update policy
  | applyProfileUpdateFromSnapshot update baseline =>
    AttackSharkX3.applyProfileUpdateFromSnapshot device profile update policy baseline

/-- The delta that is asked for. -/
def delta : DpiCall → Option DpiDelta
  | updateDpiDelta delta => some delta
  | applyProfileUpdate update | applyProfileUpdateFromSnapshot update _ => update.dpi

/-- The baseline that is given with it. -/
def provided : DpiCall → Option ProfileUpdateBaseline
  | updateDpiDelta _ | applyProfileUpdate _ => none
  | applyProfileUpdateFromSnapshot _ baseline => some baseline

end DpiCall

/-- The DPI images sent, with the answers, the newest first. -/
def dpiWrites (h : History Backend) : History Backend := h.filter fun ev => Op.writesDpi ev.1

section Rule

variable (call : DpiCall) (device : DeviceId) (profile : ProfileId) (policy : UpdatePolicy)

/-- **Where a DPI baseline comes from**: the store as it was just loaded, the draft's image, or what the mouse just read out. -/
def DpiCall.Based (endpoint : DeviceEndpoint) (baseline : DpiState) (h : History Backend) : Prop :=
  match policy.fromStore endpoint.transport, call.provided with
  | some allow, _ => ∃ state, h.head? = some (Did.load (.ok state)) ∧
      state.baseline .dpi capturedEvidenceDpi device profile allow = some baseline
  | none, some provided => baseline = provided.dpi
  | none, none => h.head? = some (Did.session endpoint (.readDpi profile) (.ok baseline))

/-- **The image a call may send**: the first of the call, and what its delta makes of a baseline for the mouse it opened. -/
def DpiCall.Sends (before : History Backend) (endpoint : DeviceEndpoint) (image : DpiState)
    (verification : VerificationMethod) : Prop :=
  dpiWrites before = [] ∧ verification = policy.verification ∧ ∃ identity delta baseline,
    OpenAt device identity endpoint before ∧ call.delta = some delta ∧
      call.Based device profile policy endpoint baseline before ∧ delta.Edits baseline identity.physicalId image

def dpiRule (before : History Backend) : Op → Prop
  | .session endpoint (.writeDpi image verification) => call.Sends device profile policy before endpoint image verification
  | _ => True

/-- **What a call did of DPI writes**: none, and then it failed or there was no delta; or one, that it may make. -/
def DpiCall.Wrote (result : Except ManagerError call.Value) (h : History Backend) : Prop :=
  (dpiWrites h = [] ∧ (call.delta ≠ none → ∃ e, result = .error e)) ∨
    ∃ endpoint image verification r before, dpiWrites h = [Did.session endpoint (.writeDpi image verification) r] ∧
      Did.session endpoint (.writeDpi image verification) r :: before <:+ h ∧
        call.Sends device profile policy before endpoint image verification

end Rule

/-! ### Steps -/

section Steps

variable {call : DpiCall} {device : DeviceId} {profile : ProfileId} {policy : UpdatePolicy} {α : Type}

omit [Crc32fast] in
theorem writesDpi_of_looks {o : Op} (ho : o.looks = true) : o.writesDpi = false := by
  cases o with
  | session endpoint call =>
    cases call with
    | writeDpi => cases ho
    | _ => rfl
  | _ => rfl

theorem dpiRule_quiet {o : Op} (ho : o.writesDpi = false) (h : History Backend) : dpiRule call device profile policy h o := by
  cases o with
  | session endpoint call =>
    cases call with
    | writeDpi => cases ho
    | _ => trivial
  | _ => trivial

theorem dpiRule_looks (h : History Backend) (o : Op) (ho : o.looks = true) : dpiRule call device profile policy h o :=
  dpiRule_quiet (writesDpi_of_looks ho) h

/-- Nothing of it writes DPI. -/
abbrev Quiet (x : Manager α) : Prop := Fallible.Only (S := Backend) (fun o => o.writesDpi = false) x

omit [Crc32fast] in
theorem Quiet.of_looks {x : Manager α} (hx : Looks x) : Quiet x := hx.mono fun _ => writesDpi_of_looks

omit [Crc32fast] in
theorem dpiWrites_quiet {o : Op} (ho : o.writesDpi = false) (r : o.Res) (h : History Backend) :
    dpiWrites (⟨o, r⟩ :: h) = dpiWrites h :=
  List.filter_cons_of_neg (by simp [ho])

/-- What writes no DPI leaves what was written. -/
theorem Quiet.tries {x : Manager α} (hx : Quiet x) (written : History Backend → Prop) :
    Tries (dpiRule call device profile policy) (fun h => written (dpiWrites h)) x (fun _ h => written (dpiWrites h))
      fun _ _ => True := by
  refine Tries.mono (Fallible.Only.tries hx (fun h o ho _ => dpiRule_quiet ho h) fun h o r ho hh => ?_)
    (fun _ => id) (fun _ _ => id) fun _ _ _ => trivial
  rw [dpiWrites_quiet ho]
  exact hh

/-- The mouse is open, and no image was sent yet. -/
def Unwritten (device : DeviceId) (identity : DeviceIdentity) (endpoint : DeviceEndpoint) (h : History Backend) : Prop :=
  dpiWrites h = [] ∧ OpenAt device identity endpoint h

omit [Crc32fast] in
theorem Unwritten.looks {identity : DeviceIdentity} {endpoint : DeviceEndpoint} {h : History Backend} {o : Op}
    (hh : Unwritten device identity endpoint h) (ho : o.looks = true) (r : o.Res) :
    Unwritten device identity endpoint (⟨o, r⟩ :: h) :=
  ⟨(dpiWrites_quiet (writesDpi_of_looks ho) r h).trans hh.1, hh.2.cons (not_commit_of_looks ho) r⟩

theorem edits_openLocked (operation : String) :
    Tries (dpiRule call device profile policy) (fun h => h = []) (openLocked device operation)
      (fun opened h => Unwritten device opened.1 opened.2.endpoint h) fun _ _ => True := by
  refine Tries.mono (Tries.and (Quiet.tries (Quiet.of_looks looks_openLocked) fun written => written = [])
    (looking_openLocked dpiRule_looks operation)) (fun h hh => ?_) (fun _ _ => id) fun _ _ _ => trivial
  subst hh
  exact ⟨rfl, rfl⟩

variable {identity : DeviceIdentity} {session : Session}

/-- **The baseline** is looked up last before the image is sent. -/
theorem edits_baseline :
    Tries (dpiRule call device profile policy) (Unwritten device identity session.endpoint)
      (resolveBaseline session.transport policy (loadStoredDpiBaseline device profile)
        (liveBaseline call.provided (·.dpi) (session.readDpi profile)))
      (fun baseline h => call.Based device profile policy session.endpoint baseline h ∧
        Unwritten device identity session.endpoint h) fun _ _ => True := by
  unfold DpiCall.Based
  cases hfrom : policy.fromStore session.endpoint.transport with
  | some allow =>
    have hstore : policy.fromStore session.transport = some allow := hfrom
    rw [resolveBaseline_fromStore hstore]
    refine .bind (Q := fun state h => h.head? = some (Did.load (.ok state)) ∧ Unwritten device identity session.endpoint h)
      (.perform (fun _ _ => trivial) fun h r hh => ?_) fun state => ?_
    · cases (r : Except StateError StateFile) with
      | ok state => exact ⟨rfl, hh.looks rfl _⟩
      | error e => trivial
    · exact Tries.then_ (looking_value state allow _) fun _ _ hh => ⟨⟨state, hh.2.1, hh.1⟩, hh.2.2⟩
  | none =>
    have hlive : policy.fromStore session.transport = none := hfrom
    rw [resolveBaseline_live hlive]
    cases call.provided with
    | some provided => exact .pure fun h hh => ⟨rfl, hh⟩
    | none =>
      refine .perform (fun _ _ => trivial) fun h r hh => ?_
      cases (r : Except ManagerError DpiState) with
      | ok baseline => exact ⟨rfl, hh.looks rfl _⟩
      | error e => trivial

/-- **The write**: the image of the delta over the baseline. -/
theorem edits_write {delta : DpiDelta} {baseline image : DpiState} (hdelta : call.delta = some delta)
    (hedits : delta.Edits baseline identity.physicalId image) :
    Tries (dpiRule call device profile policy)
      (fun h => call.Based device profile policy session.endpoint baseline h ∧ Unwritten device identity session.endpoint h)
      (session.writeDpi image policy.verification) (fun _ h => dpiWrites h ≠ []) fun _ _ => True := by
  refine .perform (fun h hh => ⟨hh.2.1, rfl, identity, delta, baseline, hh.2.2, hdelta, hh.1, hedits⟩) fun h r hh => ?_
  cases (r : Except ManagerError (SessionWrite DpiState)) with
  | ok write =>
    have hcons : dpiWrites (⟨Op.session session.endpoint (.writeDpi image policy.verification), .ok write⟩ :: h) =
        ⟨Op.session session.endpoint (.writeDpi image policy.verification), .ok write⟩ :: dpiWrites h :=
      List.filter_cons_of_pos rfl
    show dpiWrites (⟨Op.session session.endpoint (.writeDpi image policy.verification), .ok write⟩ :: h) ≠ []
    rw [hcons]
    exact List.cons_ne_nil _ _
  | error e => trivial

/-- A merged image, under the mouse's watermark, is the one the delta makes. -/
theorem edits_of_merge {delta : DpiDelta} {baseline desired : DpiState} {physicalId : Option PhysicalId}
    (hmerge : mergeDpiDelta baseline delta = .ok desired) :
    delta.Edits baseline physicalId (withPhysicalWatermark desired physicalId) := by
  apply stampedDpi_edits.1
  unfold stampedDpi
  rw [hmerge]
  rfl

omit [Crc32fast] in
/-- What is left to do after the image was sent. -/
theorem quiet_finish {T : Type} [DecidableEq T] {out : WriteOutcome T} {name : String} :
    Quiet (Fallible.ofExcept id (finishWrite out name profile)) := .ofExcept

omit [Crc32fast] in
theorem Quiet.optionally {D A : Type} {part : Option D} {apply : D → Manager A} (happly : ∀ d, Quiet (apply d)) :
    Quiet (optionally part apply) := by
  cases part with
  | none => exact .pure
  | some d => exact .bind (happly d) fun _ => .pure

theorem edits_updateDpiDelta (delta : DpiDelta) :
    Tries (dpiRule (.updateDpiDelta delta) device profile policy) (fun h => h = [])
      (updateDpiDelta device profile delta policy) (fun _ h => dpiWrites h ≠ []) fun _ _ => True := by
  refine .bind (.ensure (fun _ _ => id) fun _ _ _ => trivial) fun _ => .bind (edits_openLocked _) fun opened => ?_
  obtain ⟨identity, session⟩ := opened
  refine .bind edits_baseline fun baseline => ?_
  refine .bind (Q := fun desired h => mergeDpiDelta baseline delta = .ok desired ∧
    (DpiCall.updateDpiDelta delta).Based device profile policy session.endpoint baseline h ∧
      Unwritten device identity session.endpoint h)
    (.ofExcept (fun desired hd h hh => ⟨hd, hh⟩) fun _ _ _ _ => trivial) fun desired => .of_pure fun hmerge => ?_
  refine .bind (edits_write rfl (edits_of_merge hmerge)) fun write => ?_
  exact Quiet.tries (.bind (.perform rfl) fun now => .bind (.perform rfl) fun outcome => quiet_finish)
    fun written => written ≠ []

theorem edits_applyDpiPart {delta : DpiDelta} (hdelta : call.delta = some delta) :
    Tries (dpiRule call device profile policy) (Unwritten device identity session.endpoint)
      (applyDpiPart device profile delta identity.physicalId policy call.provided session)
      (fun _ h => dpiWrites h ≠ []) fun _ _ => True := by
  refine .bind edits_baseline fun baseline => ?_
  refine .bind (Q := fun desired h => mergeDpiDelta baseline delta = .ok desired ∧
    call.Based device profile policy session.endpoint baseline h ∧ Unwritten device identity session.endpoint h)
    (.ofExcept (fun desired hd h hh => ⟨hd, hh⟩) fun _ _ _ _ => trivial) fun desired => .of_pure fun hmerge => ?_
  exact .bind (edits_write hdelta (edits_of_merge hmerge)) fun write => .pure fun _ => id

omit [Crc32fast] in
theorem quiet_preferencesPart {delta : PreferencesDelta} {provided : Option ProfileUpdateBaseline} :
    Quiet (applyPreferencesPart device profile delta policy provided session) :=
  .bind (Quiet.of_looks (looks_baseline (.perform rfl))) fun _ => .bind (.perform rfl) fun _ => .pure

omit [Crc32fast] in
theorem quiet_buttonsPart {deltas : List ButtonSlotDelta} {provided : Option ProfileUpdateBaseline} :
    Quiet (applyButtonsPart device profile deltas policy provided session) :=
  .bind (Quiet.of_looks (looks_baseline (.perform rfl))) fun _ => .bind (.perform rfl) fun _ => .pure

omit [Crc32fast] in
theorem quiet_applyPollingRate {rate : PollingRate} : Quiet (applyPollingRate device profile rate policy session) := by
  refine .bind .ensure fun _ => .bind (Quiet.of_looks looks_requireCompleteDesiredImage) fun image => ?_
  refine .bind (.perform rfl) fun snapshot => .bind .ensure fun _ => .bind .ensure fun _ => .bind .ensure fun _ =>
    .bind .ensure fun _ => .bind (.perform rfl) fun live => .bind (.ite .pure (.perform rfl)) fun write => ?_
  exact .bind (.perform rfl) fun now => .bind (.perform rfl) fun outcome => .bind .ofExcept fun _ => .pure

/-- The parts of a composite update: after the DPI part nothing is said of DPI again. -/
theorem edits_applyParts {update : ProfileUpdate} (hdelta : call.delta = update.dpi) :
    Tries (dpiRule call device profile policy) (Unwritten device identity session.endpoint)
      (applyParts device profile update policy call.provided identity.physicalId session)
      (fun _ h => call.delta ≠ none → dpiWrites h ≠ []) fun _ _ => True := by
  refine .bind (Q := fun _ h => call.delta ≠ none → dpiWrites h ≠ []) ?_ fun dpi => ?_
  · cases hdpi : update.dpi with
    | none => exact .pure fun h _ hsome => (hsome (hdelta.trans hdpi)).elim
    | some delta =>
      exact .bind (edits_applyDpiPart (hdelta.trans hdpi)) fun part => .pure fun h hh _ => hh
  · have hrest : ∀ (preferences : Option (PreferencesState × SessionWrite PreferencesState))
        (buttons : Option (ButtonsState × SessionWrite ButtonsState)), Quiet (do
          let now ← Manager.now
          let outcome ← Manager.commit (.persistProfile device profile ⟨dpi, preferences, buttons⟩ now)
          finishParts profile outcome) := by
      intro preferences buttons
      refine .bind (.perform rfl) fun now => .bind (.perform rfl) fun outcome => ?_
      exact .bind (Quiet.optionally fun _ => quiet_finish) fun _ => .bind (Quiet.optionally fun _ => quiet_finish) fun _ =>
        .bind (Quiet.optionally fun _ => quiet_finish) fun _ => .pure
    refine Quiet.tries ?_ fun written => call.delta ≠ none → written ≠ []
    exact .bind (Quiet.optionally fun _ => quiet_preferencesPart) fun preferences =>
      .bind (Quiet.optionally fun _ => quiet_buttonsPart) fun buttons => hrest preferences buttons

theorem edits_applyProfileUpdateInner {update : ProfileUpdate} (hdelta : call.delta = update.dpi) :
    Tries (dpiRule call device profile policy) (fun h => h = [])
      (applyProfileUpdateInner device profile update policy call.provided)
      (fun _ h => call.delta ≠ none → dpiWrites h ≠ []) fun _ _ => True := by
  have hensure : ∀ {c : Prop} [Decidable c] {e : ManagerError}, Tries (dpiRule call device profile policy) (fun h => h = [])
      (Fallible.ensure c e : Manager Unit) (fun _ h => h = []) fun _ _ => True := .ensure (fun _ _ => id) fun _ _ _ => trivial
  refine .bind hensure fun _ => ?_
  refine .bind (Q := fun _ h => ¬ (update.hasPolling = true ∧ update.hasNonRate = true) ∧ h = [])
    (.ensure (fun halone h hh => ⟨halone, hh⟩) fun _ _ _ => trivial) fun _ => .of_pure fun halone => ?_
  refine .bind hensure fun _ => .bind hensure fun _ => .bind (edits_openLocked _) fun opened => ?_
  cases hrate : update.pollingRate with
  | none => exact edits_applyParts hdelta
  | some rate =>
    have hnone : call.delta = none := by
      rw [hdelta]
      cases hdpi : update.dpi with
      | none => rfl
      | some delta => exact (halone (by simp [ProfileUpdate.hasPolling, ProfileUpdate.hasNonRate, hrate, hdpi])).elim
    refine Tries.then_ (Tries.before (Quiet.tries quiet_applyPollingRate fun written => written = []) fun h hh => hh.1) ?_
    exact fun _ _ _ hsome => (hsome hnone).elim

/-- **A call that applies a DPI delta keeps the rule**, and a call that succeeds sent its image. -/
theorem edits_operation (call : DpiCall) :
    Tries (dpiRule call device profile policy) (fun h => h = []) (call.operation device profile policy)
      (fun _ h => call.delta ≠ none → dpiWrites h ≠ []) fun _ _ => True := by
  cases call with
  | updateDpiDelta delta => exact Tries.then_ (edits_updateDpiDelta delta) fun _ _ hh _ => hh
  | applyProfileUpdate update =>
    exact @edits_applyProfileUpdateInner _ (.applyProfileUpdate update) _ _ _ _ rfl
  | applyProfileUpdateFromSnapshot update baseline =>
    exact .bind (.ensure (fun _ _ => id) fun _ _ _ => trivial) fun _ =>
      @edits_applyProfileUpdateInner _ (.applyProfileUpdateFromSnapshot update baseline) _ _ _ _ rfl

/-- A history that keeps the rule has one DPI write at most, one the call may make. -/
theorem sends_of_kept : ∀ {h : History Backend}, Kept (dpiRule call device profile policy) h → dpiWrites h = [] ∨
    ∃ endpoint image verification r before, dpiWrites h = [Did.session endpoint (.writeDpi image verification) r] ∧
      Did.session endpoint (.writeDpi image verification) r :: before <:+ h ∧
        call.Sends device profile policy before endpoint image verification
  | [], _ => .inl rfl
  | ⟨o, r⟩ :: h, ⟨hrule, hk⟩ => by
    cases ho : o.writesDpi with
    | false =>
      rw [dpiWrites_quiet ho]
      rcases sends_of_kept hk with hnone | ⟨endpoint, image, verification, r', before, hone, hsuffix, hsends⟩
      · exact .inl hnone
      · exact .inr ⟨endpoint, image, verification, r', before, hone, hsuffix.trans (List.suffix_cons _ _), hsends⟩
    | true =>
      cases o with
      | session endpoint call =>
        cases call with
        | writeDpi image verification =>
          refine .inr ⟨endpoint, image, verification, r, h, ?_, List.suffix_refl _, hrule⟩
          have hcons : dpiWrites (⟨Op.session endpoint (.writeDpi image verification), r⟩ :: h) =
            ⟨Op.session endpoint (.writeDpi image verification), r⟩ :: dpiWrites h := List.filter_cons_of_pos rfl
          rw [hcons, hrule.1]
        | _ => cases ho
      | _ => cases ho

end Steps

/-- **A DPI delta changes exactly what it names**, however the store, the mouse and other programs answer: a call writes no
image, and then it fails unless it was asked for none, or one, which its delta makes of its baseline.  Two deltas in a row make
what their override makes, which is an update if one of them is. -/
theorem dpi_delta_exact :
    (∀ (call : DpiCall) (device : DeviceId) (profile : ProfileId) (policy : UpdatePolicy) (σ : Type)
      (step : (o : Op) → σ → o.Res → σ → Prop) (s s' : σ) (result : Except ManagerError call.Value) (h : History Backend),
      Ends (S := Backend) step (call.operation device profile policy).run s [] result s' h →
        call.Wrote device profile policy result h) ∧
    ∀ first second : DpiDelta, (first.override second).isEmpty = (first.isEmpty && second.isEmpty) ∧
      ∀ (physicalId : Option PhysicalId) (baseline image image' : DpiState),
        stampedDpi first physicalId baseline = .ok image → stampedDpi second physicalId image = .ok image' →
          stampedDpi (first.override second) physicalId baseline = .ok image' := by
  constructor
  · intro call device profile policy σ step s s' result h hends
    obtain ⟨hkept, hpost⟩ := Effects.Prog.Keeps.ends hends (edits_operation call [] rfl) trivial
    rcases sends_of_kept hkept with hnone | hone
    · refine .inl ⟨hnone, fun hsome => ?_⟩
      cases result with
      | ok value => exact (hpost hsome hnone).elim
      | error e => exact ⟨e, rfl⟩
    · exact .inr hone
  · refine fun first second => ⟨DpiDelta.isEmpty_override first second, ?_⟩
    intro physicalId baseline image image' hfirst hsecond
    exact stampedDpi_edits.2 ((stampedDpi_edits.1 hfirst).trans (stampedDpi_edits.1 hsecond))

end AttackSharkX3

namespace AttackSharkX3.Rig

open Effects.Prog (History)

/-- A second delta, for the sensor alone. -/
def snapped : DpiDelta := { sensor := some { angleSnap := some true } }

/-- One DPI image was sent in the run. -/
def sendsOnce (run : Except ManagerError (WriteOutcome DpiState) × StateFile × History Backend) : Bool :=
  (dpiWrites run.2.2).length = 1

/-- One stage is set on a mouse, and then its sensor. -/
theorem dpi_delta_exact_oneStage :
    (∃ result state' h, Goes (updateDpiDelta mouse1 first oneStage {}) unread result state' h ∧
      (dpiWrites h).length = 1 ∧ (DpiCall.updateDpiDelta oneStage).Wrote mouse1 first {} result h) ∧
    ∃ made made', stampedDpi oneStage (some (token 1)) (image none first) = .ok made ∧
      stampedDpi snapped (some (token 1)) made = .ok made' ∧
        stampedDpi (oneStage.override snapped) (some (token 1)) (image none first) = .ok made' := by
  obtain ⟨hruns, hoverride⟩ := dpi_delta_exact
  constructor
  · have hrun : ((bench [(wired "a", unit fun _ => some (token 1))]).goes (updateDpiDelta mouse1 first oneStage {})
        unread).any sendsOnce = true := by decide +kernel
    obtain ⟨⟨result, state', h⟩, hgoes, hsends⟩ := (Option.any_eq_true _ _).1 hrun
    have hends := Bench.goes_ends hgoes
    exact ⟨result, state', h, hends, of_decide_eq_true hsends, hruns (.updateDpiDelta oneStage) mouse1 first {} _ _ _ _
      result h hends⟩
  · obtain ⟨made, hmade⟩ : ∃ made, stampedDpi oneStage (some (token 1)) (image none first) = .ok made := ⟨_, rfl⟩
    obtain ⟨made', hmade'⟩ : ∃ made', stampedDpi snapped (some (token 1)) made = .ok made' := by
      cases hmade
      exact ⟨_, rfl⟩
    exact ⟨made, made', hmade, hmade', (hoverride oneStage snapped).2 _ _ _ _ hmade hmade'⟩

end AttackSharkX3.Rig
