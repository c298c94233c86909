import AttackSharkX3.Machine
/-!
# Ordinary — what a call that is no ceremony does

The rule of the ordinary calls, about one client's own history.  A DPI image is written once, for the mouse as it was
loaded first, under that mouse's token; over USB only once the attachment was authenticated as that token, after the
session was opened.  A watermark is cached only as it was just read.
-/
namespace AttackSharkX3

open Effects (Prog Fallible Tries Either)
open Effects.Prog (Event History Keeps)

/-! ## Events -/

namespace Did

abbrev load (r : Except StateError StateFile) : Event Backend := ⟨Op.load, r⟩
abbrev commit (t : Txn) (r : Except StateError (Except ManagerError t.Out)) : Event Backend := ⟨Op.commit t, r⟩
abbrev cached (cache : IdentityCache) : Event Backend := ⟨Op.cached, cache⟩
abbrev open_ (endpoint : DeviceEndpoint) (r : Except ManagerError Unit) : Event Backend := ⟨Op.open_ endpoint, r⟩
abbrev session (endpoint : DeviceEndpoint) (call : SessionCall) (r : Except ManagerError call.Value) : Event Backend :=
  ⟨Op.session endpoint call, r⟩

end Did

/-- The state a successful load answered. -/
def Op.loaded : (o : Op) → o.Res → Option StateFile
  | .load, r => (r : Except StateError StateFile).toOption
  | _, _ => none

/-- The states loaded, the newest first. -/
def loads (h : History Backend) : List StateFile := h.filterMap fun ev => Op.loaded ev.1 ev.2

/-- **The state an ordinary call takes the mouse's identity from**: the first it loaded. -/
def firstLoad (h : History Backend) : Option StateFile := (loads h).getLast?

theorem firstLoad_cons {h : History Backend} {state : StateFile} (hs : firstLoad h = some state) (ev : Event Backend) :
    firstLoad (ev :: h) = some state := by
  obtain ⟨before, hb⟩ := List.getLast?_eq_some_iff.1 hs
  unfold firstLoad loads at *
  rw [List.filterMap_cons, hb]
  split
  · exact List.getLast?_concat
  · rw [← List.cons_append]
    exact List.getLast?_concat

def Op.writesDpi : Op → Bool
  | .session _ (.writeDpi ..) => true
  | _ => false

/-- A DPI image was written in the call. -/
def wroteDpi (h : History Backend) : Bool := h.any fun ev => Op.writesDpi ev.1

theorem wroteDpi_cons {h : History Backend} {o : Op} {r : o.Res} (hw : wroteDpi h = false) (ho : o.writesDpi = false) :
    wroteDpi (⟨o, r⟩ :: h) = false := by
  simpa [wroteDpi, ho] using hw

theorem firstLoad_cons_none {h : History Backend} {o : Op} {r : o.Res} (hn : firstLoad h = none) :
    firstLoad (⟨o, r⟩ :: h) = Op.loaded o r := by
  have hl : loads h = [] := List.getLast?_eq_none_iff.1 hn
  unfold firstLoad loads at *
  rw [List.filterMap_cons, hl]
  cases Op.loaded o r <;> rfl

/-- A load answers the state as it is. -/
theorem loaded_of_step {ι μ : Type} [DecidableEq ι] [DecidableEq μ] {H : Hardware} {owner : ι → μ}
    {w w' : World H ι μ} {i : ι} {o : Op} {r : o.Res} {state : StateFile}
    (hs : World.step owner w (.op i o r) w') (hl : o.loaded r = some state) :
    state = w.store ∧ w'.store = w.store := by
  cases o with
  | load =>
    obtain ⟨hr, rfl⟩ := hs
    rcases hr with rfl | ⟨e, rfl⟩
    · exact ⟨(Option.some.inj hl).symm, rfl⟩
    · cases hl
  | _ => cases hl

theorem firstLoad_loaded {h : History Backend} (hl : loads h = []) (state : StateFile) :
    firstLoad (Did.load (.ok state) :: h) = some state := by
  have : loads (Did.load (.ok state) :: h) = state :: loads h := rfl
  rw [firstLoad, this, hl]
  rfl

/-- The operations the ordinary rule says nothing about. -/
def Op.plain : Op → Prop
  | .session _ (.writeDpi ..) | .cacheInsert .. => False
  | .commit t => t.isOrdinary = true
  | _ => True

theorem Op.plain.writes : ∀ {o : Op}, o.plain → o.writesDpi = false
  | .session _ call, ho => by cases call <;> first | rfl | exact ho.elim
  | .commit _, _ | .load, _ | .acquire .., _ | .cached, _ | .cacheRetain _, _ | .list _, _ | .open_ _, _ | .now, _
  | .random, _ | .abort _, _ => rfl

theorem Session.plain_call (session : Session) {c : SessionCall} (h : (Op.session session.endpoint c).plain) :
    Fallible.Only Op.plain (session.call c) := .perform h

theorem plain_load : Fallible.Only Op.plain Manager.load := .perform trivial
theorem plain_cached : Fallible.Only Op.plain Manager.cached := .perform trivial
theorem plain_cacheRetain {discovered} : Fallible.Only Op.plain (Manager.cacheRetain discovered) := .perform trivial
theorem plain_list {selection} : Fallible.Only Op.plain (Manager.list selection) := .perform trivial
theorem plain_now : Fallible.Only Op.plain Manager.now := .perform trivial
theorem plain_commit {t : Txn} (h : t.isOrdinary = true) : Fallible.Only Op.plain (Manager.commit t) := .perform h

theorem plain_storedBaseline {T : Type} {sect : Section T} {name captured device profile allow} :
    Fallible.Only Op.plain (loadStoredBaseline sect name captured device profile allow : Manager T) := by
  refine .bind plain_load fun state => ?_
  split
  · exact .pure
  · exact .ite .ofExcept .throw

theorem plain_baseline {T : Type} {transport policy} {stored : Bool → Manager T} {live : Manager T}
    (hs : ∀ allow, Fallible.Only Op.plain (stored allow)) (hl : Fallible.Only Op.plain live) :
    Fallible.Only Op.plain (resolveBaseline transport policy stored live) := by
  unfold resolveBaseline
  split
  · exact hs _
  · exact hl
  · exact hs _

theorem plain_live {T : Type} {provided} {get : ProfileUpdateBaseline → T} {read : Manager T}
    (hr : Fallible.Only Op.plain read) : Fallible.Only Op.plain (liveBaseline provided get read) := by
  cases provided with
  | some baseline => exact .pure
  | none => exact hr

theorem plain_attachAll : ∀ silent, Fallible.Only Op.plain (attachAll silent)
  | [] => .pure
  | (_, _) :: rest => .bind plain_now fun _ => .bind (plain_commit rfl) fun _ => plain_attachAll rest

theorem plain_optionally {D A : Type} {part : Option D} {apply : D → Manager A}
    (h : ∀ d, Fallible.Only Op.plain (apply d)) : Fallible.Only Op.plain (optionally part apply) := by
  cases part with
  | none => exact .pure
  | some d => exact .bind (h d) fun _ => .pure

theorem plain_preferencesPart (d : DeviceId) (profile : ProfileId) (delta : PreferencesDelta) (policy : UpdatePolicy)
    (provided : Option ProfileUpdateBaseline) (session : Session) :
    Fallible.Only Op.plain (applyPreferencesPart d profile delta policy provided session) := by
  refine .bind (plain_baseline (fun _ => plain_storedBaseline) (plain_live (session.plain_call trivial))) fun _ => ?_
  exact .bind (session.plain_call trivial) fun _ => .pure

theorem plain_buttonsPart (d : DeviceId) (profile : ProfileId) (deltas : List ButtonSlotDelta) (policy : UpdatePolicy)
    (provided : Option ProfileUpdateBaseline) (session : Session) :
    Fallible.Only Op.plain (applyButtonsPart d profile deltas policy provided session) := by
  refine .bind (plain_baseline (fun _ => plain_storedBaseline) (plain_live (session.plain_call trivial))) fun _ => ?_
  exact .bind (session.plain_call trivial) fun _ => .pure

theorem plain_pollingRate (d : DeviceId) (profile : ProfileId) (rate : PollingRate) (policy : UpdatePolicy)
    (session : Session) : Fallible.Only Op.plain (applyPollingRate d profile rate policy session) := by
  have image : Fallible.Only Op.plain (requireCompleteDesiredImage d profile) :=
    .bind plain_load fun _ => .bind .ofOption fun _ => .bind .ofOption fun _ => .bind .ofOption fun _ =>
      .bind .ofOption fun _ => .bind .ofOption fun _ => .bind .ensure fun _ => .pure
  refine .bind .ensure fun _ => .bind image fun _ => .bind (session.plain_call trivial) fun _ => ?_
  refine .bind .ensure fun _ => .bind .ensure fun _ => .bind .ensure fun _ => .bind .ensure fun _ => ?_
  refine .bind (session.plain_call trivial) fun _ => .bind (.ite .pure (session.plain_call trivial)) fun _ => ?_
  exact .bind plain_now fun _ => .bind (plain_commit rfl) fun _ => .bind .ofExcept fun _ => .pure

/-! ## The rule -/

variable [Crc32fast]

/-- **The endpoint's watermark was read as `A`** in a session the call had opened. -/
def ReadAs (h : History Backend) (endpoint : DeviceEndpoint) (A : PhysicalId) : Prop :=
  ∃ metadata dpi h₀, (Did.session endpoint (.readDpi metadata.current) (.ok dpi) ::
      Did.session endpoint .readProfileMetadata (.ok metadata) :: h₀) <:+ h ∧
    dpi.physicalId = .valid A ∧ Did.open_ endpoint (.ok ()) ∈ h₀

/-- **The attachment was authenticated as `A`**: read, or found in the cache once the session was open. -/
def Authenticated (h : History Backend) (endpoint : DeviceEndpoint) (A : PhysicalId) : Prop :=
  ReadAs h endpoint A ∨ ∃ cache h₀, (Did.cached cache :: h₀) <:+ h ∧ cache.lookup endpoint = some (.valid A) ∧
    Did.open_ endpoint (.ok ()) ∈ h₀

theorem Authenticated.cons {h : History Backend} {endpoint : DeviceEndpoint} {A : PhysicalId}
    (ha : Authenticated h endpoint A) (ev : Event Backend) : Authenticated (ev :: h) endpoint A := by
  rcases ha with ⟨metadata, dpi, h₀, hs, rest⟩ | ⟨cache, h₀, hs, rest⟩
  · exact .inl ⟨metadata, dpi, h₀, hs.trans (List.suffix_cons ev h), rest⟩
  · exact .inr ⟨cache, h₀, hs.trans (List.suffix_cons ev h), rest⟩

/-- What a written DPI image is for: the mouse of the call, as first loaded, under its own token. -/
def WritesFor (device : Option DeviceId) (h : History Backend) (endpoint : DeviceEndpoint) (image : DpiState) : Prop :=
  ∃ state d mouse, firstLoad h = some state ∧ device = some d ∧ state.devices[d]? = some mouse ∧ wroteDpi h = false ∧
    ∀ A, mouse.identity.physicalId = some A → image.preservedTail = A.toWatermarkBytes ∧
      (isUsbTransport endpoint.transport = true → Authenticated h endpoint A)

/-- **The rule of an ordinary call** on `device`. -/
def ordinaryRule (device : Option DeviceId) (h : History Backend) : Op → Prop
  | .session endpoint (.writeDpi image _) => WritesFor device h endpoint image
  | .cacheInsert endpoint decode => ∀ A, decode = .valid A → ReadAs h endpoint A
  | .commit t => t.isOrdinary = true
  | _ => True

theorem Op.plain.rule {device : Option DeviceId} {h : History Backend} : ∀ {o : Op}, o.plain → ordinaryRule device h o
  | .session _ call, ho => by cases call <;> trivial
  | .commit _, ho => ho
  | .cacheInsert .., ho => ho.elim
  | .load, _ | .acquire .., _ | .cached, _ | .cacheRetain _, _ | .list _, _ | .open_ _, _ | .now, _ | .random, _
  | .abort _, _ => trivial

variable {device : Option DeviceId} {α : Type}

/-- A plain program keeps what plain operations leave alone. -/
theorem tries_plain {x : Manager α} (hx : Fallible.Only Op.plain x) {P : History Backend → Prop}
    (stable : ∀ h o r, Op.plain o → P h → P (⟨o, r⟩ :: h)) :
    Tries (ordinaryRule device) P x (fun _ => P) fun _ => P :=
  hx.tries (fun _ _ ho _ => ho.rule) stable

/-- A plain program keeps the rule. -/
theorem tries_plain_any {x : Manager α} (hx : Fallible.Only Op.plain x) {P : History Backend → Prop} :
    Tries (ordinaryRule device) P x (fun _ _ => True) fun _ _ => True :=
  (tries_plain (P := fun _ => True) hx fun _ _ _ _ _ => trivial).before fun _ _ => trivial

/-! ## The gate -/

/-- What is ready once the mouse is open: the identity first loaded, nothing written, and the attachment authenticated. -/
def Ready (d : DeviceId) (identity : DeviceIdentity) (session : Session) (h : History Backend) : Prop :=
  ∃ state mouse, firstLoad h = some state ∧ state.devices[d]? = some mouse ∧ mouse.identity = identity ∧
    wroteDpi h = false ∧ ∀ A, identity.physicalId = some A → isUsbTransport session.endpoint.transport = true →
      Authenticated h session.endpoint A

theorem Ready.cons {d : DeviceId} {identity : DeviceIdentity} {session : Session} {h : History Backend}
    (hr : Ready d identity session h) {ev : Event Backend} (hev : Op.writesDpi ev.1 = false) :
    Ready d identity session (ev :: h) := by
  obtain ⟨state, mouse, hl, hd, hi, hw, ha⟩ := hr
  refine ⟨state, mouse, firstLoad_cons hl ev, hd, hi, ?_, fun A hA ht => (ha A hA ht).cons ev⟩
  simpa [wroteDpi, hev] using hw

/-- **Reading the current watermark** leaves the two reads on top, or what of them was refused. -/
theorem reads_currentWatermark {rule : History Backend → Op → Prop} (session : Session)
    (metadata : ∀ h, rule h (.session session.endpoint .readProfileMetadata))
    (dpi : ∀ h profile, rule h (.session session.endpoint (.readDpi profile))) (P : History Backend → Prop) :
    Tries rule P (currentWatermark session)
      (fun result h => ∃ metadata dpi h₀, h = Did.session session.endpoint (.readDpi metadata.current) (.ok dpi) ::
        Did.session session.endpoint .readProfileMetadata (.ok metadata) :: h₀ ∧ P h₀ ∧
        result = (metadata.current, dpi.physicalId))
      fun e h => ∃ h₀, P h₀ ∧ (h = Did.session session.endpoint .readProfileMetadata (.error e) :: h₀ ∨
        ∃ metadata, h = Did.session session.endpoint (.readDpi metadata.current) (.error e) ::
          Did.session session.endpoint .readProfileMetadata (.ok metadata) :: h₀) := by
  refine Tries.bind (Q := fun metadata h => ∃ h₀, h = Did.session session.endpoint .readProfileMetadata
    (.ok metadata) :: h₀ ∧ P h₀) (.perform (fun h _ => metadata h) fun h r hP => ?_) fun metadata => ?_
  · cases r with
    | ok metadata => exact ⟨h, rfl, hP⟩
    | error e => exact ⟨h, hP, .inl rfl⟩
  refine Tries.bind (Q := fun dpi h => ∃ h₀, h = Did.session session.endpoint (.readDpi metadata.current) (.ok dpi) ::
    Did.session session.endpoint .readProfileMetadata (.ok metadata) :: h₀ ∧ P h₀)
    (.perform (fun h _ => dpi h _) fun h r hP => ?_) fun dpi => ?_
  · obtain ⟨h₀, rfl, hP⟩ := hP
    cases r with
    | ok dpi => exact ⟨h₀, rfl, hP⟩
    | error e => exact ⟨h₀, hP, .inr ⟨metadata, rfl⟩⟩
  · exact .pure fun h ⟨h₀, hh, hP⟩ => ⟨metadata, dpi, h₀, hh, hP, rfl⟩

theorem tries_currentWatermark (session : Session) (P : History Backend → Prop) :
    Tries (ordinaryRule device) P (currentWatermark session)
      (fun result h => ∃ metadata dpi h₀, h = Did.session session.endpoint (.readDpi metadata.current) (.ok dpi) ::
        Did.session session.endpoint .readProfileMetadata (.ok metadata) :: h₀ ∧ P h₀ ∧
        result = (metadata.current, dpi.physicalId)) fun _ _ => True := by
  exact (reads_currentWatermark session (fun _ => trivial) (fun _ _ => trivial) P).mono (fun _ => id) (fun _ _ => id)
    fun _ _ _ => trivial

/-- **The watermark of an open attachment is a watermark it was authenticated as.** -/
theorem tries_authenticateAttachment (session : Session) {P : History Backend → Prop}
    (stable : ∀ h o r, o.writesDpi = false → P h → P (⟨o, r⟩ :: h))
    (isOpen : ∀ h, P h → Did.open_ session.endpoint (.ok ()) ∈ h) :
    Tries (ordinaryRule device) P (authenticateAttachment session.endpoint session)
      (fun decode h => P h ∧ ∀ A, decode = .valid A → Authenticated h session.endpoint A) fun _ _ => True := by
  refine Tries.bind (Q := fun cache h => ∃ h₀, h = Did.cached cache :: h₀ ∧ P h₀)
    (.perform (fun _ _ => trivial) fun h r hP => ⟨h, rfl, hP⟩) fun cache => ?_
  split
  · next decode hc =>
    refine .pure fun h ⟨h₀, hh, hP⟩ => ?_
    subst hh
    refine ⟨stable _ _ _ rfl hP, fun A hA => .inr ⟨cache, h₀, List.suffix_refl _, ?_, isOpen h₀ hP⟩⟩
    rw [hc, hA]
  · refine Tries.bind (tries_currentWatermark session _) fun result => ?_
    obtain ⟨current, decode⟩ := result
    refine Tries.bind (Q := fun _ h => P h ∧ ∀ A, decode = .valid A → Authenticated h session.endpoint A)
      (.perform ?_ ?_) fun _ => .pure fun _ => id
    · rintro h ⟨metadata, dpi, h₀, rfl, ⟨h₁, rfl, hP⟩, hr⟩ A hA
      rw [Prod.mk.injEq] at hr
      exact ⟨metadata, dpi, _, List.suffix_refl _, hr.2 ▸ hA, List.mem_cons_of_mem _ (isOpen h₁ hP)⟩
    · rintro h r ⟨metadata, dpi, h₀, rfl, ⟨h₁, rfl, hP⟩, hr⟩
      rw [Prod.mk.injEq] at hr
      refine ⟨stable _ _ _ rfl (stable _ _ _ rfl (stable _ _ _ rfl (stable _ _ _ rfl hP))), fun A hA => .inl ?_⟩
      exact ⟨metadata, dpi, _, List.suffix_cons _ _, hr.2 ▸ hA, List.mem_cons_of_mem _ (isOpen h₁ hP)⟩

/-- **The gate passes only an attachment authenticated as the mouse's own token.** -/
theorem tries_gateAttachment (d : DeviceId) (physicalId : Option PhysicalId) (session : Session)
    {P : History Backend → Prop} (stable : ∀ h o r, o.writesDpi = false → P h → P (⟨o, r⟩ :: h))
    (isOpen : ∀ h, P h → Did.open_ session.endpoint (.ok ()) ∈ h) :
    Tries (ordinaryRule device) P (gateAttachment d physicalId session.endpoint session)
      (fun _ h => P h ∧ ∀ A, physicalId = some A → isUsbTransport session.endpoint.transport = true →
        Authenticated h session.endpoint A) fun _ _ => True := by
  unfold gateAttachment
  split
  · next physicalId ht =>
    refine Tries.bind (tries_authenticateAttachment session stable isOpen) fun decode => ?_
    refine .ensure (fun hd h hP => ⟨hP.1, fun A hA _ => ?_⟩) fun _ _ _ => trivial
    rw [Option.some.injEq] at hA
    exact hP.2 A (hA ▸ hd)
  · next hne =>
    refine .pure fun h hP => ⟨hP, fun A hA ht => ?_⟩
    exact absurd ht (by simpa using hne A hA)

/-- **Opening a mouse.** -/
theorem tries_openLocked (d : DeviceId) (operation : String) :
    Tries (ordinaryRule device) (· = []) (openLocked d operation) (fun result h => Ready d result.1 result.2 h)
      fun _ _ => True := by
  refine Tries.bind (Q := fun _ h => loads h = [] ∧ wroteDpi h = false) (.perform (fun _ _ => trivial) ?_) fun _ => ?_
  · rintro h r rfl
    cases (r : Except ManagerError Unit) with
    | ok _ => exact ⟨rfl, rfl⟩
    | error e => trivial
  refine Tries.bind (Q := fun state h => firstLoad h = some state ∧ wroteDpi h = false)
    (.perform (fun _ _ => trivial) ?_) fun state => ?_
  · rintro h r ⟨hl, hw⟩
    cases (r : Except StateError StateFile) with
    | ok state => exact ⟨firstLoad_loaded hl state, by simpa [wroteDpi, Op.writesDpi] using hw⟩
    | error e => trivial
  refine Tries.bind (Q := fun _ h => firstLoad h = some state ∧ wroteDpi h = false) ?_ fun _ => ?_
  · unfold refuseInvolved
    split
    · exact .ensure (fun _ _ => id) fun _ _ _ => trivial
    · exact .pure fun _ => id
  refine Tries.bind (Q := fun mouse h => state.devices[d]? = some mouse ∧ firstLoad h = some state ∧
    wroteDpi h = false) (.ofOption (fun mouse hm h hP => ⟨hm, hP⟩) fun _ _ _ => trivial) fun mouse => ?_
  refine Tries.of_pure fun hmouse => ?_
  refine Tries.bind (Q := fun _ h => firstLoad h = some state ∧ wroteDpi h = false)
    (.ofOption (fun _ _ _ => id) fun _ _ _ => trivial) fun endpoint => ?_
  refine Tries.bind (Q := fun session h => session = ⟨endpoint⟩ ∧ firstLoad h = some state ∧ wroteDpi h = false ∧
    Did.open_ endpoint (.ok ()) ∈ h) (.perform (fun _ _ => trivial) ?_) fun session => ?_
  · rintro h r ⟨hl, hw⟩
    cases (r : Except ManagerError Unit) with
    | ok _ => exact ⟨rfl, firstLoad_cons hl _, by simpa [wroteDpi, Op.writesDpi] using hw, List.mem_cons_self⟩
    | error e => trivial
  refine Tries.of_pure fun hsession => ?_
  subst hsession
  refine Tries.bind (tries_gateAttachment d _ ⟨endpoint⟩ (fun h o r ho hP => ?_) fun h hP => hP.2.2) fun _ => ?_
  · refine ⟨firstLoad_cons hP.1 _, ?_, List.mem_cons_of_mem _ hP.2.2⟩
    simpa [wroteDpi, ho] using hP.2.1
  · exact .pure fun h hP => ⟨state, mouse, hP.1.1, hmouse, rfl, hP.1.2.1, hP.2⟩

/-! ## The calls -/

/-- The one DPI write of a ready call. -/
theorem tries_writeDpi (d : DeviceId) (identity : DeviceIdentity) (session : Session) (image : DpiState)
    (verification : VerificationMethod) :
    Tries (ordinaryRule (some d)) (Ready d identity session)
      (session.writeDpi (withPhysicalWatermark image identity.physicalId) verification) (fun _ _ => True)
      fun _ _ => True := by
  refine .perform (fun h hr => ?_) fun h r _ => ?_
  · obtain ⟨state, mouse, hl, hd, hi, hw, ha⟩ := hr
    refine ⟨state, d, mouse, hl, rfl, hd, hw, fun A hA => ?_⟩
    rw [hi] at hA
    exact ⟨by rw [hA]; rfl, ha A hA⟩
  · cases (r : Except ManagerError (SessionWrite DpiState)) <;> trivial

theorem tries_writeDpiWithSession (d : DeviceId) (profile : ProfileId) (desired : DpiState) (identity : DeviceIdentity)
    (verification : VerificationMethod) (session : Session) :
    Tries (ordinaryRule (some d)) (Ready d identity session)
      (writeDpiWithSession d profile desired identity.physicalId verification session) (fun _ _ => True)
      fun _ _ => True := by
  refine Tries.bind (tries_writeDpi d identity session desired verification) fun write => ?_
  exact tries_plain_any (.bind plain_now fun _ => .bind (plain_commit rfl) fun _ => .ofExcept)

/-- A plain program keeps a ready call ready. -/
theorem tries_ready {x : Manager α} (hx : Fallible.Only Op.plain x) (d : DeviceId) (identity : DeviceIdentity)
    (session : Session) :
    Tries (ordinaryRule (some d)) (Ready d identity session) x (fun _ => Ready d identity session) fun _ _ => True :=
  (tries_plain hx fun _ _ _ ho hr => hr.cons ho.writes).mono (fun _ => id) (fun _ _ => id) fun _ _ _ => trivial

theorem updateDpi_keeps (d : DeviceId) (profile : ProfileId) (desired : DpiState) (policy : UpdatePolicy) :
    Tries (ordinaryRule (some d)) (· = []) (updateDpi d profile desired policy) (fun _ _ => True) fun _ _ => True := by
  refine Tries.bind (Q := fun _ h => h = []) (.ensure (fun _ _ => id) fun _ _ _ => trivial) fun _ => ?_
  refine Tries.bind (tries_openLocked d _) fun result => ?_
  obtain ⟨identity, session⟩ := result
  refine Tries.bind (tries_ready ?_ d identity session) fun _ => ?_
  · exact .ite (.bind plain_load fun _ => .ensure) .pure
  · exact tries_writeDpiWithSession d profile desired identity policy.verification session

theorem updateDpiDelta_keeps (d : DeviceId) (profile : ProfileId) (delta : DpiDelta) (policy : UpdatePolicy) :
    Tries (ordinaryRule (some d)) (· = []) (updateDpiDelta d profile delta policy) (fun _ _ => True)
      fun _ _ => True := by
  refine Tries.bind (Q := fun _ h => h = []) (.ensure (fun _ _ => id) fun _ _ _ => trivial) fun _ => ?_
  refine Tries.bind (tries_openLocked d _) fun result => ?_
  obtain ⟨identity, session⟩ := result
  refine Tries.bind (tries_ready ?_ d identity session) fun baseline => ?_
  · exact plain_baseline (fun _ => plain_storedBaseline) (session.plain_call trivial)
  refine Tries.bind (tries_ready .ofExcept d identity session) fun desired => ?_
  exact tries_writeDpiWithSession d profile desired identity policy.verification session

theorem applyDpiPart_keeps (d : DeviceId) (profile : ProfileId) (delta : DpiDelta) (identity : DeviceIdentity)
    (policy : UpdatePolicy) (provided : Option ProfileUpdateBaseline) (session : Session) :
    Tries (ordinaryRule (some d)) (Ready d identity session)
      (applyDpiPart d profile delta identity.physicalId policy provided session) (fun _ _ => True)
      fun _ _ => True := by
  refine Tries.bind (tries_ready ?_ d identity session) fun baseline => ?_
  · exact plain_baseline (fun _ => plain_storedBaseline) (plain_live (session.plain_call trivial))
  refine Tries.bind (tries_ready .ofExcept d identity session) fun desired => ?_
  refine Tries.bind (tries_writeDpi d identity session desired policy.verification) fun write => ?_
  exact .pure fun _ _ => trivial

theorem applyParts_keeps (d : DeviceId) (profile : ProfileId) (update : ProfileUpdate) (policy : UpdatePolicy)
    (provided : Option ProfileUpdateBaseline) (identity : DeviceIdentity) (session : Session) :
    Tries (ordinaryRule (some d)) (Ready d identity session)
      (applyParts d profile update policy provided identity.physicalId session) (fun _ _ => True)
      fun _ _ => True := by
  refine Tries.bind (Q := fun _ _ => True) ?_ fun dpi => ?_
  · unfold optionally
    split
    · exact .bind (applyDpiPart_keeps d profile _ identity policy provided session) fun _ => .pure fun _ _ => trivial
    · exact .pure fun _ _ => trivial
  · refine tries_plain_any (.bind (plain_optionally fun _ => plain_preferencesPart ..) fun _ => ?_)
    refine .bind (plain_optionally fun _ => plain_buttonsPart ..) fun _ => .bind plain_now fun _ => ?_
    refine .bind (plain_commit rfl) fun _ => .bind (plain_optionally fun _ => .ofExcept) fun _ => ?_
    exact .bind (plain_optionally fun _ => .ofExcept) fun _ => .bind (plain_optionally fun _ => .ofExcept) fun _ => .pure

theorem applyProfileUpdateInner_keeps (d : DeviceId) (profile : ProfileId) (update : ProfileUpdate)
    (policy : UpdatePolicy) (provided : Option ProfileUpdateBaseline) :
    Tries (ordinaryRule (some d)) (· = []) (applyProfileUpdateInner d profile update policy provided) (fun _ _ => True)
      fun _ _ => True := by
  refine Tries.bind (Q := fun _ h => h = []) (.ensure (fun _ _ => id) fun _ _ _ => trivial) fun _ => ?_
  refine Tries.bind (Q := fun _ h => h = []) (.ensure (fun _ _ => id) fun _ _ _ => trivial) fun _ => ?_
  refine Tries.bind (Q := fun _ h => h = []) (.ensure (fun _ _ => id) fun _ _ _ => trivial) fun _ => ?_
  refine Tries.bind (Q := fun _ h => h = []) (.ensure (fun _ _ => id) fun _ _ _ => trivial) fun _ => ?_
  refine Tries.bind (tries_openLocked d _) fun result => ?_
  obtain ⟨identity, session⟩ := result
  dsimp only
  split
  · exact tries_plain_any (plain_pollingRate ..)
  · exact applyParts_keeps d profile update policy provided identity session

theorem applyProfileUpdateFromSnapshot_keeps (d : DeviceId) (profile : ProfileId) (update : ProfileUpdate)
    (policy : UpdatePolicy) (baseline : ProfileUpdateBaseline) :
    Tries (ordinaryRule (some d)) (· = []) (applyProfileUpdateFromSnapshot d profile update policy baseline)
      (fun _ _ => True) fun _ _ => True :=
  Tries.bind (Q := fun _ h => h = []) (.ensure (fun _ _ => id) fun _ _ _ => trivial) fun _ =>
    applyProfileUpdateInner_keeps d profile update policy (some baseline)

/-- Reading and caching the missing watermarks. -/
theorem readIdentities_keeps (endpoints : List DeviceEndpoint) {P : History Backend → Prop} :
    Tries (ordinaryRule device) P (readIdentities endpoints) (fun _ _ => True) fun _ _ => True := by
  induction endpoints generalizing P with
  | nil => exact .pure fun _ _ => trivial
  | cons endpoint rest ih =>
    refine Tries.bind (Q := fun decode h => ∀ A, decode = .valid A → ReadAs h endpoint A) ?_ fun decode => ?_
    · refine Tries.bind (Q := fun session h => session = ⟨endpoint⟩ ∧ Did.open_ endpoint (.ok ()) ∈ h)
        (.perform (fun _ _ => trivial) fun h r _ => ?_) fun session => ?_
      · cases (r : Except ManagerError Unit) with
        | ok _ => exact ⟨rfl, List.mem_cons_self⟩
        | error e => trivial
      refine Tries.of_pure fun hsession => ?_
      subst hsession
      refine Tries.bind (Q := fun result h => ∀ current decode, result = .ok (current, decode) → ∀ A,
        decode = .valid A → ReadAs h endpoint A) (.attempt ?_) fun result => ?_
      · refine (tries_currentWatermark ⟨endpoint⟩ _).mono (fun _ => id) ?_ fun _ _ _ => nofun
        rintro result h ⟨metadata, dpi, h₀, rfl, hopen, rfl⟩ current decode heq A hA
        rw [Except.ok.injEq, Prod.mk.injEq] at heq
        exact ⟨metadata, dpi, h₀, List.suffix_refl _, heq.2 ▸ hA, hopen⟩
      · split
        · exact .pure fun h hP => hP _ _ rfl
        · exact .pure fun _ _ => nofun
        · exact .throw fun _ _ => trivial
    · refine Tries.bind (Q := fun _ _ => True) (.perform (fun h hP => hP) fun _ _ _ => trivial) fun _ => ?_
      exact ih

theorem discover_keeps (selection : TransportSelection) :
    Tries (ordinaryRule none) (· = []) (discover selection) (fun _ _ => True) fun _ _ => True := by
  refine Tries.bind (Q := fun _ _ => True) (tries_plain_any plain_list) fun discovered => ?_
  refine Tries.bind (Q := fun _ _ => True) (tries_plain_any plain_load) fun before => ?_
  refine Tries.bind (Q := fun _ _ => True) (tries_plain_any (.ite (plain_commit rfl) .pure)) fun _ => ?_
  refine Tries.bind (Q := fun _ _ => True) ?_ fun _ => ?_
  · split
    · refine Tries.bind (Q := fun _ _ => True) (tries_plain_any plain_cached) fun cache => ?_
      exact Tries.bind (readIdentities_keeps _) fun _ => tries_plain_any plain_cacheRetain
    · exact .pure fun _ _ => trivial
  · refine tries_plain_any (.bind plain_cached fun identities => .bind plain_load fun state => ?_)
    refine .bind (.ite ?_ .pure) fun rows => .bind (.ite (plain_commit rfl) .pure) fun _ => .bind plain_load fun _ => .pure
    refine .bind plain_load fun state => .ite .pure (.bind ?_ fun _ => .bind plain_load fun _ => .pure)
    exact plain_attachAll _

end AttackSharkX3
