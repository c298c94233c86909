import AttackSharkX3.Deltas
import AttackSharkX3.Late
/-!
# Invented — what becomes of a default that was never on the mouse

Where explicit defaults are allowed, a delta over BLE may be merged into a captured image.  The result is recorded as
the user's own write, so the next delta finds a baseline.
-/
namespace AttackSharkX3

open Effects (Fallible Leads ends_bind ends_stop ends_pure ends_perform ends_ensure)
open Effects.Prog (Event History)

/-! ## What a write leaves of the desired values -/

/-- A resource that a delta edits. -/
inductive Edited where
  | dpi
  | preferences
  | buttons
deriving DecidableEq

namespace Edited

def Value : Edited → Type
  | dpi => DpiState
  | preferences => PreferencesState
  | buttons => ButtonsState

def sect : (edited : Edited) → Section edited.Value
  | dpi => .dpi
  | preferences => .preferences
  | buttons => .buttons

theorem lawful : ∀ edited : Edited, edited.sect.Lawful
  | dpi => lawful_dpi
  | preferences => lawful_preferences
  | buttons => lawful_buttons

/-- Two edited resources are apart. -/
theorem apart {edited other : Edited} (hne : edited ≠ other) : edited.sect.Apart other.sect := by
  intro profile resource
  cases edited <;> cases other <;> first | rfl | exact absurd rfl hne

theorem apart_pollingRate (edited : Edited) : Section.pollingRate.Apart edited.sect := by
  intro profile resource
  cases edited <;> rfl

end Edited

/-- **What the records of writes to a mouse do**: they leave every mouse where it is opened, and every desired value as it
was or, of these resources of that mouse, a user's write. -/
structure Rewritten (device : DeviceId) (edits : Edited → Prop) (state state' : StateFile) : Prop where
  opens : ∀ d, state'.opens d = state.opens d
  desired : ∀ (edited : Edited) (d : DeviceId) (p : ProfileId),
    (state'.held edited.sect d p).desired = (state.held edited.sect d p).desired ∨
      ((d = device ∧ edits edited) ∧
        ∃ desired, (state'.held edited.sect d p).desired = some desired ∧ desired.source = .userWrite)

section Rewritten

variable {T : Type} {sect : Section T} {state state' state'' : StateFile} {device : DeviceId} {deviceState : DeviceState}
  {profile : ProfileId} {edits : Edited → Prop}

theorem Rewritten.refl : Rewritten device edits state state := ⟨fun _ => rfl, fun _ _ _ => .inl rfl⟩

theorem Rewritten.trans (h : Rewritten device edits state state') (h' : Rewritten device edits state' state'') :
    Rewritten device edits state state'' := by
  refine ⟨fun d => (h'.opens d).trans (h.opens d), fun edited d p => ?_⟩
  rcases h'.desired edited d p with heq | hwrite
  · rw [heq]
    exact h.desired edited d p
  · exact .inr hwrite

theorem opens_withEvidence (hd : state.devices[device]? = some deviceState) {resource : ResourceState T} (d : DeviceId) :
    (state.withEvidence sect device deviceState profile resource).opens d = state.opens d := by
  unfold StateFile.opens StateFile.withEvidence
  by_cases hdevice : device = d
  · subst hdevice
    simp [hd]
  · rw [BTreeMap.get_insert_of_ne _ hdevice]

/-- A recorded write is a user's. -/
theorem recordWrite_source [DecidableEq T] {resource : ResourceState T} {value : T} {write : SessionWrite T}
    {now : Timestamp} :
    ∃ desired, (recordWrite resource value write now).desired = some desired ∧ desired.source = .userWrite := by
  cases write <;> exact ⟨_, rfl, rfl⟩

/-- New evidence of one section leaves the edited resources that are apart from it. -/
theorem rewritten_apart (hd : state.devices[device]? = some deviceState) (ha : ∀ edited : Edited, sect.Apart edited.sect)
    {resource : ResourceState T} : Rewritten device edits state (state.withEvidence sect device deviceState profile resource) := by
  refine ⟨opens_withEvidence hd, fun edited d p => .inl ?_⟩
  rw [held_withEvidence_other edited.lawful hd (.inr (.inr (ha edited)))]

/-- **The record of one write** to an edited resource. -/
theorem rewritten_edited {edited : Edited} (hedits : edits edited) (hd : state.devices[device]? = some deviceState)
    {resource : ResourceState edited.Value}
    (hwritten : ∃ desired, resource.desired = some desired ∧ desired.source = .userWrite) :
    Rewritten device edits state (state.withEvidence edited.sect device deviceState profile resource) := by
  refine ⟨opens_withEvidence hd, fun other d p => ?_⟩
  by_cases hsame : device = d ∧ profile = p ∧ edited = other
  · obtain ⟨rfl, rfl, rfl⟩ := hsame
    rw [held_withEvidence edited.lawful]
    exact .inr ⟨⟨rfl, hedits⟩, hwritten⟩
  · have hne : device ≠ d ∨ profile ≠ p ∨ edited.sect.Apart other.sect := by
      by_cases hdevice : device = d
      · by_cases hprofile : profile = p
        · exact .inr (.inr (Edited.apart fun hedited => hsame ⟨hdevice, hprofile, hedited⟩))
        · exact .inr (.inl hprofile)
      · exact .inl hdevice
    rw [held_withEvidence_other other.lawful hd hne]
    exact .inl rfl

end Rewritten

/-- The closure only records writes to the mouse. -/
def Rewrites {α : Type} (device : DeviceId) (edits : Edited → Prop) (m : Mutation α) : Prop := ∀ state, Rewritten device edits state (m.apply state).2

namespace Rewrites

variable {α β : Type} {device : DeviceId} {edits : Edited → Prop} {profile : ProfileId} {now : Timestamp}

theorem of_pure {a : α} : Rewrites device edits (pure a) := fun _ => .refl

theorem bind {m : Mutation α} {f : α → Mutation β} (hm : Rewrites device edits m) (hf : ∀ a, Rewrites device edits (f a)) :
    Rewrites device edits (m >>= f) := by
  intro state
  have hfirst := hm state
  rw [Mutation.apply_bind]
  split
  · next a state' heq =>
    rw [heq] at hfirst
    exact hfirst.trans (hf a state')
  · next e state' heq =>
    rw [heq] at hfirst
    exact hfirst

theorem mapM {f : α → Mutation β} : ∀ part : Option α, (∀ a, part.isSome → Rewrites device edits (f a)) →
    Rewrites device edits (part.mapM f)
  | none, _ => of_pure
  | some a, hf => bind (hf a rfl) fun _ => of_pure

/-- The record of a write, where the new evidence is all it changes. -/
theorem persistWrite {T : Type} [DecidableEq T] {sect : Section T} (hs : sect.Lawful)
    (hwritten : ∀ {state : StateFile} {deviceState : DeviceState} {resource : ResourceState T} {value : T}
      {write : SessionWrite T}, state.devices[device]? = some deviceState → Rewritten device edits state
        (state.withEvidence sect device deviceState profile (recordWrite resource value write now)))
    {value : T} {write : SessionWrite T} :
    Rewrites device edits (AttackSharkX3.persistWrite sect device profile value write now) := by
  intro state
  cases hdevice : state.devices[device]? with
  | none =>
    have hsame : (AttackSharkX3.persistWrite sect device profile value write now).apply state =
        (.error (.deviceNotFound device), state) := by
      simp [AttackSharkX3.persistWrite, Mutation.apply_bind, hdevice]
    rw [hsame]
    exact .refl
  | some deviceState =>
    rw [persistWrite_apply hs hdevice]
    exact hwritten hdevice

theorem dpi (hedits : edits .dpi) {value : DpiState} {write : SessionWrite DpiState} :
    Rewrites device edits (AttackSharkX3.persistWrite .dpi device profile value write now) :=
  persistWrite lawful_dpi fun hd => rewritten_edited hedits hd (recordWrite_source (T := DpiState))

theorem preferences (hedits : edits .preferences) {value : PreferencesState} {write : SessionWrite PreferencesState} :
    Rewrites device edits (AttackSharkX3.persistWrite .preferences device profile value write now) :=
  persistWrite lawful_preferences fun hd => rewritten_edited hedits hd (recordWrite_source (T := PreferencesState))

theorem buttons (hedits : edits .buttons) {value : ButtonsState} {write : SessionWrite ButtonsState} :
    Rewrites device edits (AttackSharkX3.persistWrite .buttons device profile value write now) :=
  persistWrite lawful_buttons fun hd => rewritten_edited hedits hd (recordWrite_source (T := ButtonsState))

theorem pollingRate {value : PollingRate} {write : SessionWrite PollingRate} :
    Rewrites device edits (AttackSharkX3.persistWrite .pollingRate device profile value write now) :=
  persistWrite lawful_pollingRate fun hd => rewritten_apart hd Edited.apart_pollingRate

end Rewrites

/-- The transaction records writes to these resources of the mouse, and does nothing else. -/
def Txn.Records (device : DeviceId) (edits : Edited → Prop) : Txn → Prop
  | .persistDpi d .. => d = device ∧ edits .dpi
  | .persistPreferences d .. => d = device ∧ edits .preferences
  | .persistButtons d .. => d = device ∧ edits .buttons
  | .persistPollingRate d .. => d = device
  | .persistProfile d _ writes _ => d = device ∧ (writes.dpi.isSome → edits .dpi) ∧
      (writes.preferences.isSome → edits .preferences) ∧ (writes.buttons.isSome → edits .buttons)
  | _ => False

theorem rewrites_txn {t : Txn} {device : DeviceId} {edits : Edited → Prop} (ht : t.Records device edits) :
    Rewrites device edits t.run := by
  cases t with
  | persistDpi =>
    obtain ⟨rfl, hedits⟩ := ht
    exact .dpi hedits
  | persistPreferences =>
    obtain ⟨rfl, hedits⟩ := ht
    exact .preferences hedits
  | persistButtons =>
    obtain ⟨rfl, hedits⟩ := ht
    exact .buttons hedits
  | persistPollingRate =>
    cases ht
    exact .pollingRate
  | persistProfile =>
    obtain ⟨rfl, hdpi, hpreferences, hbuttons⟩ := ht
    exact .bind (.mapM _ fun _ hsome => .dpi (hdpi hsome)) fun _ =>
      .bind (.mapM _ fun _ hsome => .preferences (hpreferences hsome)) fun _ =>
      .bind (.mapM _ fun _ hsome => .buttons (hbuttons hsome)) fun _ => .of_pure
  | _ => exact ht.elim

/-! ## The four calls -/

/-- A sparse update of one mouse's profile, or a composite one. -/
inductive Delta where
  | dpi (delta : DpiDelta)
  | preferences (delta : PreferencesDelta)
  | button (delta : ButtonSlotDelta)
  | composite (update : ProfileUpdate)

/-- One of the four calls. -/
structure DeltaCall where
  device : DeviceId
  profile : ProfileId
  delta : Delta
  policy : UpdatePolicy

/-- The call, whatever it answers. -/
def DeltaCall.program [Crc32fast] (call : DeltaCall) : Manager Unit :=
  match call.delta with
  | .dpi delta => do let _ ← updateDpiDelta call.device call.profile delta call.policy
  | .preferences delta => do let _ ← updatePreferencesDelta call.device call.profile delta call.policy
  | .button delta => do let _ ← updateButtonSlot call.device call.profile delta call.policy
  | .composite update => do let _ ← applyProfileUpdate call.device call.profile update call.policy

/-- The resources an update edits. -/
def Delta.Edits : Delta → Edited → Prop
  | .dpi _, edited => edited = .dpi
  | .preferences _, edited => edited = .preferences
  | .button _, edited => edited = .buttons
  | .composite update, .dpi => update.dpi.isSome
  | .composite update, .preferences => update.preferences.isSome
  | .composite update, .buttons => update.buttons ≠ []

/-- The operation asks the store for nothing but the record of writes to the mouse. -/
def Op.records (device : DeviceId) (edits : Edited → Prop) : Op → Prop
  | .commit t => t.Records device edits
  | _ => True

section Programs

variable {α T : Type} {device : DeviceId} {edits : Edited → Prop} {profile : ProfileId} {policy : UpdatePolicy}
  {session : Session}

/-- The program asks the store for nothing but the record of writes to the mouse. -/
abbrev Records (device : DeviceId) (edits : Edited → Prop) (x : Manager α) : Prop :=
  Fallible.Only (S := Backend) (Op.records device edits) x

theorem Looks.records {x : Manager α} (hx : Looks x) : Records device edits x := by
  refine hx.mono fun o ho => ?_
  cases o with
  | commit t => cases ho
  | _ => trivial

theorem records_call {call : SessionCall} : Records device edits (session.call call) := .perform trivial

theorem records_commit {t : Txn} (ht : t.Records device edits) : Records device edits (Manager.commit t) := .perform ht

/-- A baseline is looked up, from the store or from the mouse. -/
theorem records_baseline {transport : TransportKind} {stored : Bool → Manager T} {live : Manager T}
    (hstored : ∀ allow, Looks (stored allow)) (hlive : Looks live) :
    Records device edits (resolveBaseline transport policy stored live) := by
  unfold resolveBaseline
  split
  · exact (hstored _).records
  · exact hlive.records
  · exact (hstored _).records

theorem looks_live {provided : Option ProfileUpdateBaseline} {get : ProfileUpdateBaseline → T} {read : Manager T}
    (hr : Looks read) : Looks (liveBaseline provided get read) := by
  unfold liveBaseline
  split
  · exact .pure
  · exact hr

variable [Crc32fast]

theorem records_writeDpi (hedits : edits .dpi) {desired : DpiState} {physicalId : Option PhysicalId} {verification : VerificationMethod} :
    Records device edits (writeDpiWithSession device profile desired physicalId verification session) :=
  .bind records_call fun _ => .bind looks_now.records fun _ => .bind (records_commit ⟨rfl, hedits⟩) fun _ => .ofExcept

omit [Crc32fast] in
theorem records_writePreferences (hedits : edits .preferences) {desired : PreferencesState} {verification : VerificationMethod} :
    Records device edits (writePreferencesWithSession device profile desired verification session) :=
  .bind records_call fun _ => .bind looks_now.records fun _ => .bind (records_commit ⟨rfl, hedits⟩) fun _ => .ofExcept

omit [Crc32fast] in
theorem records_writeButtons (hedits : edits .buttons) {requested : ButtonsState} {verification : VerificationMethod} :
    Records device edits (writeButtonsWithSession device session requested verification) :=
  .bind records_call fun _ => .bind looks_now.records fun _ => .bind (records_commit ⟨rfl, hedits⟩) fun _ => .ofExcept

omit [Crc32fast] in
/-- A part of a composite update that may be left out. -/
theorem records_optionally {D β : Type} {part : Option D} {apply : D → Manager α} {rest : Option α → Manager β}
    (h : ∀ d, Records device edits (apply d)) (hrest : ∀ made, (made.isSome → part.isSome) → Records device edits (rest made)) :
    Records device edits (optionally part apply >>= rest) := by
  cases part with
  | none => exact hrest none id
  | some d => exact .bind (.bind (h d) fun _ => .pure) fun made => hrest made fun _ => rfl

omit [Crc32fast] in
theorem records_applyPollingRate {rate : PollingRate} :
    Records device edits (applyPollingRate device profile rate policy session) := by
  refine .bind .ensure fun _ => .bind looks_requireCompleteDesiredImage.records fun _ => .bind records_call fun _ =>
    .bind .ensure fun _ => .bind .ensure fun _ => .bind .ensure fun _ => .bind .ensure fun _ =>
    .bind records_call fun _ => .bind (.ite .pure records_call) fun _ => .bind looks_now.records fun _ =>
    .bind (records_commit rfl) fun _ => .bind .ofExcept fun _ => .pure

theorem records_applyParts {update : ProfileUpdate} (hedits : ∀ edited, (Delta.composite update).Edits edited → edits edited)
    {provided : Option ProfileUpdateBaseline} {physicalId : Option PhysicalId} :
    Records device edits (applyParts device profile update policy provided physicalId session) := by
  refine records_optionally (fun delta => ?_) fun dpi hdpi => records_optionally (fun delta => ?_)
    fun preferences hpreferences => records_optionally (fun deltas => ?_) fun buttons hbuttons =>
    .bind looks_now.records fun _ => .bind (records_commit ⟨rfl, fun h => hedits .dpi (hdpi h),
      fun h => hedits .preferences (hpreferences h), fun h => hedits .buttons fun hempty => ?_⟩) fun _ =>
    records_optionally (fun _ => .ofExcept) fun _ _ => records_optionally (fun _ => .ofExcept) fun _ _ =>
    records_optionally (fun _ => .ofExcept) fun _ _ => .pure
  · exact .bind (records_baseline (fun _ => looks_storedBaseline) (looks_live (looks_call rfl))) fun _ =>
      .bind .ofExcept fun _ => .bind records_call fun _ => .pure
  · exact .bind (records_baseline (fun _ => looks_storedBaseline) (looks_live (looks_call rfl))) fun _ =>
      .bind records_call fun _ => .pure
  · exact .bind (records_baseline (fun _ => looks_storedBaseline) (looks_live (looks_call rfl))) fun _ =>
      .bind records_call fun _ => .pure
  · have hnone := hbuttons h
    simp [hempty] at hnone

/-! ### What a call leaves -/

/-- The state is as it was, or writes to a mouse that opened are on record. -/
def LeftBy (device : DeviceId) (edits : Edited → Prop) (state s : StateFile) : Prop :=
  s = state ∨ ((∃ opened, state.opens device = some opened) ∧ Rewritten device edits state s)

theorem leads_opened {state : StateFile} {operation : String} {rest : DeviceIdentity × Session → Manager α}
    (hrest : ∀ opened, Records device edits (rest opened)) :
    Leads (S := Backend) Op.does (fun s h => s = state ∧ (fun _ => True) h) (openLocked device operation >>= rest)
      (fun _ s _ => LeftBy device edits state s) fun _ s _ => LeftBy device edits state s := by
  have hany : LookStable fun _ => True := fun _ _ _ _ => id
  refine .bind ((leads_openLocked hany).mono (fun _ _ => id) (fun _ _ _ => id) fun _ s _ hh => .inl hh.1)
    fun opened => .of_pure fun hopens => ?_
  have hstable : ∀ (o : Op) (s : StateFile) (r : o.Res) (s' : StateFile) (h : History Backend), o.records device edits →
      Rewritten device edits state s → o.does s r s' → Rewritten device edits state s' := by
    intro o s r s' h ho hs hd
    cases o with
    | commit t =>
      rcases (show Commits t s r s' from hd).cases with rfl | ⟨rfl, -⟩
      · exact hs
      · exact hs.trans (rewrites_txn ho s)
    | load =>
      rw [hd.1]
      exact hs
    | _ =>
      rw [show s' = s from hd]
      exact hs
  refine (Leads.only hstable (hrest opened)).mono ?_ (fun _ _ _ hh => .inr ⟨⟨_, hopens⟩, hh⟩)
    fun _ _ _ hh => .inr ⟨⟨_, hopens⟩, hh⟩
  rintro s h ⟨rfl, -⟩
  exact .refl

/-- **What one of the four calls leaves of the store.** -/
theorem DeltaCall.left {call : DeltaCall} {state state' : StateFile} {r : Except ManagerError Unit} {h : History Backend}
    (hg : Goes call.program state r state' h) : LeftBy call.device call.delta.Edits state state' := by
  have hfine : ∀ {c : Prop} [Decidable c] {e : ManagerError}, Leads (S := Backend) Op.does
      (fun s h => s = state ∧ (fun _ => True) h) (Fallible.ensure c e)
      (fun _ s h => s = state ∧ (fun _ => True) h) fun _ s _ => LeftBy call.device call.delta.Edits state s :=
    .ensure (fun _ _ _ => id) fun _ _ _ hh => .inl hh.1
  have hleads : Leads (S := Backend) Op.does (fun s h => s = state ∧ (fun _ => True) h) call.program
      (fun _ s _ => LeftBy call.device call.delta.Edits state s) fun _ s _ => LeftBy call.device call.delta.Edits state s := by
    obtain ⟨device, profile, delta, policy⟩ := call
    cases delta with
    | dpi delta =>
      refine .bind (.bind hfine fun _ => leads_opened fun opened => ?_) fun _ => .pure fun _ _ => id
      exact .bind (records_baseline (fun _ => looks_storedBaseline) (looks_call rfl)) fun _ => .bind .ofExcept fun _ =>
        records_writeDpi (show (Delta.dpi delta).Edits .dpi from rfl)
    | preferences delta =>
      refine .bind (.bind hfine fun _ => leads_opened fun opened => ?_) fun _ => .pure fun _ _ => id
      exact .bind (records_baseline (fun _ => looks_storedBaseline) (looks_call rfl)) fun _ =>
        records_writePreferences (show (Delta.preferences delta).Edits .preferences from rfl)
    | button delta =>
      refine .bind (leads_opened fun opened => ?_) fun _ => .pure fun _ _ => id
      exact .bind (records_baseline (fun _ => looks_storedBaseline) (looks_call rfl)) fun _ =>
        records_writeButtons (show (Delta.button delta).Edits .buttons from rfl)
    | composite update =>
      refine .bind (.bind hfine fun _ => .bind hfine fun _ => .bind hfine fun _ => .bind hfine fun _ =>
        leads_opened fun opened => ?_) fun _ => .pure fun _ _ => id
      dsimp only
      split
      · exact records_applyPollingRate
      · exact records_applyParts fun _ => id
  cases r with
  | ok _ => exact hleads state [] _ state' h ⟨rfl, trivial⟩ hg
  | error e => exact hleads state [] _ state' h ⟨rfl, trivial⟩ hg

end Programs

/-! ## What descends from a captured image -/

/-- The baseline of the call is a default: the stored value is marked as one, or nothing is stored. -/
def TakesDefault {T : Type} (resource : ResourceState T) (allowExplicitDefaults : Bool) : Prop :=
  allowExplicitDefaults = true ∧ match resource.desired with
    | some desired => desired.source = .explicitDefaults
    | none => resource.observed = none

/-- **Which desired values descend from a default**, with nothing read from the mouse since. -/
abbrev Invented := Edited → DeviceId → ProfileId → Prop

/-- A new desired value descends from a default where the baseline of the call does. -/
def Invented.after (invented : Invented) (call : DeltaCall) (state state' : StateFile) : Invented := fun edited d p =>
  (state'.held edited.sect d p).observed = (state.held edited.sect d p).observed ∧
    (((state'.held edited.sect d p).desired = (state.held edited.sect d p).desired ∧ invented edited d p) ∨
      ((state'.held edited.sect d p).desired ≠ (state.held edited.sect d p).desired ∧
        (invented edited call.device call.profile ∨
          TakesDefault (state.held edited.sect call.device call.profile) call.policy.allowExplicitDefaults)))

/-- **A run of the four calls over BLE**, and what of the store descends from a default by then.  Each call may go any
way, and is one the rule admits. -/
inductive Traced [Crc32fast] (rule : StateFile → DeltaCall → Prop) (start : StateFile) : StateFile → Invented → Prop where
  | start : Traced rule start start fun _ _ _ => False
  | call {state state' : StateFile} {invented : Invented} {call : DeltaCall} {r : Except ManagerError Unit}
      {h : History Backend} (before : Traced rule start state invented)
      (overBle : ∀ opened, state.opens call.device = some opened → opened.2.transport = .ble) (admitted : rule state call)
      (goes : Goes call.program state r state' h) : Traced rule start state' (invented.after call state state')

/-- The update is well formed, and about this resource alone. -/
def Delta.About : Delta → Edited → Prop
  | .dpi delta, .dpi => delta.isEmpty = false
  | .preferences delta, .preferences => delta.isEmpty = false
  | .button _, .buttons => True
  | .composite update, edited => update.Composite ∧ ∀ other, (Delta.composite update).Edits other ↔ other = edited
  | _, _ => False

/-- **The call is refused for want of a baseline**, if it gets as far: it writes nothing, and of the errors of a part it
ends with no other. -/
def RefusedForBaseline (x : Manager Unit) (state : StateFile) : Prop :=
  ∀ r state' h, Goes x state r state' h → writesOf h = [] ∧
    ∃ e, r = .error e ∧ (e.OfPart → ∃ resource profile, e = .missingBaseline resource profile)

/-- **A default keeps its label**: without permission no update is merged into the resource. -/
def DefaultRefused [Crc32fast] (state : StateFile) (edited : Edited) (device : DeviceId) (profile : ProfileId) : Prop :=
  ∀ delta policy, policy.allowExplicitDefaults = false → delta.About edited →
    RefusedForBaseline (DeltaCall.program ⟨device, profile, delta, policy⟩) state

section Label

variable [Crc32fast] {rule : StateFile → DeltaCall → Prop} {start state : StateFile} {invented : Invented}
  {edited : Edited} {device : DeviceId} {profile : ProfileId}

/-- **A descendant of a default is recorded as a user's write**, on a mouse that opens over BLE. -/
theorem Traced.userWritten (ht : Traced rule start state invented) : ∀ {edited device profile},
    invented edited device profile →
      (∃ desired, (state.held edited.sect device profile).desired = some desired ∧ desired.source = .userWrite) ∧
        ∃ opened, state.opens device = some opened ∧ opened.2.transport = .ble := by
  induction ht with
  | start => exact fun hinvented => hinvented.elim
  | @call state state' invented call r h before overBle admitted goes ih =>
    intro edited device profile hinvented
    obtain ⟨-, ⟨hsame, hinvented⟩ | ⟨hchanged, -⟩⟩ := hinvented
    · obtain ⟨hdesired, hopens⟩ := ih hinvented
      rw [hsame]
      refine ⟨hdesired, ?_⟩
      rcases DeltaCall.left goes with rfl | ⟨-, hrewritten⟩
      · exact hopens
      · rw [hrewritten.opens]
        exact hopens
    · rcases DeltaCall.left goes with rfl | ⟨⟨opened, hopened⟩, hrewritten⟩
      · exact absurd rfl hchanged
      · rcases hrewritten.desired edited device profile with hsame | ⟨⟨rfl, -⟩, hdesired⟩
        · exact absurd hsame hchanged
        · refine ⟨hdesired, opened, ?_, overBle opened hopened⟩
          rw [hrewritten.opens]
          exact hopened

/-- The call finds a baseline that is no default for each resource it edits, or may not take one. -/
def TakesNoDefault (state : StateFile) (call : DeltaCall) : Prop :=
  ∀ edited : Edited, call.delta.Edits edited →
    ¬ TakesDefault (state.held edited.sect call.device call.profile) call.policy.allowExplicitDefaults

/-- **Where no call takes a default, nothing descends from one.** -/
theorem Traced.invents_nothing (ht : Traced TakesNoDefault start state invented) :
    ∀ edited device profile, ¬ invented edited device profile := by
  induction ht with
  | start => exact fun _ _ _ => id
  | @call state state' invented call r h before overBle admitted goes ih =>
    rintro edited device profile ⟨-, ⟨-, hinvented⟩ | ⟨hchanged, hinvented | htakes⟩⟩
    · exact ih _ _ _ hinvented
    · exact ih _ _ _ hinvented
    · rcases DeltaCall.left goes with rfl | ⟨-, hrewritten⟩
      · exact hchanged rfl
      · rcases hrewritten.desired edited device profile with hsame | ⟨⟨-, hedits⟩, -⟩
        · exact hchanged hsame
        · exact admitted edited hedits htakes

/-! ### A call that should be refused -/

/-- An update of each resource that is always well formed. -/
def Edited.plain : Edited → Delta
  | .dpi => .dpi { stages := some [⟨800, DpiValue.range_800⟩], activeStage := some ⟨1, StageIndex.one_range⟩ }
  | .preferences => .preferences { debounce := some 4 }
  | .buttons => .button ⟨.left, .disable⟩

omit [Crc32fast] in
theorem Edited.plain_about (edited : Edited) : edited.plain.About edited := by
  cases edited with
  | dpi | preferences => rfl
  | buttons => trivial

omit [Crc32fast] in
/-- The plain update merges into every image. -/
theorem mergeDpiDelta_plain (baseline : DpiState) : ∃ desired, mergeDpiDelta baseline
    { stages := some [⟨800, DpiValue.range_800⟩], activeStage := some ⟨1, StageIndex.one_range⟩ } = .ok desired := ⟨_, rfl⟩

omit [Crc32fast] in
/-- A write is sent, and its answer is lost. -/
theorem way_sent {α : Type} (session : Session) (call : SessionCall) (hw : call.writes = true)
    (rest : call.Value → Manager α) (h : History Backend) :
    ∃ e h', Way (session.call call >>= rest) state h (.error e) h' ∧ writesOf h' ≠ [] := by
  refine ⟨.driver "disconnected", _,
    ends_stop (ends_perform (.error (.driver "disconnected") : Except ManagerError call.Value) rfl rfl), ?_⟩
  rw [writesOf_write hw]
  exact List.cons_ne_nil _ _

/-- **What descends from a default is a baseline like any other.** -/
theorem way_plain {opened : DeviceIdentity × DeviceEndpoint} (hopens : state.opens device = some opened)
    (hble : opened.2.transport = .ble) {value : edited.Value}
    (hvalue : storedBaseline (state.resource edited.sect device profile) false = some value) :
    ∃ e h, Way (DeltaCall.program ⟨device, profile, edited.plain, {}⟩) state [] (.error e) h ∧ writesOf h ≠ [] := by
  obtain ⟨identity, endpoint⟩ := opened
  have hstore : (UpdatePolicy.fromStore {} (Session.transport ⟨endpoint⟩)) = some false := by
    rw [Session.transport, hble]
    rfl
  cases edited with
  | dpi =>
    obtain ⟨h₁, hopened⟩ := way_openLocked [] "update_dpi_delta" hopens
    obtain ⟨desired, hmerge⟩ := mergeDpiDelta_plain value
    obtain ⟨e, h₂, hsent, hwrote⟩ := @way_sent state _ ⟨endpoint⟩
      (.writeDpi (withPhysicalWatermark desired identity.physicalId) .transport) rfl _ (loadedEvent state :: h₁)
    refine ⟨e, h₂, ends_stop (ends_bind (ends_ensure rfl) (ends_bind hopened ?_)), hwrote⟩
    dsimp only
    rw [resolveBaseline_fromStore hstore]
    refine ends_bind (way_stored hvalue) ?_
    rw [hmerge]
    exact ends_bind ends_pure hsent
  | preferences =>
    obtain ⟨h₁, hopened⟩ := way_openLocked [] "update_preferences_delta" hopens
    obtain ⟨e, h₂, hsent, hwrote⟩ := @way_sent state _ ⟨endpoint⟩
      (.writePreferences (mergePreferencesDelta value { debounce := some 4 }) .transport) rfl _ (loadedEvent state :: h₁)
    refine ⟨e, h₂, ends_stop (ends_bind (ends_ensure rfl) (ends_bind hopened ?_)), hwrote⟩
    dsimp only
    rw [resolveBaseline_fromStore hstore]
    exact ends_bind (way_stored hvalue) hsent
  | buttons =>
    obtain ⟨h₁, hopened⟩ := way_openLocked [] "update_button_slot" hopens
    obtain ⟨e, h₂, hsent, hwrote⟩ := @way_sent state _ ⟨endpoint⟩
      (.writeButtons (ButtonsState.assign value ⟨.left, .disable⟩) .transport) rfl _ (loadedEvent state :: h₁)
    refine ⟨e, h₂, ends_stop (ends_bind hopened ?_), hwrote⟩
    dsimp only
    rw [resolveBaseline_fromStore hstore]
    exact ends_bind (way_stored hvalue) hsent

/-- **A label that is lost.**  Where a resource descends from a default, an update of it is not refused. -/
theorem Traced.not_refused (ht : Traced rule start state invented) (hinvented : invented edited device profile) :
    ¬ DefaultRefused state edited device profile := by
  intro hrefused
  obtain ⟨⟨desired, hdesired, hsource⟩, opened, hopens, hble⟩ := ht.userWritten hinvented
  have hvalue : storedBaseline (state.resource edited.sect device profile) false = some desired.value := by
    rw [storedBaseline_held]
    simp [storedBaseline, hdesired, hsource]
  obtain ⟨e, h, hway, hwrote⟩ := @way_plain _ _ _ _ profile _ hopens hble _ hvalue
  exact hwrote (hrefused edited.plain {} rfl edited.plain_about _ _ _ hway).1

end Label

/-- **When defaults keep their label.**  In every state that a run of the four calls over BLE reaches, the updates of a
resource that should be refused are, exactly when it descends from no default; and so they are in every state of a run
whose calls take none. -/
theorem default_refused_iff [Crc32fast] (start state : StateFile) (invented : Invented) :
    (Traced (fun _ _ => True) start state invented → ∀ edited device profile,
      (invented edited device profile → DefaultRefused state edited device profile) ↔ ¬ invented edited device profile) ∧
    (Traced TakesNoDefault start state invented → ∀ edited device profile,
      invented edited device profile → DefaultRefused state edited device profile) := by
  constructor
  · intro ht edited device profile
    constructor
    · intro hrefused hinvented
      exact ht.not_refused hinvented (hrefused hinvented)
    · intro hnone hinvented
      exact absurd hinvented hnone
  · intro ht edited device profile hinvented
    exact absurd hinvented (ht.invents_nothing edited device profile)

namespace Rig

/-- Over BLE every write is acknowledged, and nothing is read. -/
def acknowledging : Bench where
  list _ := .ok []
  open_ _ := .ok ()
  session _
    | .writeDpi .. | .writePreferences .. | .writeButtons .. | .writePollingRateUnchecked .. | .writeProfileMetadata _ =>
      .ok .acknowledged
    | .readProfileMetadata => .error (.unsupportedOperation "read_profile_metadata" .ble)
    | .readProfile _ => .error (.unsupportedOperation "read_profile" .ble)
    | .readDpi _ => .error (.unsupportedOperation "read_dpi" .ble)
    | .readPreferences _ => .error (.unsupportedOperation "read_preferences" .ble)
    | .readButtons _ => .error (.unsupportedOperation "read_buttons" .ble)
    | .readLivePollingRate _ => .error (.unsupportedOperation "read_live_polling_rate" .ble)
    | .readBattery => .error (.unsupportedOperation "read_battery" .ble)
  now := ⟨0⟩
  random := .ok (token 1).token
  usbConnected := connected_of_nil

/-- A saved mouse at a BLE endpoint, of which nothing is on record. -/
def blankOverBle : StateFile := holding (ble "b") .empty []

/-- Another debounce, with and then without permission to start from a default. -/
def permitted : DeltaCall := ⟨mouse1, first, .preferences { debounce := some 4 }, { allowExplicitDefaults := true }⟩
def unpermitted : DeltaCall := ⟨mouse1, first, .preferences { debounce := some 6 }, {}⟩

/-- A default is taken, and an update without permission is then written over it. -/
theorem traced_permitted : ∃ state invented, Traced (fun _ _ => True) blankOverBle state invented ∧
    invented .preferences mouse1 first ∧ (acknowledging.goes unpermitted.program state).any (fun ended =>
      ended.1.toOption.isSome && !(writesOf ended.2.2).isEmpty) = true := by
  have hrun : (acknowledging.goes permitted.program blankOverBle).any (fun ended =>
      decide ((ended.2.1.held .preferences mouse1 first).observed = (blankOverBle.held .preferences mouse1 first).observed ∧
        (ended.2.1.held .preferences mouse1 first).desired ≠ (blankOverBle.held .preferences mouse1 first).desired) &&
      (acknowledging.goes unpermitted.program ended.2.1).any fun ended =>
        ended.1.toOption.isSome && !(writesOf ended.2.2).isEmpty) = true := by decide +kernel
  obtain ⟨⟨r, state, h⟩, hgoes, hended⟩ := (Option.any_eq_true ..).1 hrun
  obtain ⟨hchanged, hlater⟩ := Bool.and_eq_true_iff.1 hended
  obtain ⟨hobserved, hdesired⟩ := of_decide_eq_true hchanged
  have hble : (blankOverBle.opens mouse1).all (fun opened => opened.2.transport = .ble) = true := by decide +kernel
  refine ⟨state, _, .call .start (fun opened hopened => ?_) trivial (Bench.goes_ends hgoes),
    ⟨hobserved, .inr ⟨hdesired, .inr ⟨rfl, ?_⟩⟩⟩, hlater⟩
  · have hopens : blankOverBle.opens mouse1 = some opened := hopened
    rw [hopens] at hble
    exact of_decide_eq_true hble
  · have hnone : (blankOverBle.held .preferences mouse1 first).desired = none ∧
        (blankOverBle.held .preferences mouse1 first).observed = none := by decide +kernel
    show match (blankOverBle.held .preferences mouse1 first).desired with
      | some desired => desired.source = .explicitDefaults
      | none => (blankOverBle.held .preferences mouse1 first).observed = none
    rw [hnone.1]
    exact hnone.2

/-- The state in which a default was taken. -/
theorem default_refused_permitted : ∃ state, ¬ DefaultRefused state .preferences mouse1 first := by
  obtain ⟨state, invented, htraced, hinvented, -⟩ := traced_permitted
  exact ⟨state, fun hrefused => ((default_refused_iff blankOverBle state invented).1 htraced .preferences mouse1 first).1
    (fun _ => hrefused) hinvented⟩

/-- **A default that is taken for a user's write.**  With permission a preferences update starts from the captured image;
without it the next one is merged into the result, acknowledged and recorded. -/
theorem default_trusted_unpermitted : blankOverBle.validate = .ok () ∧
    ¬ ∀ state invented, Traced (fun _ _ => True) blankOverBle state invented → ∀ edited device profile,
      invented edited device profile → DefaultRefused state edited device profile := by
  refine ⟨by decide +kernel, fun hall => ?_⟩
  obtain ⟨state, invented, htraced, hinvented, hlater⟩ := traced_permitted
  obtain ⟨⟨r, state', h⟩, hgoes, hended⟩ := (Option.any_eq_true ..).1 hlater
  have hrefused := hall state invented htraced .preferences mouse1 first hinvented unpermitted.delta unpermitted.policy
    rfl rfl _ _ _ (Bench.goes_ends hgoes)
  rw [hrefused.1] at hended
  simp at hended

end Rig
end AttackSharkX3
