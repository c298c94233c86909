import AttackSharkX3.Ordinary
/-!
# Stamping — what a ceremony action does

The rule of the ceremony actions, about one client's own history.  `Since` keeps a state the client loaded and the
transactions it committed from then on.  A stamping call works to a plan, the journal it loaded: it writes the captured
image of one pending profile at a time under the reserved token, and marks a profile only after a write it confirmed.
-/
namespace AttackSharkX3

open Effects (Prog Fallible Tries Either)
open Effects.Prog (Event History Keeps)

/-! ## Histories of a client -/

/-- Loads and commits, the operations on the store. -/
def Op.onStore : Op → Bool
  | .load | .commit _ => true
  | _ => false

/-- **The client loaded `state` and then committed `txns`**, the newest first, without an error. -/
inductive Since : History Backend → StateFile → List Txn → Prop where
  | loaded (h : History Backend) (state : StateFile) : Since (Did.load (.ok state) :: h) state []
  | reloaded {h state txns r} (before : Since h state txns) : Since (Did.load r :: h) state txns
  | committed {h state txns t out} (before : Since h state txns) :
      Since (Did.commit t (.ok (.ok out)) :: h) state (t :: txns)
  | other {h state txns o r} (before : Since h state txns) (off : Op.onStore o = false) : Since (⟨o, r⟩ :: h) state txns

/-- The state loaded last. -/
def lastLoad (h : History Backend) : Option StateFile := (loads h).head?

theorem lastLoad_other {h : History Backend} {o : Op} {r : o.Res} (off : o.onStore = false) :
    lastLoad (⟨o, r⟩ :: h) = lastLoad h := by
  have hl : Op.loaded o r = none := by cases o <;> first | rfl | cases off
  simp [lastLoad, loads, hl]

@[simp] theorem lastLoad_commit {h : History Backend} {t : Txn} {r} : lastLoad (Did.commit t r :: h) = lastLoad h := rfl
@[simp] theorem lastLoad_load {h : History Backend} {state : StateFile} :
    lastLoad (Did.load (.ok state) :: h) = some state := rfl

/-- What a client loaded last, after one more operation: the store, or what it was. -/
theorem lastLoad_op {ι μ : Type} [DecidableEq ι] [DecidableEq μ] {H : Hardware} {owner : ι → μ} {i : ι}
    {w w' : World H ι μ} {o : Op} {r : o.Res} (hstep : World.step owner w (.op i o r) w')
    {h : History Backend} {state : StateFile} (hl : lastLoad (⟨o, r⟩ :: h) = some state) :
    state = w.store ∨ lastLoad h = some state := by
  cases ho : Op.loaded o r with
  | none =>
    refine .inr ?_
    simpa [lastLoad, loads, ho] using hl
  | some loaded =>
    refine .inl ?_
    obtain ⟨hs, -⟩ := loaded_of_step hstep ho
    have hloaded : loaded = state := by simpa [lastLoad, loads, ho] using hl
    rw [← hloaded, hs]

/-- The profile an operation makes current. -/
def Op.makesCurrent : Op → Option ProfileId
  | .session _ (.writeProfileMetadata metadata) => some metadata.current
  | _ => none

/-- **The profile the client last made current.** -/
def targetProfile (h : History Backend) : Option ProfileId := h.findSome? fun ev => Op.makesCurrent ev.1

/-- The DPI image the client last sent. -/
def lastImage (h : History Backend) : Option DpiState := h.findSome? fun ev =>
  match (ev.1 : Op) with
  | .session _ (.writeDpi image _) => some image
  | _ => none

theorem lastImage_write {h : History Backend} {endpoint : DeviceEndpoint} {image : DpiState}
    {verification : VerificationMethod} {r} :
    lastImage (Did.session endpoint (.writeDpi image verification) r :: h) = some image := rfl

section Watermarks

variable [Crc32fast]

/-- **The profile was written and read back under the token**: it was current, the image was sent with a readback asked
for, and the token came back with the write, or with a read of the profile after it. -/
def Confirmed (h : History Backend) (endpoint : DeviceEndpoint) (profile : ProfileId) (image : DpiState)
    (token : PhysicalId) : Prop :=
  ∃ write h₀, (Did.session endpoint (.writeDpi image .readback) (.ok write) :: h₀) <:+ h ∧
    targetProfile h₀ = some profile ∧ match write with
      | .readbackVerified actual => actual.physicalId = .valid token
      | .acknowledged => ∃ actual h₁, (Did.session endpoint (.readDpi profile) (.ok actual) :: h₁) <:+ h ∧
        actual.physicalId = .valid token ∧
          (Did.session endpoint (.writeDpi image .readback) (.ok .acknowledged) :: h₀) <:+ h₁

theorem Confirmed.cons {h : History Backend} {endpoint : DeviceEndpoint} {profile : ProfileId} {image : DpiState}
    {token : PhysicalId} (hc : Confirmed h endpoint profile image token) (ev : Event Backend) :
    Confirmed (ev :: h) endpoint profile image token := by
  obtain ⟨write, h₀, hs, htarget, hread⟩ := hc
  refine ⟨write, h₀, hs.trans (List.suffix_cons ev h), htarget, ?_⟩
  cases write with
  | readbackVerified actual => exact hread
  | acknowledged =>
    obtain ⟨actual, h₁, hs₁, rest⟩ := hread
    exact ⟨actual, h₁, hs₁.trans (List.suffix_cons ev h), rest⟩

/-- A write answered with the image it sent, or was only acknowledged. -/
def SessionWrite.shows (sent : DpiState) : SessionWrite DpiState → Prop
  | .readbackVerified actual => actual.physicalId = sent.physicalId
  | .acknowledged => True

/-- A session call went through, given the image last sent: it answered, and what it read back is what was sent. -/
def SessionCall.succeeds (sent : Option DpiState) : (call : SessionCall) → Except ManagerError call.Value → Prop
  | .writeDpi image _, r => ∃ write : SessionWrite DpiState, r = .ok write ∧ write.shows image
  | .readDpi _, r => ∃ actual : DpiState, r = .ok actual ∧ ∀ image, sent = some image → actual.physicalId = image.physicalId
  | .writeProfileMetadata metadata, r => r = .ok (.readbackVerified metadata)
  | _, r => ∃ value, r = .ok value

/-- **An operation failed**: with an error, or with a readback that does not show what was sent. -/
def Op.fails (h : History Backend) : (o : Op) → o.Res → Prop
  | .load, r => ∃ e, (r : Except StateError StateFile) = .error e
  | .commit t, r => ¬ ∃ out, (r : Except StateError (Except ManagerError t.Out)) = .ok (.ok out)
  | .session _ call, r => ¬ call.succeeds (lastImage h) r
  | .open_ _, r | .acquire .., r => ∃ e, (r : Except ManagerError Unit) = .error e
  | _, _ => False

/-- The transactions that mark a profile stamped. -/
def Txn.marks : Txn → Option ProfileId
  | .markStamped profile => some profile
  | .finishStamping _ _ pendingLast => pendingLast
  | _ => none

def Op.marks : Op → Bool
  | .commit t => t.marks.isSome
  | _ => false

/-- **A DPI image was sent, and since then nothing failed and no profile was marked.** -/
def Unmarked : History Backend → Prop
  | [] => False
  | ev :: h => ¬ Op.fails h ev.1 ev.2 ∧ (Op.writesDpi ev.1 = true ∨ (Op.marks ev.1 = false ∧ Unmarked h))

theorem not_unmarked_cons {h : History Backend} {o : Op} {r : o.Res} (hh : ¬ Unmarked h) (ho : o.writesDpi = false) :
    ¬ Unmarked (⟨o, r⟩ :: h) := by
  rintro ⟨-, hw | ⟨-, hu⟩⟩
  · rw [ho] at hw
    cases hw
  · exact hh hu

theorem not_unmarked_of_fails {h : History Backend} {o : Op} {r : o.Res} (hf : o.fails h r) : ¬ Unmarked (⟨o, r⟩ :: h) :=
  fun hu => hu.1 hf

theorem not_unmarked_of_marks {h : History Backend} {o : Op} {r : o.Res} (hm : o.marks = true)
    (hw : o.writesDpi = false) : ¬ Unmarked (⟨o, r⟩ :: h) := by
  rintro ⟨-, hw' | ⟨hm', -⟩⟩
  · rw [hw] at hw'
    cases hw'
  · rw [hm] at hm'
    cases hm'

/-! ## Plans -/

/-- **What a stamping call works to**: the journal it found, and the subject and token as it loaded them next. -/
structure StampPlan where
  start : StateFile
  found : IdentitySetupJournal
  inStart : start.identitySetup = some found
  stamping : found.stage = .stamping
  state : StateFile
  journal : IdentitySetupJournal
  inState : state.identitySetup = some journal
  subject : IdentitySetupSubject
  last : journal.subjects.getLast? = some subject
  token : PhysicalId
  reserved : subject.token = some token
  captured : CapturedProfileImage
  image : subject.captured = some captured

namespace StampPlan

/-- The profiles the plan stamps. -/
def pending (plan : StampPlan) : List ProfileId := pendingProfiles plan.subject plan.captured

omit [Crc32fast] in
/-- A pending profile was not stamped when the plan was loaded. -/
theorem not_stamped_of_pending {plan : StampPlan} {p : ProfileId} (hp : p ∈ plan.pending) :
    plan.subject.isStamped p = false := by
  simpa using (List.mem_filter.1 hp).2

omit [Crc32fast] in
/-- Every captured profile is pending or stamped. -/
theorem pending_or_stamped {plan : StampPlan} {p : ProfileId} {profile : ProfileState}
    (hp : plan.captured.profiles[p]? = some profile) : p ∈ plan.pending ∨ plan.subject.isStamped p = true := by
  by_cases hs : plan.subject.isStamped p = true
  · exact .inr hs
  · exact .inl (List.mem_filter.2 ⟨BTreeMap.mem_keys_iff.2 ⟨profile, hp⟩, by simpa using hs⟩)

/-- The profile's captured image was written under the plan's token, and the token read back. -/
def Stamped (plan : StampPlan) (h : History Backend) (profile : ProfileId) : Prop :=
  ∃ dpi, plan.subject.capturedDpi profile = some dpi ∧
    Confirmed h plan.subject.endpoint profile (withPhysicalWatermark dpi (some plan.token)) plan.token

/-- **Where a call is in its plan**: `marks` are the profiles it marked since it loaded the plan, each of them stamped. -/
structure At (plan : StampPlan) (marks : List ProfileId) (h : History Backend) : Prop where
  loaded : lastLoad h = some plan.state
  since : Since h plan.state (marks.map .markStamped)
  begun : ∃ txns, Since h plan.start txns ∧ ∀ t ∈ txns, (∃ token, t = .reserveToken token) ∨ ∃ p, t = .markStamped p
  stamped : ∀ p ∈ marks, plan.Stamped h p
  pend : ∀ p ∈ marks, p ∈ plan.pending

theorem Stamped.cons {plan : StampPlan} {h : History Backend} {p : ProfileId} (hs : plan.Stamped h p)
    (ev : Event Backend) : plan.Stamped (ev :: h) p := by
  obtain ⟨dpi, hd, hc⟩ := hs
  exact ⟨dpi, hd, hc.cons ev⟩

theorem At.other {plan : StampPlan} {marks : List ProfileId} {h : History Backend} (ha : plan.At marks h) {o : Op}
    {r : o.Res} (off : o.onStore = false) : plan.At marks (⟨o, r⟩ :: h) where
  loaded := by rw [lastLoad_other off, ha.loaded]
  since := .other ha.since off
  begun := by
    obtain ⟨txns, hs, ht⟩ := ha.begun
    exact ⟨txns, .other hs off, ht⟩
  stamped p hp := (ha.stamped p hp).cons _
  pend := ha.pend

theorem At.mark {plan : StampPlan} {marks : List ProfileId} {h : History Backend} (ha : plan.At marks h) {p : ProfileId}
    (hp : p ∈ plan.pending) (hs : plan.Stamped h p) :
    plan.At (p :: marks) (Did.commit (.markStamped p) (.ok (.ok ())) :: h) where
  loaded := ha.loaded
  since := .committed ha.since
  begun := by
    obtain ⟨txns, hb, ht⟩ := ha.begun
    refine ⟨_, .committed hb, fun t h => ?_⟩
    rcases List.mem_cons.1 h with rfl | h
    · exact .inr ⟨p, rfl⟩
    · exact ht t h
  stamped q hq := by
    rcases List.mem_cons.1 hq with rfl | hq
    · exact hs.cons _
    · exact (ha.stamped q hq).cons _
  pend q hq := by
    rcases List.mem_cons.1 hq with rfl | hq
    · exact hp
    · exact ha.pend q hq

/-- **The write of one pending profile.** -/
structure Writes (plan : StampPlan) (marks : List ProfileId) (h : History Backend) (profile : ProfileId)
    (endpoint : DeviceEndpoint) (image : DpiState) (verification : VerificationMethod) : Prop where
  at_ : plan.At marks h
  endpoint_eq : endpoint = plan.subject.endpoint
  readback : verification = .readback
  target : targetProfile h = some profile
  pend : profile ∈ plan.pending
  unmarked : profile ∉ marks
  image_eq : ∃ dpi, plan.subject.capturedDpi profile = some dpi ∧ image = withPhysicalWatermark dpi (some plan.token)

/-- **The plan is carried out**: every pending profile is marked, but the last, which is stamped. -/
structure Done (plan : StampPlan) (h : History Backend) : Prop where
  at_ : ∃ marks, plan.At marks h ∧ ∀ p ∈ plan.pending, p ∈ marks ∨ plan.pending.getLast? = some p
  last : ∀ p ∈ plan.pending.getLast?, plan.Stamped h p
  settled : plan.pending = [] → ¬ Unmarked h

end StampPlan

/-! ## The rule -/

/-- The subject a Reconnected call journals: an adopted token is the one every captured profile carries that counts as
stamped, and otherwise nothing is reserved or stamped yet. -/
structure Presented (journal : IdentitySetupJournal) (phase : IdentitySetupPhase) (subject : IdentitySetupSubject)
    (allValid : Bool) : Prop where
  phase_eq : journal.phase = phase
  awaiting : journal.stage = .awaitingCapture
  alone : phase ≠ .initialEnrollment → journal.subjects = []
  captured : subject.captured.isSome
  fresh : phase ≠ .foreignAdoption → subject.token = none ∧ ∀ p, subject.isStamped p = false
  adopted : phase = .foreignAdoption → ∃ token, subject.token = some token ∧ ∀ p dpi, subject.capturedDpi p = some dpi →
    (subject.isStamped p = true ∧ dpi.physicalId = .valid token) ∨ dpi.physicalId = .absent
  marked : ∀ p, subject.isStamped p = true → ∃ token dpi, subject.token = some token ∧ subject.capturedDpi p = some dpi ∧
    dpi.physicalId = .valid token
  all : allValid = true ↔ phase = .foreignAdoption ∧ subject.isFullyStamped = true

/-- **What a ceremony action may commit** after what it has done. -/
def MayCommit (h : History Backend) : Txn → Prop
  | .beginCeremony _ => ∃ state, lastLoad h = some state ∧ Since h state [] ∧ state.identitySetup = none ∧
      wroteDpi h = false
  | .pushSubject phase subject allValid => ∃ state journal, lastLoad h = some state ∧ Since h state [] ∧
      state.identitySetup = some journal ∧ Presented journal phase subject allValid ∧ wroteDpi h = false
  | .reserveToken _ => ∃ state journal subject, lastLoad h = some state ∧ Since h state [] ∧
      state.identitySetup = some journal ∧ journal.subjects.getLast? = some subject ∧ subject.token = none
  | .markStamped profile => ∃ (plan : StampPlan) (marks : List ProfileId), plan.At marks h ∧ profile ∈ plan.pending ∧
      plan.Stamped h profile
  | .finishStamping phase awaitSecond pendingLast => ∃ plan : StampPlan, plan.Done h ∧ phase = plan.found.phase ∧
      awaitSecond = (phase = .initialEnrollment && plan.journal.subjects.length = 1) ∧
      pendingLast = plan.pending.getLast?
  | .finalizeMigration _ => ∃ state journal, lastLoad h = some state ∧ Since h state [] ∧
      state.identitySetup = some journal ∧ journal.phase = .initialEnrollment ∧ journal.stage = .finalizing ∧
      ∀ subject ∈ journal.subjects, subject.isFullyStamped = true
  | .cancelCeremony => ∃ state journal, lastLoad h = some state ∧ Since h state [] ∧
      state.identitySetup = some journal ∧ journal.irreversible = false
  | .associate .. => True
  | .ensureLegacyMouse _ | .attachSilently .. | .syncEndpointAssociations .. | .rememberResolution .. | .persistDpi ..
  | .persistPreferences .. | .persistButtons .. | .persistPollingRate .. | .persistProfile .. | .persistObservation ..
  | .persistMetadata .. | .reconcile .. | .updateLocator .. => False

/-- **The rule of a ceremony action.** -/
def ceremonyRule (h : History Backend) : Op → Prop
  | .session endpoint (.writeDpi image verification) =>
    ∃ (plan : StampPlan) (marks : List ProfileId) (p : ProfileId), plan.Writes marks h p endpoint image verification
  | .commit t => MayCommit h t
  | _ => True

end Watermarks

end AttackSharkX3
