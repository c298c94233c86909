import AttackSharkX3.Alone
import AttackSharkX3.Evidence
import AttackSharkX3.Records
import AttackSharkX3.Rig
import AttackSharkX3.Verify
/-!
# Reread — what a persistence claim rests on

A verification claims persistence for a section it read twice, the same both times, and only where the section's desired
value is the one it read.  Everything between the two reads, and what other processes do to the store, is left open.
-/
namespace AttackSharkX3

open Effects (Fallible Leads)
open Effects.Prog (Event History Ends)

/-! ## Two reads -/

/-- The target, read whole. -/
def wholeRead (target : ProfileId) (ev : Event Backend) : Option ProfileSnapshot :=
  match ev with
  | ⟨.session _ (.readProfile profile), r⟩ =>
    if profile = target then (r : Except ManagerError ProfileSnapshot).toOption else none
  | _ => none

/-- The live rate, read for the target. -/
def rateRead (target : ProfileId) (ev : Event Backend) : Option PollingRate :=
  match ev with
  | ⟨.session _ (.readLivePollingRate profile), r⟩ =>
    if profile = target then (r : Except ManagerError PollingRate).toOption else none
  | _ => none

/-- What was read of the target, the newest first. -/
def imagesRead (target : ProfileId) (h : History Backend) : List ProfileSnapshot × List PollingRate :=
  (h.filterMap (wholeRead target), h.filterMap (rateRead target))

/-- The complete images read of the target, the newest first. -/
def Read (target : ProfileId) (images : List (ProfileSnapshot × PollingRate)) (h : History Backend) : Prop :=
  imagesRead target h = (images.map (·.1), images.map (·.2))

/-- Neither a profile nor the live rate is read. -/
def Op.leavesImages : Op → Bool
  | .session _ (.readProfile _) | .session _ (.readLivePollingRate _) => false
  | _ => true

/-- **What an operation may do while other processes change the store.** -/
def Op.doesAmong (o : Op) (_ : StateFile) (r : o.Res) (state' : StateFile) : Prop := ∃ mid, o.does mid r state'

theorem Read.stable {target : ProfileId} {images : List (ProfileSnapshot × PollingRate)} {o : Op} {r : o.Res}
    {h : History Backend} (ho : o.leavesImages = true) (hr : Read target images h) : Read target images (⟨o, r⟩ :: h) := by
  unfold Read imagesRead at *
  cases o with
  | session endpoint call =>
    cases call with
    | readProfile | readLivePollingRate => cases ho
    | _ => exact hr
  | _ => exact hr

theorem imagesRead_profile {target : ProfileId} {endpoint : DeviceEndpoint} {snapshot : ProfileSnapshot}
    {h : History Backend} :
    imagesRead target (⟨Op.session endpoint (.readProfile target), (.ok snapshot : Except ManagerError ProfileSnapshot)⟩ ::
      h) = (snapshot :: (imagesRead target h).1, (imagesRead target h).2) := by
  have hread : wholeRead target ⟨Op.session endpoint (.readProfile target),
      (.ok snapshot : Except ManagerError ProfileSnapshot)⟩ = some snapshot := if_pos rfl
  exact Prod.ext (List.filterMap_cons_some (f := wholeRead target) hread) rfl

theorem imagesRead_rate {target : ProfileId} {endpoint : DeviceEndpoint} {rate : PollingRate} {h : History Backend} :
    imagesRead target (⟨Op.session endpoint (.readLivePollingRate target), (.ok rate : Except ManagerError PollingRate)⟩ ::
      h) = ((imagesRead target h).1, rate :: (imagesRead target h).2) := by
  have hread : rateRead target ⟨Op.session endpoint (.readLivePollingRate target),
      (.ok rate : Except ManagerError PollingRate)⟩ = some rate := if_pos rfl
  exact Prod.ext rfl (List.filterMap_cons_some (f := rateRead target) hread)

section Reads

variable {target : ProfileId} {images : List (ProfileSnapshot × PollingRate)} {α : Type}

/-- What reads no image leaves what was read. -/
theorem leads_leavesImages {x : Manager α} (hx : Fallible.Only (S := Backend) (fun o => o.leavesImages = true) x) :
    Leads (S := Backend) Op.doesAmong (fun _ h => Read target images h) x (fun _ _ h => Read target images h)
      fun _ _ _ => True :=
  (Leads.only (fun _ _ _ _ _ ho hr _ => hr.stable ho) hx).mono (fun _ _ => id) (fun _ _ _ => id) fun _ _ _ _ => trivial

/-- **A complete read** adds one image. -/
theorem leads_readCompleteProfile {session : Session} :
    Leads (S := Backend) Op.doesAmong (fun _ h => Read target images h) (readCompleteProfile session target)
      (fun image _ h => Read target (image :: images) h) fun _ _ _ => True := by
  have hsnapshot : Leads (S := Backend) Op.doesAmong (fun _ h => Read target images h) (session.readProfile target)
      (fun snapshot _ h => imagesRead target h = (snapshot :: images.map (·.1), images.map (·.2))) fun _ _ _ => True := by
    refine .perform fun s h r s' hr _ => ?_
    have hr : imagesRead target h = (images.map (·.1), images.map (·.2)) := hr
    cases (r : Except ManagerError ProfileSnapshot) with
    | ok snapshot => exact imagesRead_profile.trans (by rw [hr])
    | error e => trivial
  refine .bind hsnapshot fun snapshot => ?_
  have hrate : Leads (S := Backend) Op.doesAmong
      (fun _ h => imagesRead target h = (snapshot :: images.map (·.1), images.map (·.2)))
      (session.readLivePollingRate target) (fun rate _ h => Read target ((snapshot, rate) :: images) h) fun _ _ _ => True := by
    refine .perform fun s h r s' hr _ => ?_
    cases (r : Except ManagerError PollingRate) with
    | ok rate => exact imagesRead_rate.trans (by rw [hr]; rfl)
    | error e => trivial
  exact .bind hrate fun rate => .pure fun _ _ => id

end Reads

/-! ## The claims -/

/-- The claim a mark makes. -/
def PersistenceMark.claim : PersistenceMark → Timestamp → PersistenceVerification
  | .profileReload => .profileReloadVerified
  | .powerCycle => .powerCycleVerified

/-- **No claim but this one**, and that only for the value. -/
def ResourceState.ClaimsOnly {T : Type} (resource : ResourceState T) (value : T) (claim : PersistenceVerification) : Prop :=
  ∀ desired, resource.desired = some desired → desired.verification.persistence = .unknown ∨
    (desired.verification.persistence = claim ∧ desired.value = value)

theorem claimsOnly_marked {T : Type} [DecidableEq T] {resource : ResourceState T} {value : T} {now : Timestamp}
    (mark : PersistenceMark) (hobserved : ∀ observed, resource.observed = some observed → observed.value = value) :
    (resource.markAllOrInvalidate now mark.tryMark).ClaimsOnly value (mark.claim now) := by
  have htry : mark.tryMark resource now = resource.tryMarkPersistence (mark.claim now) := by cases mark <;> rfl
  intro desired hdesired
  unfold ResourceState.markAllOrInvalidate at hdesired
  rw [htry] at hdesired
  rcases resource.tryMarkPersistence_cases (mark.claim now) with
    hsame | ⟨desired', observed, -, hobs, -, hvalue, -, -, hmarked⟩
  · rw [hsame] at hdesired
    obtain ⟨desired', -, rfl⟩ := Option.map_eq_some_iff.1 hdesired
    exact .inl rfl
  · rw [hmarked] at hdesired
    cases hdesired
    exact .inr ⟨rfl, hvalue.trans (hobserved observed hobs)⟩

theorem claimsOnly_observation {T : Type} [DecidableEq T] (resource : ResourceState T) (value : T) (now : Timestamp)
    (mark : PersistenceMark) :
    ((resource.reconcileObservation value now).markAllOrInvalidate now mark.tryMark).ClaimsOnly value (mark.claim now) := by
  refine claimsOnly_marked mark fun observed hobserved => ?_
  cases hobserved
  rfl

/-- The two images are one: the four sections, and the metadata that is compared. -/
structure SameImage (initial reloaded : ProfileSnapshot × PollingRate) : Prop where
  maximum : initial.1.persistentMetadata.maximum = reloaded.1.persistentMetadata.maximum
  dpi : initial.1.dpi = reloaded.1.dpi
  preferences : initial.1.preferences = reloaded.1.preferences
  buttons : initial.1.buttons = reloaded.1.buttons
  pollingRate : initial.2 = reloaded.2

theorem firstMismatch_none {initial reloaded : ProfileSnapshot × PollingRate} :
    firstMismatch initial.1 initial.2 reloaded.1 reloaded.2 = none ↔ SameImage initial reloaded := by
  constructor
  · intro h
    unfold firstMismatch at h
    split at h
    · cases h
    · next hmaximum =>
      split at h
      · cases h
      · next hdpi =>
        split at h
        · cases h
        · next hpreferences =>
          split at h
          · cases h
          · next hbuttons =>
            split at h
            · cases h
            · next hrate =>
              exact ⟨not_not.1 hmaximum, not_not.1 hdpi, not_not.1 hpreferences, not_not.1 hbuttons, not_not.1 hrate⟩
  · intro h
    simp [firstMismatch, h.maximum, h.dpi, h.preferences, h.buttons, h.pollingRate]

/-- **What a verification proved**: it read two images, the same, and every claim it left is about what it read. -/
structure Verified (device : DeviceId) (target : ProfileId) (mark : PersistenceMark) (state : StateFile)
    (initial reloaded : ProfileSnapshot × PollingRate) (verifiedAt : Timestamp) : Prop where
  same : SameImage initial reloaded
  dpi : (state.held .dpi device target).ClaimsOnly reloaded.1.dpi (mark.claim verifiedAt)
  preferences : (state.held .preferences device target).ClaimsOnly reloaded.1.preferences (mark.claim verifiedAt)
  buttons : (state.held .buttons device target).ClaimsOnly reloaded.1.buttons (mark.claim verifiedAt)
  pollingRate : (state.held .pollingRate device target).ClaimsOnly reloaded.2 (mark.claim verifiedAt)

/-- The record of a second image that is the first again. -/
theorem verified_observed {state : StateFile} {device : DeviceId} {deviceState : DeviceState}
    {initial reloaded : ProfileSnapshot × PollingRate} (target : ProfileId) (mark : PersistenceMark) (verifiedAt : Timestamp)
    (hd : state.devices[device]? = some deviceState) (hsame : SameImage initial reloaded) :
    Verified device target mark
      ((Txn.persistObservation device target reloaded.1 reloaded.2 (some (mark.claim verifiedAt)) verifiedAt).after state)
      initial reloaded verifiedAt := by
  have hafter : (Txn.persistObservation device target reloaded.1 reloaded.2 (some (mark.claim verifiedAt))
      verifiedAt).after state = { state with devices := state.devices.insert device { deviceState with
        profiles := deviceState.profiles.insert target ((deviceState.profiles[target]?.getD .empty).observe reloaded.1
          reloaded.2 (some (mark.claim verifiedAt)) verifiedAt) } } := congrArg Prod.snd (observeProfile_apply hd ..)
  have hheld : ∀ {T : Type} {sect : Section T}, sect.Lawful →
      ((Txn.persistObservation device target reloaded.1 reloaded.2 (some (mark.claim verifiedAt)) verifiedAt).after
        state).held sect device target = sect.get ((deviceState.profiles[target]?.getD .empty).observe reloaded.1
          reloaded.2 (some (mark.claim verifiedAt)) verifiedAt) := by
    intro T sect hs
    rw [hafter, held_eq hs (BTreeMap.get_insert_self ..), BTreeMap.get_insert_self]
    rfl
  refine ⟨hsame, ?_, ?_, ?_, ?_⟩
  · rw [hheld lawful_dpi]
    have hclaims := claimsOnly_observation (deviceState.profiles[target]?.getD .empty).dpi reloaded.1.dpi verifiedAt mark
    cases mark <;> exact hclaims
  · rw [hheld lawful_preferences]
    have hclaims := claimsOnly_observation (deviceState.profiles[target]?.getD .empty).preferences reloaded.1.preferences
      verifiedAt mark
    cases mark <;> exact hclaims
  · rw [hheld lawful_buttons]
    have hclaims := claimsOnly_observation (deviceState.profiles[target]?.getD .empty).buttons reloaded.1.buttons
      verifiedAt mark
    cases mark <;> exact hclaims
  · rw [hheld lawful_pollingRate]
    have hclaims := claimsOnly_observation (deviceState.profiles[target]?.getD .empty).pollingRate reloaded.2
      verifiedAt mark
    cases mark <;> exact hclaims

/-! ## The workflows -/

section Workflows

variable {device : DeviceId} {target : ProfileId} {images : List (ProfileSnapshot × PollingRate)}

/-- The record of a second image that is the first again. -/
theorem leads_claim (mark : PersistenceMark) {initial reloaded : ProfileSnapshot × PollingRate} {verifiedAt : Timestamp}
    (hsame : SameImage initial reloaded) :
    Leads (S := Backend) Op.doesAmong (fun _ h => Read target [reloaded, initial] h)
      (Manager.commit (.persistObservation device target reloaded.1 reloaded.2 (some (mark.claim verifiedAt)) verifiedAt))
      (fun _ s h => Read target [reloaded, initial] h ∧ ∃ verifiedAt, Verified device target mark s initial reloaded verifiedAt)
      fun _ _ _ => True := by
  refine .perform fun s h r s' hr hd => ?_
  obtain ⟨mid, hd⟩ := hd
  have hread : Read target [reloaded, initial] (⟨Op.commit (.persistObservation device target reloaded.1 reloaded.2
      (some (mark.claim verifiedAt)) verifiedAt), r⟩ :: h) := hr.stable rfl
  have hd : Commits (.persistObservation device target reloaded.1 reloaded.2 (some (mark.claim verifiedAt)) verifiedAt)
    mid r s' := hd
  cases hdevice : mid.devices[device]? with
  | none =>
    have hanswer : (Txn.persistObservation device target reloaded.1 reloaded.2 (some (mark.claim verifiedAt))
        verifiedAt).answer mid = .error (.deviceNotFound device) := by
      have happly : (Txn.observeProfile device target reloaded.1 reloaded.2 (some (mark.claim verifiedAt))
          verifiedAt).apply mid = (.error (.deviceNotFound device), mid) := by
        simp [Txn.observeProfile, Mutation.apply_bind, hdevice]
      exact congrArg Prod.fst happly
    cases hd with
    | unchanged _ | stored _ =>
      rw [hanswer]
      trivial
    | rejected _ | failed _ | unsynced _ _ => trivial
  | some deviceState =>
    have hanswer : (Txn.persistObservation device target reloaded.1 reloaded.2 (some (mark.claim verifiedAt))
        verifiedAt).answer mid = .ok ⟨⟩ := congrArg Prod.fst (observeProfile_apply hdevice ..)
    have hverified := verified_observed target mark verifiedAt hdevice hsame
    cases hd with
    | unchanged same =>
      rw [same] at hverified
      rw [hanswer] at hread ⊢
      exact ⟨hread, verifiedAt, hverified⟩
    | stored _ =>
      rw [hanswer] at hread ⊢
      exact ⟨hread, verifiedAt, hverified⟩
    | rejected _ | failed _ | unsynced _ _ => trivial

/-- **The end of a verification** that answers with a value. -/
theorem leads_finishVerification (mark : PersistenceMark) (initial reloaded : ProfileSnapshot × PollingRate) :
    Leads (S := Backend) Op.doesAmong (fun _ h => Read target [reloaded, initial] h)
      (finishVerification device target initial reloaded mark.claim)
      (fun _ s h => Read target [reloaded, initial] h ∧ ∃ verifiedAt, Verified device target mark s initial reloaded verifiedAt)
      fun _ _ _ => True := by
  refine .bind (leads_leavesImages (.perform rfl)) fun verifiedAt => ?_
  cases hmismatch : firstMismatch initial.1 initial.2 reloaded.1 reloaded.2 with
  | some resource =>
    refine .bind (Q := fun _ _ _ => True) ?_ fun _ => .throw fun _ _ _ => trivial
    exact (leads_leavesImages (.perform rfl)).mono (fun _ _ => id) (fun _ _ _ _ => trivial) fun _ _ _ => id
  | none => exact .bind (leads_claim mark (firstMismatch_none.1 hmismatch)) fun _ => .pure fun _ _ => id

variable {session : Session}

theorem leavesImages_opening : Opening fun o => o.leavesImages = true where
  acquire _ _ := rfl
  load := rfl
  opened _ := rfl
  cached := rfl
  cacheInsert _ _ := rfl
  readProfileMetadata _ := rfl
  readDpi _ _ := rfl

theorem leavesImages_writeExactMetadata {metadata : ProfileMetadata} :
    Fallible.Only (S := Backend) (fun o => o.leavesImages = true) (writeExactMetadata session metadata) := by
  refine .bind (.perform rfl) fun write => ?_
  split
  · exact .ite .pure .throw
  · exact .throw

theorem leavesImages_switchAway {away original : ProfileMetadata} :
    Fallible.Only (S := Backend) (fun o => o.leavesImages = true) (switchAway session away original) := by
  refine .bind (.attempt leavesImages_writeExactMetadata) fun result => ?_
  split
  · exact .pure
  · exact .bind leavesImages_writeExactMetadata fun _ => .throw

variable [Crc32fast]

theorem leads_verifyProfileReload :
    Leads (S := Backend) Op.doesAmong (fun _ h => Read target [] h) (verifyProfileReload device target)
      (fun _ s h => ∃ initial reloaded verifiedAt, Read target [reloaded, initial] h ∧
        Verified device target .profileReload s initial reloaded verifiedAt) fun _ _ _ => True := by
  have hleaves : ∀ {α : Type} {x : Manager α} {images : List (ProfileSnapshot × PollingRate)},
      Fallible.Only (S := Backend) (fun o => o.leavesImages = true) x →
      Leads (S := Backend) Op.doesAmong (fun _ h => Read target images h) x (fun _ _ h => Read target images h)
        fun _ _ _ => True := fun hx => leads_leavesImages hx
  refine .bind (hleaves leavesImages_opening.openLocked) fun opened => ?_
  obtain ⟨identity, session⟩ := opened
  refine .bind (hleaves .ensure) fun _ => .bind (hleaves (.perform rfl)) fun original => .bind (hleaves .ensure) fun _ =>
    .bind (hleaves .ofOption) fun away => .bind leads_readCompleteProfile fun initial => .bind (hleaves .ofExcept) fun _ =>
    .bind (hleaves leavesImages_switchAway) fun _ => .bind (hleaves .ofExcept) fun targetMetadata => ?_
  -- An error of the second read is kept until the original metadata is back.
  let Reloaded (result : Except ManagerError (ProfileSnapshot × PollingRate)) (h : History Backend) : Prop :=
    ∀ reloaded, result = .ok reloaded → Read target [reloaded, initial] h
  refine .bind (Q := fun result _ h => Reloaded result h) (.attempt ?_) fun result => ?_
  · refine (Leads.bind (hleaves leavesImages_writeExactMetadata) fun _ => leads_readCompleteProfile).mono (fun _ _ => id)
      (fun reloaded _ h hr => ?_) fun e _ h _ => nofun
    rintro _ ⟨⟩
    exact hr
  refine .bind (Q := fun _ _ h => Reloaded result h) ?_ fun _ => ?_
  · refine (Leads.only (fun o _ r _ h ho hr _ reloaded hres => ?_) leavesImages_writeExactMetadata).mono (fun _ _ => id)
      (fun _ _ _ => id) fun _ _ _ _ => trivial
    exact (hr reloaded hres).stable ho
  refine .bind (Q := fun reloaded _ h => Read target [reloaded, initial] h)
    (.ofExcept (fun reloaded hres _ h hr => hr reloaded hres) fun _ _ _ _ _ => trivial) fun reloaded => ?_
  refine (leads_finishVerification .profileReload initial reloaded).mono (fun _ _ => id) ?_ fun _ _ _ => id
  rintro outcome s h ⟨hr, verifiedAt, hverified⟩
  exact ⟨initial, reloaded, verifiedAt, hr, hverified⟩

/-! ### The waits -/

omit [Crc32fast] in
theorem leavesImages_waitForDisappearance {transport : TransportKind} {oldEndpoint : DeviceEndpoint} : ∀ patience,
    Fallible.Only (S := Backend) (fun o => o.leavesImages = true)
      (waitForDisappearance device transport oldEndpoint patience)
  | 0 => .bind (.bind (.perform rfl) fun _ => .pure) fun _ => .ensure
  | patience + 1 =>
    .bind (.bind (.perform rfl) fun _ => .pure) fun _ => .ite (leavesImages_waitForDisappearance patience) .pure

theorem leavesImages_candidateWatermark {endpoint : DeviceEndpoint} :
    Fallible.Only (S := Backend) (fun o => o.leavesImages = true) (candidateWatermark endpoint) := by
  refine .bind (.attempt (.perform rfl)) fun opened => ?_
  split
  · exact .pure
  · refine .bind (.attempt leavesImages_opening.currentWatermark) fun result => ?_
    split <;> exact .pure

theorem leavesImages_authenticatedCandidates {token : PhysicalId} : ∀ discovered,
    Fallible.Only (S := Backend) (fun o => o.leavesImages = true) (authenticatedCandidates token discovered)
  | [] => .pure
  | candidate :: rest => by
    unfold authenticatedCandidates
    split
    · exact .bind leavesImages_candidateWatermark fun _ => .bind (leavesImages_authenticatedCandidates rest) fun _ => .pure
    · exact leavesImages_authenticatedCandidates rest

theorem leavesImages_reappeared {transport : TransportKind} {oldEndpoint : DeviceEndpoint}
    {physicalId : Option PhysicalId} : Fallible.Only (S := Backend) (fun o => o.leavesImages = true)
      (reappeared device transport oldEndpoint physicalId) := by
  have hrebind : ∀ found, Fallible.Only (S := Backend) (fun o => o.leavesImages = true) (rebind device found) :=
    fun found => .bind (.perform rfl) fun _ => .pure
  refine .bind (.perform rfl) fun discovered => ?_
  split
  · refine .bind (.bind (leavesImages_authenticatedCandidates _) fun carriers => ?_) fun found => ?_
    · split <;> exact .pure
    · split
      · exact hrebind _
      · exact .pure
  · split
    · exact .pure
    · split
      · exact hrebind _
      · exact .pure

theorem leavesImages_waitForReappearance {transport : TransportKind} {oldEndpoint : DeviceEndpoint}
    {physicalId : Option PhysicalId} : ∀ patience, Fallible.Only (S := Backend) (fun o => o.leavesImages = true)
      (waitForReappearance device transport oldEndpoint physicalId patience)
  | 0 => .bind leavesImages_reappeared fun _ => .ofOption
  | patience + 1 => by
    refine .bind leavesImages_reappeared fun found => ?_
    split
    · exact .pure
    · exact leavesImages_waitForReappearance patience

theorem leads_verifyPowerCycle {patienceGone patienceBack : Nat} :
    Leads (S := Backend) Op.doesAmong (fun _ h => Read target [] h)
      (verifyPowerCycle device target patienceGone patienceBack)
      (fun _ s h => ∃ initial reloaded verifiedAt, Read target [reloaded, initial] h ∧
        Verified device target .powerCycle s initial reloaded verifiedAt) fun _ _ _ => True := by
  have hleaves : ∀ {α : Type} {x : Manager α} {images : List (ProfileSnapshot × PollingRate)},
      Fallible.Only (S := Backend) (fun o => o.leavesImages = true) x →
      Leads (S := Backend) Op.doesAmong (fun _ h => Read target images h) x (fun _ _ h => Read target images h)
        fun _ _ _ => True := fun hx => leads_leavesImages hx
  refine .bind (hleaves leavesImages_opening.openLocked) fun opened => ?_
  obtain ⟨identity, session⟩ := opened
  refine .bind (hleaves .ensure) fun _ => .bind leads_readCompleteProfile fun initial => .bind (hleaves (.perform rfl))
    fun state => .bind (hleaves .ofOption) fun deviceState => .bind (hleaves .ofOption) fun oldEndpoint =>
    .bind (hleaves (leavesImages_waitForDisappearance _)) fun _ =>
    .bind (hleaves (leavesImages_waitForReappearance _)) fun _ => .bind (hleaves leavesImages_opening.openLocked)
      fun reopened => ?_
  obtain ⟨identity', reopened⟩ := reopened
  refine .bind (hleaves .ensure) fun _ => .bind leads_readCompleteProfile fun reloaded => ?_
  refine (leads_finishVerification .powerCycle initial reloaded).mono (fun _ _ => id) ?_ fun _ _ _ => id
  rintro outcome s h ⟨hr, verifiedAt, hverified⟩
  exact ⟨initial, reloaded, verifiedAt, hr, hverified⟩

/-- **One way a call goes** while other processes change the store. -/
abbrev GoesAmong {α : Type} (x : Manager α) (state : StateFile) (result : Except ManagerError α) (state' : StateFile)
    (h : History Backend) : Prop :=
  Ends (S := Backend) Op.doesAmong x.run state [] result state' h

/-- **Persistence is never overclaimed.**  A verification that answers with a value read the target twice, the same both
times; every claim it left is its own and about a desired value that was read, and where it left none the persistence is
unknown. -/
theorem persistence_proved (device : DeviceId) (target : ProfileId) :
    (∀ state outcome state' h, GoesAmong (verifyProfileReload device target) state (.ok outcome) state' h →
      ∃ initial reloaded verifiedAt, Read target [reloaded, initial] h ∧
        Verified device target .profileReload state' initial reloaded verifiedAt) ∧
    ∀ patienceGone patienceBack state outcome state' h,
      GoesAmong (verifyPowerCycle device target patienceGone patienceBack) state (.ok outcome) state' h →
      ∃ initial reloaded verifiedAt, Read target [reloaded, initial] h ∧
        Verified device target .powerCycle state' initial reloaded verifiedAt := by
  constructor
  · intro state outcome state' h hgoes
    exact leads_verifyProfileReload state [] (.ok outcome) state' h rfl hgoes
  · intro patienceGone patienceBack state outcome state' h hgoes
    exact leads_verifyPowerCycle state [] (.ok outcome) state' h rfl hgoes

end Workflows

namespace Rig

/-- A mouse that is unplugged by the first listing, and plugged in at another port by the second. -/
def powerCycled : (listings : Nat) → Bench
  | 0 => bench [(wired "a", unit fun _ => some (token 1))]
  | 1 => bench []
  | _ => bench [(wired "c", unit fun _ => some (token 1))]

def isListing : Op → Bool
  | .list _ => true
  | _ => false

/-- The answers of that mouse, over the store and the number of listings. -/
def powerCycledReplies (o : Op) (s : StateFile × Nat) : Option (o.Res × StateFile × Nat) :=
  let listings := if isListing o then s.2 + 1 else s.2
  ((powerCycled listings).replies o s.1).map fun r => (r.1, r.2, listings)

theorem powerCycledReplies_does (o : Op) (s : StateFile × Nat) (r : o.Res) (s' : StateFile × Nat)
    (h : powerCycledReplies o s = some (r, s')) : o.doesAmong s.1 r s'.1 := by
  obtain ⟨⟨r', state'⟩, hr, heq⟩ := Option.map_eq_some_iff.1 h
  cases heq
  exact ⟨s.1, Bench.does_replies _ o s.1 r' state' hr⟩

/-- The mouse with the fifth profile's image on record. -/
def imaged : StateFile :=
  holding (wired "a") .empty [(fifth, { ProfileState.empty with dpi := acknowledged (image (some (token 1)) fifth) })]

/-- A profile that was loaded again, on a mouse of which nothing was on record, and one that outlived a power cycle, with
its image then on record as persistent. -/
theorem persistence_proved_cycled :
    (∃ outcome state' h,
      GoesAmong (verifyProfileReload mouse1 fifth) (holding (wired "a") .empty []) (.ok outcome) state' h ∧
        ∃ initial reloaded verifiedAt, Read fifth [reloaded, initial] h ∧
          Verified mouse1 fifth .profileReload state' initial reloaded verifiedAt) ∧
    ∃ outcome state' h, GoesAmong (verifyPowerCycle mouse1 fifth 0 0) imaged (.ok outcome) state' h ∧
      ((state'.held .dpi mouse1 fifth).desired.map (·.verification.persistence)) = some (.powerCycleVerified ⟨0⟩) ∧
        ∃ initial reloaded verifiedAt, Read fifth [reloaded, initial] h ∧
          Verified mouse1 fifth .powerCycle state' initial reloaded verifiedAt := by
  constructor
  · have hrun : ((bench [(wired "a", unit fun _ => some (token 1))]).goes (verifyProfileReload mouse1 fifth)
        (holding (wired "a") .empty [])).any (·.1.toOption.isSome) = true := by decide +kernel
    obtain ⟨⟨result, state', h⟩, hgoes, hok⟩ := (Option.any_eq_true ..).1 hrun
    cases result with
    | error e => cases hok
    | ok outcome =>
      have hends := (Bench.goes_ends hgoes).mono fun o s r s' hd => (⟨s, hd⟩ : Op.doesAmong o s r s')
      exact ⟨outcome, state', h, hends, (persistence_proved mouse1 fifth).1 _ outcome state' h hends⟩
  · have hrun : (Effects.Prog.exec (Effects.Prog.logged (S := Backend) powerCycledReplies)
        (verifyPowerCycle mouse1 fifth 0 0).run ((imaged, 0), [])).any (fun ended => ended.1.toOption.isSome &&
          ((ended.2.1.1.held .dpi mouse1 fifth).desired.map (·.verification.persistence)) =
            some (.powerCycleVerified ⟨0⟩)) = true := by decide +kernel
    obtain ⟨⟨result, s', h⟩, hexec, hok⟩ := (Option.any_eq_true ..).1 hrun
    obtain ⟨hok, hclaim⟩ := Bool.and_eq_true_iff.1 hok
    cases result with
    | error e => cases hok
    | ok outcome =>
      have hcycled := Ends.of_exec powerCycledReplies_does hexec
      have hends : GoesAmong (verifyPowerCycle mouse1 fifth 0 0) imaged (.ok outcome) s'.1 h :=
        Ends.map Prod.fst (fun _ _ _ _ does => does) hcycled
      exact ⟨outcome, s'.1, h, hends, of_decide_eq_true hclaim,
        (persistence_proved mouse1 fifth).2 0 0 _ outcome s'.1 h hends⟩

end Rig
end AttackSharkX3
