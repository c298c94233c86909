import AttackSharkX3.Stamping
import AttackSharkX3.Steps
import AttackSharkX3.Traversal
/-!
# Selections — the profiles a stamping makes current

A stamping makes each pending profile current, and writes the captured numbers after the last one.  The loop over the
profiles leaves at its first error, so where it stops the mouse keeps the selection of the profile at hand.
-/
namespace AttackSharkX3

open Effects (Fallible Leads)
open Effects.Prog (Event History Ends)

/-! ## Selections -/

/-- The profile numbers that were read. -/
def metadataReads (h : History Backend) : List ProfileMetadata :=
  (h.filterMap fun ev => match ev with
    | ⟨.session _ .readProfileMetadata, r⟩ => (r : Except ManagerError ProfileMetadata).toOption
    | _ => none).reverse

/-- The profile numbers that were written, whatever was answered. -/
def metadataWrites (h : History Backend) : List ProfileMetadata :=
  (h.filterMap fun ev => match ev with
    | ⟨.session _ (.writeProfileMetadata metadata), _⟩ => some metadata
    | _ => none).reverse

theorem ProfileId.le_max (profile maximum : ProfileId) : profile.get ≤ (maximum.max profile).get := by
  unfold ProfileId.max
  split
  · exact UInt8.le_refl _
  · next h => exact UInt8.le_of_lt (UInt8.not_le.1 h)

/-- **The numbers that make a profile current**: it is enabled for that, if it was not. -/
def selection (profile : ProfileId) (actual : ProfileMetadata) : ProfileMetadata :=
  ⟨profile, actual.maximum.max profile, profile.le_max actual.maximum⟩

theorem new_selection (profile : ProfileId) (actual : ProfileMetadata) :
    ProfileMetadata.new profile (actual.maximum.max profile) = .ok (selection profile actual) :=
  dif_pos (profile.le_max actual.maximum)

/-- A step of stamping a profile; a write of the original numbers is none. -/
def Op.stampStep (original : ProfileMetadata) : Op → Prop
  | .session _ .readProfileMetadata | .session _ (.readDpi _) | .session _ (.writeDpi ..) | .commit (.markStamped _) => True
  | .session _ (.writeProfileMetadata metadata) => metadata ≠ original
  | _ => False

/-- **Every step was answered well.** -/
def WellAnswered [Crc32fast] (original : ProfileMetadata) : History Backend → Prop
  | [] => True
  | ev :: h => (Op.stampStep original ev.1 → ¬ Op.fails h ev.1 ev.2) ∧ WellAnswered original h

/-- **The mouse is put back**: the numbers written last, once any were, are the original ones. -/
def PutsBack (original : ProfileMetadata) (h : History Backend) : Prop :=
  ∀ write, lastWrite h = some write → write.1 = original

variable {original : ProfileMetadata} {subject : IdentitySetupSubject} {done rest : List ProfileId} {h : History Backend}

theorem getLast?_metadataWrites : ∀ h : History Backend, (metadataWrites h).getLast? = (lastWrite h).map (·.1)
  | [] => rfl
  | ⟨o, r⟩ :: h => by
    cases o with
    | session endpoint call =>
      cases call with
      | writeProfileMetadata metadata =>
        have hwrites : metadataWrites (Did.session endpoint (.writeProfileMetadata metadata) r :: h) =
            metadataWrites h ++ [metadata] := List.reverse_cons
        rw [hwrites]
        exact List.getLast?_concat
      | _ => exact getLast?_metadataWrites h
    | _ => exact getLast?_metadataWrites h

/-- The mouse is put back where nothing was written, or the original numbers last. -/
theorem putsBack_iff_writes : PutsBack original h ↔ metadataWrites h = [] ∨ (metadataWrites h).getLast? = some original := by
  rw [← List.getLast?_eq_none_iff, getLast?_metadataWrites]
  unfold PutsBack
  cases lastWrite h with
  | none => simp
  | some write => simp

/-- The profiles done were each made current after a read of the numbers. -/
structure Selected (done : List ProfileId) (h : History Backend) : Prop where
  count : (metadataReads h).length = done.length
  wrote : metadataWrites h = done.zipWith selection (metadataReads h)

/-- The same selections, seen as a part of all that were due. -/
theorem Selected.of_all (hs : Selected done h) (rest : List ProfileId) :
    metadataWrites h = (done ++ rest).zipWith selection (metadataReads h) := by
  have hsplit : (done ++ rest).zipWith selection (metadataReads h ++ []) =
      done.zipWith selection (metadataReads h) ++ rest.zipWith selection [] := List.zipWith_append hs.count.symm
  rw [List.append_nil, List.zipWith_nil_right, List.append_nil] at hsplit
  rw [hs.wrote, hsplit]

/-- The numbers are read and the next profile is made current. -/
theorem Selected.select (hs : Selected done h) (endpoint : DeviceEndpoint) (profile : ProfileId) (actual : ProfileMetadata)
    (r : Except ManagerError (SessionWrite ProfileMetadata)) : Selected (done ++ [profile])
      (Did.session endpoint (.writeProfileMetadata (selection profile actual)) r ::
        Did.session endpoint .readProfileMetadata (.ok actual) :: h) := by
  have hreads : metadataReads (Did.session endpoint (.writeProfileMetadata (selection profile actual)) r ::
      Did.session endpoint .readProfileMetadata (.ok actual) :: h) = metadataReads h ++ [actual] := List.reverse_cons
  have hwrites : metadataWrites (Did.session endpoint (.writeProfileMetadata (selection profile actual)) r ::
      Did.session endpoint .readProfileMetadata (.ok actual) :: h) = metadataWrites h ++ [selection profile actual] :=
    List.reverse_cons
  constructor
  · rw [hreads, List.length_append, List.length_append, hs.count]
    rfl
  · rw [hreads, hwrites, List.zipWith_append hs.count.symm, hs.wrote]
    rfl

variable [Crc32fast]

/-- **How a stamping ended**, for the selections it made. -/
inductive StampEnds (original : ProfileMetadata) (subject : IdentitySetupSubject) (pending : List ProfileId)
    (h : History Backend) : Prop where
  /-- Nothing but selections were written. -/
  | stopped (wrote : metadataWrites h = pending.zipWith selection (metadataReads h))
      (why : metadataWrites h = [] ∨ (∃ p ∈ pending, subject.capturedDpi p = none) ∨ ¬ WellAnswered original h ∨
        (metadataWrites h).getLast? = some original)
  /-- The loop went through, and then the original numbers were written. -/
  | restored (wrote : (metadataWrites h).getLast? = some original) (captured : ∀ p ∈ pending, subject.capturedDpi p ≠ none)
      (well : WellAnswered original h)

theorem StampEnds.putsBack_iff {pending : List ProfileId} (he : StampEnds original subject pending h) :
    PutsBack original h ↔ pending.zipWith selection (metadataReads h) = [] ∨
      (pending.zipWith selection (metadataReads h)).getLast? = some original ∨
      ((∀ p ∈ pending, subject.capturedDpi p ≠ none) ∧ WellAnswered original h) := by
  rw [putsBack_iff_writes]
  cases he with
  | restored wrote captured well =>
    constructor
    · intro _
      exact .inr (.inr ⟨captured, well⟩)
    · intro _
      exact .inr wrote
  | stopped wrote why =>
    rw [← wrote]
    constructor
    · exact Or.imp_right .inl
    · rintro (hnone | hlast | ⟨hcaptured, hwell⟩)
      · exact .inl hnone
      · exact .inr hlast
      · rcases why with hnone | ⟨p, hp, hmissing⟩ | hfailed | hlast
        · exact .inl hnone
        · exact absurd hmissing (hcaptured p hp)
        · exact absurd hwell hfailed
        · exact .inr hlast

/-! ## The loop -/

/-- The steps so far went well. -/
structure Advanced (original : ProfileMetadata) (done : List ProfileId) (h : History Backend) : Prop extends
    Selected done h where
  well : WellAnswered original h

/-- The steps went well up to one that did not, or that wrote the original numbers last. -/
def Strayed (original : ProfileMetadata) (pending : List ProfileId) (h : History Backend) : Prop :=
  metadataWrites h = pending.zipWith selection (metadataReads h) ∧
    (metadataWrites h = [] ∨ ¬ WellAnswered original h ∨ (metadataWrites h).getLast? = some original)

theorem Strayed.stopped {pending : List ProfileId} (hs : Strayed original pending h) :
    StampEnds original subject pending h := by
  obtain ⟨wrote, hnone | hfailed | hmem⟩ := hs
  · exact .stopped wrote (.inl hnone)
  · exact .stopped wrote (.inr (.inr (.inl hfailed)))
  · exact .stopped wrote (.inr (.inr (.inr hmem)))

/-- A step that failed. -/
theorem not_wellAnswered {o : Op} {r : o.Res} (hstep : o.stampStep original) (hfails : o.fails h r) :
    ¬ WellAnswered original (⟨o, r⟩ :: h) := fun hwell => hwell.1 hstep hfails

/-- The image a stamping writes carries its token. -/
theorem physicalId_watermarked (dpi : DpiState) (token : PhysicalId) :
    (withPhysicalWatermark dpi (some token)).physicalId = .valid token := by
  rw [DpiState.physicalId, withPhysicalWatermark_some, decode_toWatermarkBytes]

section Loop

variable {session : Session} {token : PhysicalId} {dpi : DpiState} {profile : ProfileId}

/-- **The confirmation of a write**: the token came back with it, or with a read. -/
theorem leads_stampedIdentity (write : SessionWrite DpiState) :
    Leads (S := Backend) Op.does (fun _ h => ∃ before, h = Did.session session.endpoint
        (.writeDpi (withPhysicalWatermark dpi (some token)) .readback) (.ok write) :: before ∧ Advanced original done before)
      (stampedIdentity session profile write)
      (fun decode _ h => Selected done h ∧ (decode = .valid token → WellAnswered original h) ∧
        (decode ≠ .valid token → ¬ WellAnswered original h))
      fun _ _ h => Selected done h ∧ ¬ WellAnswered original h := by
  cases write with
  | readbackVerified actual =>
    refine .pure fun _ h hh => ?_
    obtain ⟨before, rfl, hs⟩ := hh
    refine ⟨⟨hs.count, hs.wrote⟩, fun hvalid => ⟨fun _ hfails => ?_, hs.well⟩, fun hne => ?_⟩
    · exact hfails ⟨_, rfl, hvalid.trans (physicalId_watermarked dpi token).symm⟩
    · refine not_wellAnswered trivial fun hgood => ?_
      obtain ⟨write, heq, hshows⟩ := hgood
      cases heq
      exact hne (hshows.trans (physicalId_watermarked dpi token))
  | acknowledged =>
    refine .bind (Q := fun actual _ h => Selected done h ∧ (actual.physicalId = .valid token → WellAnswered original h) ∧
      (actual.physicalId ≠ .valid token → ¬ WellAnswered original h)) (.perform fun _ h r _ hh _ => ?_) fun actual =>
        .pure fun _ _ => id
    obtain ⟨before, rfl, hs⟩ := hh
    cases (r : Except ManagerError DpiState) with
    | error e =>
      refine ⟨⟨hs.count, hs.wrote⟩, not_wellAnswered trivial ?_⟩
      rintro ⟨actual, heq, -⟩
      cases heq
    | ok actual =>
      refine ⟨⟨hs.count, hs.wrote⟩, fun hvalid => ⟨fun _ hfails => ?_, fun _ hfails => ?_, hs.well⟩, fun hne => ?_⟩
      · refine hfails ⟨actual, rfl, fun image himage => ?_⟩
        rw [lastImage_write] at himage
        cases himage
        exact hvalid.trans (physicalId_watermarked dpi token).symm
      · exact hfails ⟨_, rfl, trivial⟩
      · refine not_wellAnswered trivial fun hgood => ?_
        obtain ⟨actual, heq, hread⟩ := hgood
        cases heq
        exact hne ((hread _ lastImage_write).trans (physicalId_watermarked dpi token))

/-- Where a write of the numbers fails, it was a step that failed or wrote the original ones. -/
theorem Selected.strayed_select (hs : Selected (done ++ [profile]) h) (rest : List ProfileId)
    (hwrong : ¬ WellAnswered original h ∨ (metadataWrites h).getLast? = some original) :
    Strayed original (done ++ profile :: rest) h := by
  refine ⟨?_, .inr hwrong⟩
  have hall := hs.of_all rest
  rw [List.append_assoc] at hall
  exact hall

/-- A write that was not confirmed is a step that failed, or wrote the original numbers last. -/
theorem unconfirmed_write {endpoint : DeviceEndpoint} {metadata : ProfileMetadata}
    {r : Except ManagerError (SessionWrite ProfileMetadata)} (hr : r ≠ .ok (.readbackVerified metadata)) :
    ¬ WellAnswered original (Did.session endpoint (.writeProfileMetadata metadata) r :: h) ∨
      (metadataWrites (Did.session endpoint (.writeProfileMetadata metadata) r :: h)).getLast? = some original := by
  by_cases hsame : metadata = original
  · right
    have hwrites : metadataWrites (Did.session endpoint (.writeProfileMetadata metadata) r :: h) =
        metadataWrites h ++ [metadata] := List.reverse_cons
    rw [hwrites, hsame]
    exact List.getLast?_concat
  · left
    exact not_wellAnswered hsame hr

/-- **The selection of the next profile.** -/
theorem leads_select (rest : List ProfileId) {actual : ProfileMetadata} :
    Leads (S := Backend) Op.does (fun _ h => ∃ before, h = Did.session session.endpoint .readProfileMetadata (.ok actual) ::
        before ∧ Advanced original done before)
      (writeExactMetadata session (selection profile actual)) (fun _ _ h => Advanced original (done ++ [profile]) h)
      fun _ _ h => Strayed original (done ++ profile :: rest) h := by
  refine .bind (Q := fun write _ h => ∃ before, h = Did.session session.endpoint
      (.writeProfileMetadata (selection profile actual)) (.ok write) ::
        Did.session session.endpoint .readProfileMetadata (.ok actual) :: before ∧ Advanced original done before)
    (.perform fun _ h r _ hh _ => ?_) fun write => ?_
  · obtain ⟨before, rfl, hs⟩ := hh
    cases (r : Except ManagerError (SessionWrite ProfileMetadata)) with
    | ok write => exact ⟨before, rfl, hs⟩
    | error e =>
      exact (hs.toSelected.select session.endpoint profile actual (.error e)).strayed_select rest (unconfirmed_write nofun)
  · split
    · next written =>
      split
      · next hsame =>
        subst hsame
        refine .pure fun _ h hh => ?_
        obtain ⟨before, rfl, hs⟩ := hh
        refine ⟨hs.toSelected.select session.endpoint profile actual _, fun _ hfails => hfails rfl, fun _ hfails => ?_, hs.well⟩
        exact hfails ⟨actual, rfl⟩
      · next hne =>
        refine .throw fun _ h hh => ?_
        obtain ⟨before, rfl, hs⟩ := hh
        refine (hs.toSelected.select session.endpoint profile actual _).strayed_select rest (unconfirmed_write fun heq => ?_)
        cases heq
        exact hne rfl
    · refine .throw fun _ h hh => ?_
      obtain ⟨before, rfl, hs⟩ := hh
      exact (hs.toSelected.select session.endpoint profile actual _).strayed_select rest (unconfirmed_write nofun)

/-- **One profile is stamped.** -/
theorem leads_stampOneProfile (rest : List ProfileId) :
    Leads (S := Backend) Op.does (fun _ h => Advanced original done h) (stampOneProfile session profile token dpi)
      (fun _ _ h => Advanced original (done ++ [profile]) h) fun _ _ h => Strayed original (done ++ profile :: rest) h := by
  have hfailed : ∀ {h}, Selected (done ++ [profile]) h → ¬ WellAnswered original h →
      Strayed original (done ++ profile :: rest) h := fun hs hwrong => hs.strayed_select rest (.inl hwrong)
  refine .bind (Q := fun actual _ h => ∃ before, h = Did.session session.endpoint .readProfileMetadata (.ok actual) ::
    before ∧ Advanced original done before) (.perform fun _ h r _ hs _ => ?_) fun actual => ?_
  · cases (r : Except ManagerError ProfileMetadata) with
    | ok actual => exact ⟨h, rfl, hs⟩
    | error e =>
      refine ⟨hs.toSelected.of_all (profile :: rest), .inr (.inl (not_wellAnswered trivial ?_))⟩
      rintro ⟨actual, heq⟩
      cases heq
  refine .bind (Q := fun metadata _ h => metadata = selection profile actual ∧ ∃ before,
    h = Did.session session.endpoint .readProfileMetadata (.ok actual) :: before ∧ Advanced original done before)
    (.ofExcept (fun metadata hnew _ _ hh => ⟨?_, hh⟩) fun e he => ?_) fun metadata => .of_pure fun hmetadata => ?_
  · rw [new_selection] at hnew
    exact (Except.ok.inj hnew).symm
  · rw [new_selection] at he
    cases he
  subst hmetadata
  refine .bind (leads_select rest) fun _ => ?_
  refine .bind (Q := fun write _ h => ∃ before, h = Did.session session.endpoint
      (.writeDpi (withPhysicalWatermark dpi (some token)) .readback) (.ok write) :: before ∧
        Advanced original (done ++ [profile]) before) (.perform fun _ h r _ hs _ => ?_) fun write => ?_
  · cases (r : Except ManagerError (SessionWrite DpiState)) with
    | ok write => exact ⟨h, rfl, hs⟩
    | error e =>
      refine hfailed ⟨hs.count, hs.wrote⟩ (not_wellAnswered trivial ?_)
      rintro ⟨write, heq, -⟩
      cases heq
  refine .bind ((leads_stampedIdentity write).mono (fun _ _ => id) (fun _ _ _ => id) fun _ _ _ hh => hfailed hh.1 hh.2)
    fun decode => ?_
  exact .ensure (fun hvalid _ _ hh => ⟨hh.1, hh.2.1 hvalid⟩) fun hne _ _ hh => hfailed hh.1 (hh.2.2 hne)

/-- The image of the next profile, which may not have been captured. -/
theorem leads_stampImage (rest : List ProfileId) :
    Leads (S := Backend) Op.does (fun _ h => Advanced original done h) (stampImage subject profile)
      (fun _ _ h => subject.capturedDpi profile ≠ none ∧ Advanced original done h)
      fun _ _ h => StampEnds original subject (done ++ profile :: rest) h := by
  refine .ofOption (fun dpi hdpi _ _ hs => ⟨?_, hs⟩) fun hmissing _ _ hs => ?_
  · rw [hdpi]
    nofun
  · exact .stopped (hs.toSelected.of_all _) (.inr (.inl ⟨profile, List.mem_append_right _ List.mem_cons_self, hmissing⟩))

/-- A profile is marked, which may fail. -/
theorem leads_mark (rest : List ProfileId) :
    Leads (S := Backend) Op.does (fun _ h => Advanced original (done ++ [profile]) h) (Manager.commit (.markStamped profile))
      (fun _ _ h => Advanced original (done ++ [profile]) h) fun _ _ h => Strayed original (done ++ profile :: rest) h := by
  refine .perform fun _ h r _ hs _ => ?_
  have hselected : Selected (done ++ [profile]) (Did.commit (.markStamped profile) r :: h) := ⟨hs.count, hs.wrote⟩
  rcases (r : Except StateError (Except ManagerError Unit)) with e | (e | out)
  · refine hselected.strayed_select rest (.inl (not_wellAnswered trivial ?_))
    rintro ⟨out, heq⟩
    cases heq
  · refine hselected.strayed_select rest (.inl (not_wellAnswered trivial ?_))
    rintro ⟨out, heq⟩
    cases heq
  · exact ⟨hselected, fun _ hfails => hfails ⟨out, rfl⟩, hs.well⟩

variable (original) in
/-- **The loop**: it ends with every pending profile stamped, or stops at the one at hand. -/
theorem leads_stampProfiles : ∀ (rest done : List ProfileId),
    Leads (S := Backend) Op.does (fun _ h => Advanced original done h) (stampProfiles session subject token rest)
      (fun _ _ h => Advanced original (done ++ rest) h ∧ ∀ p ∈ rest, subject.capturedDpi p ≠ none)
      fun _ _ h => StampEnds original subject (done ++ rest) h
  | [], done => .pure fun _ h hs => ⟨(List.append_nil done).symm ▸ hs, fun _ hp => by cases hp⟩
  | [profile], done => by
    refine .bind (leads_stampImage []) fun dpi => .of_pure fun hcaptured => ?_
    refine (leads_stampOneProfile []).mono (fun _ _ => id) (fun _ _ h hs => ⟨hs, ?_⟩) fun _ _ _ hs => hs.stopped
    intro p hp
    rw [List.mem_singleton.1 hp]
    exact hcaptured
  | profile :: next :: rest, done => by
    refine .bind (leads_stampImage (next :: rest)) fun dpi => .of_pure fun hcaptured => ?_
    refine .bind ((leads_stampOneProfile (next :: rest)).mono (fun _ _ => id) (fun _ _ _ => id) fun _ _ _ hs => hs.stopped)
      fun _ => ?_
    refine .bind ((leads_mark (next :: rest)).mono (fun _ _ => id) (fun _ _ _ => id) fun _ _ _ hs => hs.stopped) fun _ => ?_
    have hrest := leads_stampProfiles (next :: rest) (done ++ [profile])
    rw [List.append_assoc] at hrest
    refine hrest.mono (fun _ _ => id) (fun _ _ h hh => ⟨hh.1, ?_⟩) fun _ _ _ => id
    intro p hp
    rcases List.mem_cons.1 hp with rfl | hp
    · exact hcaptured
    · exact hh.2 p hp

end Loop

/-! ## The action -/

/-- An operation that does not concern the mouse: neither what is selected nor whether the steps went well. -/
def Op.offMouse : Op → Bool
  | .session .. | .commit (.markStamped _) => false
  | _ => true

/-- Nothing was done to the mouse. -/
structure Spared (original : ProfileMetadata) (h : History Backend) : Prop where
  reads : metadataReads h = []
  writes : metadataWrites h = []
  well : WellAnswered original h

section Action

variable {state : StateFile} {journal : IdentitySetupJournal} {captured : CapturedProfileImage}
  {observation : ObservedState ProfileMetadata}

omit [Crc32fast] in
theorem not_stampStep {o : Op} (ho : o.offMouse = true) : ¬ o.stampStep original := by
  intro hstep
  cases o with
  | session endpoint call => cases ho
  | commit t =>
    cases t with
    | markStamped profile => cases ho
    | _ => exact hstep
  | _ => exact hstep

theorem WellAnswered.offMouse {o : Op} {r : o.Res} (hw : WellAnswered original h) (ho : o.offMouse = true) :
    WellAnswered original (⟨o, r⟩ :: h) :=
  ⟨fun hstep => absurd hstep (not_stampStep ho), hw⟩

theorem Spared.offMouse {o : Op} {r : o.Res} (hu : Spared original h) (ho : o.offMouse = true) :
    Spared original (⟨o, r⟩ :: h) := by
  have hwell := hu.well.offMouse ho (r := r)
  cases o with
  | session endpoint call => cases ho
  | _ => exact ⟨hu.reads, hu.writes, hwell⟩

theorem Spared.stopped {pending : List ProfileId} (hu : Spared original h) : StampEnds original subject pending h :=
  .stopped (by rw [hu.reads, hu.writes, List.zipWith_nil_right]) (.inl hu.writes)

/-- After the original numbers were written, the ceremony only moves on. -/
theorem restored_offMouse {o : Op} {r : o.Res} (ho : o.offMouse = true)
    (hh : (metadataWrites h).getLast? = some original ∧ WellAnswered original h) :
    (metadataWrites (⟨o, r⟩ :: h)).getLast? = some original ∧ WellAnswered original (⟨o, r⟩ :: h) := by
  have hwell := hh.2.offMouse ho (r := r)
  cases o with
  | session endpoint call => cases ho
  | _ => exact ⟨hh.1, hwell⟩

/-- **The original numbers are written**, confirmed or not. -/
theorem leads_restoreMetadata {session : Session} (hobserved : captured.profileMetadata.observed = some observation) :
    Leads (S := Backend) Op.does (fun _ h => WellAnswered observation.value h) (restoreMetadata session captured)
      (fun _ _ h => (metadataWrites h).getLast? = some observation.value ∧ WellAnswered observation.value h)
      fun _ _ h => (metadataWrites h).getLast? = some observation.value ∧ WellAnswered observation.value h := by
  unfold restoreMetadata
  rw [hobserved]
  refine .bind (Q := fun _ _ h => (metadataWrites h).getLast? = some observation.value ∧ WellAnswered observation.value h) (.attempt ?_)
    fun result => ?_
  · refine .bind (Q := fun _ _ h => (metadataWrites h).getLast? = some observation.value ∧ WellAnswered observation.value h)
      (.perform fun _ h r _ hwell _ => ?_) fun write => ?_
    · have hwrites : metadataWrites (Did.session session.endpoint (.writeProfileMetadata observation.value) r :: h) =
          metadataWrites h ++ [observation.value] := List.reverse_cons
      have hdone : (metadataWrites (Did.session session.endpoint
          (.writeProfileMetadata observation.value) r :: h)).getLast? = some observation.value ∧ WellAnswered observation.value
            (Did.session session.endpoint (.writeProfileMetadata observation.value) r :: h) := by
        refine ⟨?_, fun hstep => absurd rfl hstep, hwell⟩
        rw [hwrites]
        exact List.getLast?_concat
      cases (r : Except ManagerError (SessionWrite ProfileMetadata)) with
      | ok write => exact hdone
      | error e => exact hdone
    · split
      · split
        · exact .pure fun _ _ => id
        · exact .throw fun _ _ => id
      · exact .throw fun _ _ => id
  · split
    · exact .pure fun _ _ => id
    · exact .throw fun _ _ => id

/-- The last subject, with whatever token is reserved for it. -/
def Holds (subject : IdentitySetupSubject) (state : StateFile) : Prop :=
  ∃ journal token, state.identitySetup = some journal ∧ journal.subjects.getLast? = some { subject with token }

omit [Crc32fast] in
theorem Holds.reserved {token : PhysicalId} (hs : Holds subject state) : Holds subject ((Txn.reserveToken token).after state) := by
  obtain ⟨journal, reserved, hj, hlast⟩ := hs
  rcases Txn.changeLastSubject_apply ({ · with token := some token }) state with h | ⟨current, last, hj', hlast', h⟩
  · exact ⟨journal, reserved, (congrArg StateFile.identitySetup h).trans hj, hlast⟩
  · rw [hj, Option.some.injEq] at hj'
    subst hj'
    rw [hlast, Option.some.injEq] at hlast'
    subst hlast'
    exact ⟨_, some token, congrArg StateFile.identitySetup h, IdentitySetupJournal.withLast_getLast? ..⟩

omit [Crc32fast] in
theorem random_mintFrom (state : StateFile) (phase : IdentitySetupPhase) (old : Option PhysicalId) :
    ∀ tries, Fallible.Only (S := Backend) (· = .random) (mintFrom state phase old tries)
  | 0 => .throw
  | tries + 1 => .bind (.perform rfl) fun _ => .ite .pure (random_mintFrom state phase old tries)

/-- A token is reserved, if there is none. -/
theorem leads_reserveToken (start : StateFile) :
    Leads (S := Backend) Op.does (fun s h => Holds subject s ∧ Spared original h) (reserveToken start journal)
      (fun _ s h => Holds subject s ∧ Spared original h) fun _ _ h => Spared original h := by
  unfold reserveToken
  split
  · have hmint : Leads (S := Backend) Op.does (fun s h => Holds subject s ∧ Spared original h)
        (mintUniqueToken start journal.phase (journal.subjects.getLast?.bind (·.oldToken)))
        (fun _ s h => Holds subject s ∧ Spared original h) fun _ _ h => Spared original h := by
      refine (Leads.only (fun o s r s' h ho hh hd => ?_) (random_mintFrom ..)).mono (fun _ _ => id) (fun _ _ _ => id)
        fun _ _ _ hh => hh.2
      subst ho
      have hkept : s' = s := hd
      rw [hkept]
      exact ⟨hh.1, hh.2.offMouse rfl⟩
    refine .bind hmint fun token => .perform fun s h r s' hh hd => ?_
    have hspared : Spared original (Did.commit (.reserveToken token) r :: h) := hh.2.offMouse rfl
    have hd : Commits (.reserveToken token) s r s' := hd
    have hholds : Holds subject s' := by
      rcases hd.cases with rfl | ⟨rfl, -⟩
      · exact hh.1
      · exact hh.1.reserved
    rcases (r : Except StateError (Except ManagerError Unit)) with e | (e | out)
    · exact hspared
    · exact hspared
    · exact ⟨hholds, hspared⟩
  · exact .pure fun _ _ => id

omit [Crc32fast] in
/-- What is asserted to be there is there. -/
theorem leads_expect {T : Type} {site : String} {value : Option T} {pre : StateFile → History Backend → Prop} {post fails}
    (found : ∀ b, value = some b → ∀ s h, pre s h → post b s h) :
    Leads (S := Backend) Op.does pre (Manager.expect site value) post fails := by
  cases value with
  | some b => exact .pure (found b rfl)
  | none => exact .perform fun _ _ r _ _ _ => (r : Empty).elim

/-- What was captured does not depend on the token. -/
theorem StampEnds.of_token {pending : List ProfileId} {token : Option PhysicalId}
    (he : StampEnds original { subject with token } pending h) : StampEnds original subject pending h := by
  cases he with
  | stopped wrote why => exact .stopped wrote why
  | restored wrote captured well => exact .restored wrote captured well

/-- The state is loaded, before anything was done to the mouse. -/
theorem leads_loadHolds {pending : List ProfileId} :
    Leads (S := Backend) Op.does (fun s h => Holds subject s ∧ Spared original h) Manager.load
      (fun loaded s h => Holds subject loaded ∧ Holds subject s ∧ Spared original h)
      fun _ _ h => StampEnds original subject pending h := by
  refine .perform fun s h r s' hh hd => ?_
  have hspared : Spared original (Did.load r :: h) := hh.2.offMouse rfl
  obtain ⟨rfl, hr | ⟨e, hr⟩⟩ := hd
  · subst hr
    exact ⟨hh.1, hh.1, hspared⟩
  · subst hr
    exact hspared.stopped

/-- **How the action ends**, for the subject at hand. -/
theorem leads_ceremonyStamp (hcaptured : subject.captured = some captured)
    (hobserved : captured.profileMetadata.observed = some observation) :
    Leads (S := Backend) Op.does (fun s h => Holds subject s ∧ Spared observation.value h) ceremonyStamp
      (fun _ _ h => StampEnds observation.value subject (pendingProfiles subject captured) h)
      fun _ _ h => StampEnds observation.value subject (pendingProfiles subject captured) h := by
  refine .bind leads_loadHolds fun loaded => .of_pure fun _ => ?_
  refine .bind (Q := fun _ s h => Holds subject s ∧ Spared observation.value h)
    (.ofOption (fun _ _ _ _ => id) fun _ _ _ hh => hh.2.stopped) fun journal => ?_
  refine .bind (Q := fun _ s h => Holds subject s ∧ Spared observation.value h)
    (.ensure (fun _ _ _ => id) fun _ _ _ hh => hh.2.stopped) fun _ => ?_
  refine .bind ((leads_reserveToken loaded).mono (fun _ _ => id) (fun _ _ _ => id) fun _ _ _ hh => hh.stopped) fun _ => ?_
  refine .bind leads_loadHolds fun loaded => .of_pure fun hholds => ?_
  obtain ⟨current, reserved, hcurrent, hlast⟩ := hholds
  refine .bind (Q := fun journal _ h => journal = current ∧ Spared observation.value h)
    (.ofOption (fun journal hjournal _ _ hh => ⟨?_, hh.2⟩) fun _ _ _ hh => hh.2.stopped) fun journal => .of_pure fun hjournal => ?_
  · rw [hcurrent, Option.some.injEq] at hjournal
    exact hjournal.symm
  subst hjournal
  refine .bind (Q := fun found _ h => found = { subject with token := reserved } ∧ Spared observation.value h)
    (leads_expect fun found hfound _ _ hh => ⟨?_, hh⟩) fun found => .of_pure fun hfound => ?_
  · rw [hlast, Option.some.injEq] at hfound
    exact hfound.symm
  subst hfound
  refine .bind (Q := fun _ _ h => Spared observation.value h) (leads_expect fun _ _ _ _ => id) fun token => ?_
  refine .bind (Q := fun image _ h => image = captured ∧ Spared observation.value h)
    (leads_expect fun image himage _ _ hh => ⟨?_, hh⟩) fun image => .of_pure fun himage => ?_
  · have himage : subject.captured = some image := himage
    rw [hcaptured, Option.some.injEq] at himage
    exact himage.symm
  subst himage
  refine .bind (Q := fun _ _ h => Spared observation.value h) (.perform fun _ h r _ hh _ => ?_) fun session => ?_
  · have hspared : Spared observation.value (Did.open_ subject.endpoint r :: h) := hh.offMouse rfl
    cases (r : Except ManagerError Unit) with
    | ok _ => exact hspared
    | error e => exact hspared.stopped
  refine .bind (Q := fun _ _ h => (∀ p ∈ pendingProfiles subject image, subject.capturedDpi p ≠ none) ∧
    WellAnswered observation.value h) ((leads_stampProfiles observation.value (pendingProfiles subject image) []).mono ?_ ?_ ?_) fun _ =>
      .of_pure fun hall => ?_
  · intro _ h hspared
    refine ⟨⟨?_, ?_⟩, hspared.well⟩
    · rw [hspared.reads]
      rfl
    · rw [hspared.writes]
      rfl
  · intro _ _ h hh
    exact ⟨hh.2, hh.1.well⟩
  · intro _ _ h he
    exact he.of_token
  have hrestored : ∀ {h}, (metadataWrites h).getLast? = some observation.value ∧ WellAnswered observation.value h →
      StampEnds observation.value subject (pendingProfiles subject image) h := fun hh => .restored hh.1 hall hh.2
  refine .bind ((leads_restoreMetadata hobserved).mono (fun _ _ => id) (fun _ _ _ => id) fun _ _ _ => hrestored) fun _ => ?_
  -- Whatever becomes of the ceremony, the original numbers were written last.
  have hoff : ∀ {T : Type} {x : Manager T}, Fallible.Only (S := Backend) (fun o => o.offMouse = true) x →
      Leads (S := Backend) Op.does (fun _ h => (metadataWrites h).getLast? = some observation.value ∧ WellAnswered observation.value h) x
        (fun _ _ h => StampEnds observation.value subject (pendingProfiles subject image) h)
        fun _ _ h => StampEnds observation.value subject (pendingProfiles subject image) h := by
    intro T x hx
    exact (Leads.only (fun _ _ _ _ _ ho hh _ => restored_offMouse ho hh) hx).mono (fun _ _ => id)
      (fun _ _ _ => hrestored) fun _ _ _ => hrestored
  refine hoff (.bind (.perform rfl) fun _ => .bind (.perform rfl) fun _ => ?_)
  split
  · exact .pure
  · exact .pure

/-- **When a stamping puts the mouse back.**  Once it wrote any profile numbers it wrote the captured ones last, exactly
when it selected no profile, or the last one with just these numbers, or was answered well until every profile was
stamped. -/
theorem stamp_restores_iff (hj : state.identitySetup = some journal) (hlast : journal.subjects.getLast? = some subject)
    (hcaptured : subject.captured = some captured) (hobserved : captured.profileMetadata.observed = some observation)
    {result : Except ManagerError IdentityCeremonyProgress} {state' : StateFile}
    (hgoes : Goes ceremonyStamp state result state' h) :
    PutsBack observation.value h ↔
      (pendingProfiles subject captured).zipWith selection (metadataReads h) = [] ∨
      ((pendingProfiles subject captured).zipWith selection (metadataReads h)).getLast? = some observation.value ∨
      ((∀ p ∈ pendingProfiles subject captured, subject.capturedDpi p ≠ none) ∧ WellAnswered observation.value h) := by
  have hstart : Holds subject state ∧ Spared observation.value [] := ⟨⟨journal, subject.token, hj, hlast⟩, rfl, rfl, trivial⟩
  have hends : StampEnds observation.value subject (pendingProfiles subject captured) h := by
    have hend := leads_ceremonyStamp hcaptured hobserved state [] result state' h hstart hgoes
    cases result with
    | ok progress => exact hend
    | error e => exact hend
  exact hends.putsBack_iff

end Action

end AttackSharkX3

namespace AttackSharkX3.Rig

/-- One profile of a mouse, captured while the fifth was current. -/
def capturedFirst : CapturedProfileImage where
  profileMetadata := ⟨none, some ⟨⟨fifth, fifth, by decide⟩, .usbReadback, ⟨0⟩⟩⟩
  profiles := (∅ : BTreeMap ProfileId ProfileState).insert first { ProfileState.empty with
    dpi := ⟨none, some ⟨image none first, .usbReadback, ⟨0⟩⟩⟩ }

def unstampedSubject : IdentitySetupSubject := { subjectAt "a" 2 [] with captured := some capturedFirst }

/-- A mouse to add, of which nothing is stamped. -/
def unstamped : IdentitySetupJournal := ⟨.addMouse, .stamping, [unstampedSubject]⟩

/-- A stamping that is answered well puts the mouse back. -/
theorem restores_unstamped : ∃ result state' h, Goes ceremonyStamp (persistentWith unstamped) result state' h ∧
    (∀ p ∈ pendingProfiles unstampedSubject capturedFirst, unstampedSubject.capturedDpi p ≠ none) ∧
      WellAnswered ⟨fifth, fifth, by decide⟩ h := by
  have hrun : ((bench [(wired "a", unit fun _ => none)]).goes ceremonyStamp (persistentWith unstamped)).any (fun r =>
      decide (metadataWrites r.2.2 = [⟨first, fifth, by decide⟩, ⟨fifth, fifth, by decide⟩] ∧
        metadataReads r.2.2 = [⟨first, fifth, by decide⟩])) = true := by decide +kernel
  obtain ⟨⟨result, state', h⟩, hgoes, htest⟩ := (Option.any_eq_true ..).1 hrun
  obtain ⟨hwrites, hreads⟩ := of_decide_eq_true htest
  have hends := Bench.goes_ends hgoes
  refine ⟨result, state', h, hends, ?_⟩
  have hiff := stamp_restores_iff rfl rfl rfl rfl hends
  have hback : PutsBack ⟨fifth, fifth, by decide⟩ h := by
    refine putsBack_iff_writes.2 (.inr ?_)
    rw [hwrites]
    rfl
  rcases hiff.1 hback with hnone | hlast | hall
  · rw [hreads] at hnone
    exact absurd hnone (by decide +kernel)
  · rw [hreads] at hlast
    exact absurd hlast (by decide +kernel)
  · exact hall

/-- The bench whose mouse takes no DPI image. -/
def refusingDpi : Bench :=
  { bench [(wired "a", unit fun _ => none)] with
    session := fun endpoint call => match call with
      | .writeDpi .. => .error (.driver "transfer failed")
      | call => (bench [(wired "a", unit fun _ => none)]).session endpoint call }

/-- **A stamping that fails at the mouse leaves it on the profile at hand.** -/
theorem strands_unstamped : (persistentWith unstamped).validate = .ok () ∧ ∃ e state' h,
    Goes ceremonyStamp (persistentWith unstamped) (.error e) state' h ∧ ¬ PutsBack ⟨fifth, fifth, by decide⟩ h := by
  refine ⟨by decide +kernel, ?_⟩
  have hrun : (refusingDpi.goes ceremonyStamp (persistentWith unstamped)).any (fun r => r.1.toOption.isNone &&
      decide (metadataWrites r.2.2 = [⟨first, fifth, by decide⟩])) = true := by decide +kernel
  obtain ⟨⟨result, state', h⟩, hgoes, htest⟩ := (Option.any_eq_true ..).1 hrun
  obtain ⟨hfailed, hwrites⟩ := Bool.and_eq_true_iff.1 htest
  cases result with
  | ok progress => cases hfailed
  | error e =>
    refine ⟨e, state', h, Bench.goes_ends hgoes, fun hback => ?_⟩
    have hwrites : metadataWrites h = [⟨first, fifth, by decide⟩] := of_decide_eq_true hwrites
    rw [putsBack_iff_writes, hwrites] at hback
    exact absurd hback (by decide)

end AttackSharkX3.Rig
