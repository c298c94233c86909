import AttackSharkX3.Ordinary
import AttackSharkX3.Reread
/-!
# Traversal — walking through the profiles and back

A capture and a reload verification make other profiles current than the one the user chose.  Whatever the mouse answers,
the last numbers they write are the ones they found.
-/
namespace AttackSharkX3

open Effects (Fallible Leads)
open Effects.Prog (Event History Ends Kept)

/-! ## Profile numbers -/

/-- The profile numbers the mouse was last read to have. -/
def metadataRead (h : History Backend) : Option ProfileMetadata := h.findSome? fun ev => match ev with
  | ⟨.session _ .readProfileMetadata, r⟩ => (r : Except ManagerError ProfileMetadata).toOption
  | _ => none

/-- The profile numbers that were written last, with the answer. -/
def lastWrite (h : History Backend) : Option (ProfileMetadata × Except ManagerError (SessionWrite ProfileMetadata)) :=
  h.findSome? fun ev => match ev with
    | ⟨.session _ (.writeProfileMetadata metadata), r⟩ => some (metadata, r)
    | _ => none

/-- The profile that is current after a write: the one that was read back as written. -/
def confirmedCurrent (metadata : ProfileMetadata) : Except ManagerError (SessionWrite ProfileMetadata) → Option ProfileId
  | .ok (.readbackVerified actual) => if actual = metadata then some metadata.current else none
  | _ => none

/-- **The profile known to be current**: the one read, or the one of a write that was confirmed.  After any other write
none is known. -/
def knownCurrent : History Backend → Option ProfileId
  | [] => none
  | ⟨.session _ .readProfileMetadata, r⟩ :: h =>
    match (r : Except ManagerError ProfileMetadata) with
    | .ok actual => some actual.current
    | .error _ => knownCurrent h
  | ⟨.session _ (.writeProfileMetadata metadata), r⟩ :: _ => confirmedCurrent metadata r
  | _ :: h => knownCurrent h

/-- The profile that is read whole. -/
def Op.readsWhole : Op → Option ProfileId
  | .session _ (.readProfile profile) => some profile
  | _ => none

/-- The profile whose live rate is read. -/
def Op.readsRate : Op → Option ProfileId
  | .session _ (.readLivePollingRate profile) => some profile
  | _ => none

def wholesRead (h : History Backend) : List ProfileId := h.filterMap fun ev => Op.readsWhole ev.1
def ratesRead (h : History Backend) : List ProfileId := h.filterMap fun ev => Op.readsRate ev.1

/-- A profile is read while it is known to be current. -/
def readsCurrent (h : History Backend) (o : Op) : Prop :=
  ∀ profile, o.readsWhole = some profile ∨ o.readsRate = some profile → knownCurrent h = some profile

/-- A transaction is asked of the store. -/
def Op.transacts : Op → Bool
  | .commit _ => true
  | _ => false

/-- Nothing was asked of the store that could change it. -/
def Unasked (h : History Backend) : Prop := ∀ ev ∈ h, Op.transacts ev.1 = false

theorem unasked_nil : Unasked [] := List.forall_mem_nil _

theorem Unasked.cons {h : History Backend} (hh : Unasked h) {ev : Event Backend} (hev : Op.transacts ev.1 = false) :
    Unasked (ev :: h) := by
  intro other hmem
  rcases List.mem_cons.1 hmem with rfl | hmem
  · exact hev
  · exact hh other hmem

/-- **Where a traversal is**: the numbers it found, the profile now current, and what it has read. -/
structure Trail (original : ProfileMetadata) (current : Option ProfileId) (wholes rates : List ProfileId)
    (h : History Backend) : Prop where
  found : metadataRead h = some original
  current_eq : knownCurrent h = current
  wholes_eq : wholesRead h = wholes
  rates_eq : ratesRead h = rates
  kept : Kept (S := Backend) readsCurrent h
  unasked : Unasked h

namespace Trail

variable {original : ProfileMetadata} {current : Option ProfileId} {wholes rates : List ProfileId} {h : History Backend}
  {endpoint : DeviceEndpoint}

/-- The numbers are read, and nothing else was done. -/
theorem start (original : ProfileMetadata) : Trail original (some original.current) [] []
    [Did.session endpoint .readProfileMetadata (.ok original)] where
  found := rfl
  current_eq := rfl
  wholes_eq := rfl
  rates_eq := rfl
  kept := by
    refine ⟨?_, trivial⟩
    rintro profile (h | h) <;> cases h
  unasked ev hev := by
    rw [List.mem_singleton.1 hev]
    rfl

theorem write (ht : Trail original current wholes rates h) (metadata : ProfileMetadata)
    (r : Except ManagerError (SessionWrite ProfileMetadata)) :
    Trail original (confirmedCurrent metadata r) wholes rates
      (Did.session endpoint (.writeProfileMetadata metadata) r :: h) where
  found := ht.found
  current_eq := rfl
  wholes_eq := ht.wholes_eq
  rates_eq := ht.rates_eq
  kept := by
    refine ⟨?_, ht.kept⟩
    rintro profile (h | h) <;> cases h
  unasked := ht.unasked.cons rfl

theorem whole {profile : ProfileId} (ht : Trail original (some profile) wholes rates h)
    (r : Except ManagerError ProfileSnapshot) : Trail original (some profile) (profile :: wholes) rates
      (Did.session endpoint (.readProfile profile) r :: h) where
  found := ht.found
  current_eq := ht.current_eq
  wholes_eq := congrArg (profile :: ·) ht.wholes_eq
  rates_eq := ht.rates_eq
  kept := by
    refine ⟨?_, ht.kept⟩
    rintro p (h | h) <;> cases h
    exact ht.current_eq
  unasked := ht.unasked.cons rfl

theorem rate {profile : ProfileId} (ht : Trail original (some profile) wholes rates h)
    (r : Except ManagerError PollingRate) : Trail original (some profile) wholes (profile :: rates)
      (Did.session endpoint (.readLivePollingRate profile) r :: h) where
  found := ht.found
  current_eq := ht.current_eq
  wholes_eq := ht.wholes_eq
  rates_eq := congrArg (profile :: ·) ht.rates_eq
  kept := by
    refine ⟨?_, ht.kept⟩
    rintro p (h | h) <;> cases h
    exact ht.current_eq
  unasked := ht.unasked.cons rfl

end Trail

/-- A traversal that stopped somewhere. -/
def Stopped (original : ProfileMetadata) (h : History Backend) : Prop :=
  ∃ current wholes rates, Trail original current wholes rates h ∧ wholes.Nodup ∧ rates.Nodup

section Walk

variable {original : ProfileMetadata} {wholes rates : List ProfileId} {session : Session}

/-- **A write of the numbers**, confirmed or not. -/
theorem leads_writeNumbers (metadata : ProfileMetadata) {current : Option ProfileId} :
    Leads (S := Backend) Op.doesAmong (fun _ h => Trail original current wholes rates h) (writeExactMetadata session metadata)
      (fun written _ h => written = metadata ∧ Trail original (some metadata.current) wholes rates h ∧
        lastWrite h = some (metadata, .ok (.readbackVerified metadata)))
      fun _ _ h => (∃ current, Trail original current wholes rates h) ∧ ∃ r, lastWrite h = some (metadata, r) := by
  refine .bind (Q := fun write _ h => Trail original (confirmedCurrent metadata (.ok write)) wholes rates h ∧
    lastWrite h = some (metadata, .ok write)) (.perform fun _ h r _ ht _ => ?_) fun write => ?_
  · rcases (r : Except ManagerError (SessionWrite ProfileMetadata)) with e | write
    · exact ⟨⟨_, ht.write metadata (.error e)⟩, .error e, rfl⟩
    · exact ⟨ht.write metadata (.ok write), rfl⟩
  · split
    · next actual =>
      split
      · next hsame =>
        subst hsame
        refine .pure fun _ h hh => ⟨rfl, ?_, hh.2⟩
        simpa [confirmedCurrent] using hh.1
      · exact .throw fun _ h hh => ⟨⟨_, hh.1⟩, _, hh.2⟩
    · exact .throw fun _ h hh => ⟨⟨_, hh.1⟩, _, hh.2⟩

omit session in
theorem current_of_new {current maximum : ProfileId} {metadata : ProfileMetadata}
    (h : ProfileMetadata.new current maximum = .ok metadata) : metadata.current = current := by
  unfold ProfileMetadata.new at h
  split at h
  · cases h
    rfl
  · cases h

/-- The profile at hand is made current, if it is not. -/
theorem leads_activateFor {current target maximum : ProfileId} (hwholes : wholes.Nodup) (hrates : rates.Nodup) :
    Leads (S := Backend) Op.doesAmong (fun _ h => Trail original (some current) wholes rates h)
      (activateFor session current target maximum)
      (fun now _ h => now = target ∧ Trail original (some target) wholes rates h) fun _ _ h => Stopped original h := by
  unfold activateFor
  split
  · next hsame =>
    subst hsame
    exact .pure fun _ _ ht => ⟨rfl, ht⟩
  · refine .bind (Q := fun metadata _ h => metadata.current = target ∧ Trail original (some current) wholes rates h)
      (.ofExcept (fun metadata hmetadata _ _ ht => ⟨current_of_new hmetadata, ht⟩) fun _ _ _ _ ht =>
        ⟨_, _, _, ht, hwholes, hrates⟩) fun metadata => .of_pure fun hcurrent => ?_
    · refine .bind ((leads_writeNumbers metadata).mono (fun _ _ => id) (fun _ _ _ => id) ?_) fun written => ?_
      · rintro _ _ h ⟨⟨current, ht⟩, -⟩
        exact ⟨_, _, _, ht, hwholes, hrates⟩
      · refine .pure fun _ h hh => ?_
        obtain ⟨rfl, ht, -⟩ := hh
        rw [hcurrent] at ht
        exact ⟨hcurrent, ht⟩

/-- **The walk**: each profile of the order is made current, and then read once. -/
theorem leads_captureImages (maximum : ProfileId) : ∀ (order walked : List ProfileId) (current : ProfileId)
    (profiles : BTreeMap ProfileId RefreshedProfile), (order.reverse ++ walked).Nodup →
    Leads (S := Backend) Op.doesAmong (fun _ h => Trail original (some current) walked walked h)
      (captureImages session maximum order current profiles)
      (fun _ _ h => ∃ current, Trail original current (order.reverse ++ walked) (order.reverse ++ walked) h)
      fun _ _ h => Stopped original h
  | [], _, _, _, _ => .pure fun _ _ ht => ⟨_, ht⟩
  | target :: order, walked, current, profiles, hnodup => by
    rw [List.reverse_cons, List.append_assoc, List.singleton_append] at hnodup ⊢
    have hnext : (target :: walked).Nodup := (List.sublist_append_right _ _).nodup hnodup
    have hwalked : walked.Nodup := hnext.of_cons
    unfold captureImages
    refine .bind (leads_activateFor hwalked hwalked) fun now => .of_pure fun hnow => ?_
    subst hnow
    refine .bind (Q := fun _ _ h => Trail original (some now) (now :: walked) walked h)
      (.perform fun _ h r _ ht _ => ?_) fun snapshot => ?_
    · have hwhole : Trail original (some now) (now :: walked) walked
          (Did.session session.endpoint (.readProfile now) r :: h) := ht.whole r
      cases (r : Except ManagerError ProfileSnapshot) with
      | error e => exact ⟨_, _, _, hwhole, hnext, hwalked⟩
      | ok snapshot => exact hwhole
    refine .bind (Q := fun _ _ h => Trail original (some now) (now :: walked) walked h)
      (.ensure (fun _ _ _ => id) fun _ _ _ ht => ⟨_, _, _, ht, hnext, hwalked⟩) fun _ => ?_
    refine .bind (Q := fun _ _ h => Trail original (some now) (now :: walked) (now :: walked) h)
      (.perform fun _ h r _ ht _ => ?_) fun pollingRate => ?_
    · have hrate : Trail original (some now) (now :: walked) (now :: walked)
          (Did.session session.endpoint (.readLivePollingRate now) r :: h) := ht.rate r
      cases (r : Except ManagerError PollingRate) with
      | error e => exact ⟨_, _, _, hrate, hnext, hnext⟩
      | ok pollingRate => exact hrate
    exact leads_captureImages maximum order (now :: walked) now _ hnodup

/-! ## A capture -/

theorem nodup_captureOrder (current : ProfileId) : (captureOrder current).Nodup := by
  have hall : (ProfileId.upTo .MAX_ID).Nodup := by decide
  refine List.nodup_cons.2 ⟨?_, hall.filter _⟩
  intro hmem
  exact of_decide_eq_true (List.mem_filter.1 hmem).2 rfl

theorem mem_captureOrder (current p : ProfileId) : p ∈ captureOrder current := by
  by_cases hp : p = current
  · exact hp ▸ List.mem_cons_self
  · exact List.mem_cons_of_mem _ (List.mem_filter.2 ⟨p.mem_upTo, decide_eq_true hp⟩)

/-- Numbers in order are accepted. -/
theorem new_ne_error {current maximum : ProfileId} (h : current.get ≤ maximum.get) (e : ProtocolError) :
    ProfileMetadata.new current maximum ≠ .error e := by
  unfold ProfileMetadata.new
  rw [dif_pos h]
  intro heq
  cases heq

/-- **What a capture leaves behind**, however it ended. -/
structure Captures (result : Except ManagerError ProfileCapture) (h : History Backend) : Prop where
  /-- Once the original numbers were read, they are the last ones written. -/
  restores : ∀ original, metadataRead h = some original → ∃ r, lastWrite h = some (original, r)
  /-- A capture is answered after the original numbers were read back. -/
  confirmed : ∀ capture, result = .ok capture → ∃ original, metadataRead h = some original ∧
    lastWrite h = some (original, .ok (.readbackVerified original))
  /-- No profile is read twice, and a capture that is answered read each. -/
  once : (wholesRead h).Nodup ∧ (ratesRead h).Nodup
  all : ∀ capture, result = .ok capture → ∀ p, p ∈ wholesRead h ∧ p ∈ ratesRead h
  /-- Every profile was current when it was read. -/
  current : Kept (S := Backend) readsCurrent h
  /-- Nothing is recorded. -/
  unasked : Unasked h

/-- A capture that was refused. -/
theorem captures_empty (e : ManagerError) : Captures (.error e) [] where
  restores _ hfound := by cases hfound
  confirmed _ hok := by cases hok
  once := ⟨List.nodup_nil, List.nodup_nil⟩
  all _ hok := by cases hok
  current := trivial
  unasked := unasked_nil

/-- A capture that could not read the original numbers. -/
theorem captures_unread (endpoint : DeviceEndpoint) (e : ManagerError) :
    Captures (.error e) [Did.session endpoint .readProfileMetadata (.error e)] where
  restores _ hfound := by cases hfound
  confirmed _ hok := by cases hok
  once := ⟨List.nodup_nil, List.nodup_nil⟩
  all _ hok := by cases hok
  current := by
    refine ⟨?_, trivial⟩
    rintro profile (h | h) <;> cases h
  unasked ev hev := by
    rw [List.mem_singleton.1 hev]
    rfl

/-- The walk of a capture has ended, and read every profile where it ended well. -/
def Walked {α : Type} (original : ProfileMetadata) (result : Except ManagerError α) (h : History Backend) : Prop :=
  ∃ current wholes rates, (wholes.Nodup ∧ rates.Nodup ∧ ∀ value, result = .ok value →
    wholes = (captureOrder original.current).reverse ∧ rates = (captureOrder original.current).reverse) ∧
      Trail original current wholes rates h

/-- The original numbers are written after a walk. -/
def Returned {α : Type} (original : ProfileMetadata) (result : Except ManagerError α)
    (restored : Except ManagerError ProfileMetadata) (h : History Backend) : Prop :=
  Walked original result h ∧ (∃ r, lastWrite h = some (original, r)) ∧
    ∀ written, restored = .ok written → lastWrite h = some (original, .ok (.readbackVerified original))

theorem Walked.of_stopped {α : Type} {h : History Backend} (hs : Stopped original h) (e : ManagerError) :
    Walked (α := α) original (.error e) h := by
  obtain ⟨current, wholes, rates, ht, hwholes, hrates⟩ := hs
  refine ⟨current, wholes, rates, ⟨hwholes, hrates, fun _ hok => ?_⟩, ht⟩
  cases hok

/-- **The walk of a capture**, over all five profiles. -/
theorem leads_captureAllProfileImages :
    Leads (S := Backend) Op.doesAmong (fun _ h => Trail original (some original.current) [] [] h)
      (captureAllProfileImages session original.current .MAX_ID) (fun profiles _ h => Walked original (.ok profiles) h)
      fun e _ h => Walked (α := BTreeMap ProfileId RefreshedProfile) original (.error e) h := by
  have horder : (captureOrder original.current).reverse.Nodup :=
    (List.reverse_perm _).nodup_iff.2 (nodup_captureOrder _)
  have hwalk := @leads_captureImages original session .MAX_ID (captureOrder original.current) []
    original.current ∅ (by rwa [List.append_nil])
  refine hwalk.mono (fun _ _ => id) ?_ ?_
  · rintro profiles _ h ⟨current, ht⟩
    rw [List.append_nil] at ht
    exact ⟨_, _, _, ⟨horder, horder, fun _ _ => ⟨rfl, rfl⟩⟩, ht⟩
  · intro e _ h hs
    exact .of_stopped hs e

theorem leads_restore {α : Type} (result : Except ManagerError α) :
    Leads (S := Backend) Op.doesAmong (fun _ h => Walked original result h) (writeExactMetadata session original)
      (fun restored _ h => Returned original result (.ok restored) h) fun e _ h => Returned original result (.error e) h := by
  refine .of_exists fun current => .of_exists fun wholes => .of_exists fun rates => .of_pure fun hread => ?_
  refine (leads_writeNumbers original).mono (fun _ _ => id) ?_ ?_
  · rintro restored _ h ⟨-, ht, hlast⟩
    exact ⟨⟨_, _, _, hread, ht⟩, ⟨_, hlast⟩, fun _ _ => hlast⟩
  · rintro e _ h ⟨⟨current, ht⟩, hlast⟩
    refine ⟨⟨_, _, _, hread, ht⟩, hlast, fun _ hok => ?_⟩
    cases hok

/-- What a capture answers, after the original numbers were written. -/
theorem Returned.captures {h : History Backend} {result : Except ManagerError (BTreeMap ProfileId RefreshedProfile)}
    {restored : Except ManagerError ProfileMetadata} (hr : Returned original result restored h) :
    Captures (finishCapture original result restored) h := by
  obtain ⟨⟨current, wholes, rates, ⟨hwholes, hrates, hfull⟩, ht⟩, hlast, hconfirmed⟩ := hr
  constructor
  · intro found hfound
    rw [ht.found] at hfound
    cases hfound
    exact hlast
  · intro capture hok
    cases hrestored : restored with
    | ok written => exact ⟨original, ht.found, hconfirmed written hrestored⟩
    | error e =>
      rw [hrestored] at hok
      cases hresult : result <;> rw [hresult] at hok <;> cases hok
  · rw [ht.wholes_eq, ht.rates_eq]
    exact ⟨hwholes, hrates⟩
  · intro capture hok p
    cases hresult : result with
    | error e =>
      rw [hresult] at hok
      cases hrestored : restored <;> rw [hrestored] at hok <;> cases hok
    | ok profiles =>
      obtain ⟨hw, hr⟩ := hfull profiles hresult
      rw [ht.wholes_eq, ht.rates_eq, hw, hr]
      have hp := List.mem_reverse.2 (mem_captureOrder original.current p)
      exact ⟨hp, hp⟩
  · exact ht.kept
  · exact ht.unasked

/-- **The capture**: read the numbers, walk, and write them again. -/
theorem leads_captureAllProfiles : Leads (S := Backend) Op.doesAmong (fun _ h => h = []) (captureAllProfiles session)
    (fun capture _ h => Captures (.ok capture) h) fun e _ h => Captures (.error e) h := by
  refine .bind (Q := fun _ _ h => h = [])
    (.ensure (fun _ _ _ => id) fun _ _ _ hh => hh ▸ captures_empty _) fun _ => ?_
  refine .bind (Q := fun original _ h => Trail original (some original.current) [] [] h)
    (.perform fun _ h r _ hh _ => ?_) fun original => ?_
  · subst hh
    cases (r : Except ManagerError ProfileMetadata) with
    | error e => exact captures_unread _ e
    | ok original => exact Trail.start original
  refine .bind (Q := fun expanded _ h => expanded.current = original.current ∧
    Trail original (some original.current) [] [] h) (.ofExcept ?_ ?_) fun expanded => .of_pure fun hexpanded => ?_
  · intro expanded hexpanded _ h ht
    exact ⟨current_of_new hexpanded, ht⟩
  · intro e he
    exact absurd he (new_ne_error original.current.range.2 e)
  refine .bind (Q := fun result _ h => Walked original result h) (.attempt ?_) fun result => ?_
  · unfold captureExpanded
    split
    · refine .bind (Q := fun _ _ h => Trail original (some original.current) [] [] h) ?_ fun _ =>
        leads_captureAllProfileImages
      refine (leads_writeNumbers expanded).mono (fun _ _ => id) (fun _ _ h hh => hexpanded ▸ hh.2.1) ?_
      rintro e _ h ⟨⟨current, ht⟩, -⟩
      exact .of_stopped ⟨_, _, _, ht, List.nodup_nil, List.nodup_nil⟩ e
    · exact leads_captureAllProfileImages
  refine .bind (Q := fun restored _ h => Returned original result restored h) (.attempt (leads_restore result))
    fun restored => ?_
  refine .ofExcept (fun capture hcapture _ h hr => ?_) fun e he _ h hr => ?_
  · rw [← hcapture]
    exact hr.captures
  · have hcaptures := hr.captures
    rw [he] at hcaptures
    exact hcaptures

end Walk

/-! ## A reload verification -/

/-- What a verification that failed left in the store: nothing, or a record the store did not take, or the second of two
images that differ, without a claim. -/
def LeavesRecord (device : DeviceId) (target : ProfileId) (h : History Backend) : Prop :=
  Unasked h ∨ ∃ initial reloaded claim now r before,
    h = Did.commit (.persistObservation device target reloaded.1 reloaded.2 claim now) r :: before ∧ Unasked before ∧
      Read target [reloaded, initial] before ∧
      ((∀ out, r ≠ .ok (.ok out)) ∨ (¬ SameImage initial reloaded ∧ claim = none))

/-- **What a reload verification leaves behind**, however it ended. -/
structure Reloads (device : DeviceId) (target : ProfileId) (result : Except ManagerError ProfileVerificationOutcome)
    (h : History Backend) : Prop where
  /-- Once numbers were written, the last ones written are the original ones. -/
  restores : ∀ write, lastWrite h = some write → metadataRead h = some write.1
  /-- An outcome is answered after the original numbers were read back. -/
  confirmed : ∀ outcome, result = .ok outcome → ∃ original, metadataRead h = some original ∧
    lastWrite h = some (original, .ok (.readbackVerified original))
  /-- An error leaves no record, but that of an image the reload changed. -/
  recorded : ∀ e, result = .error e → LeavesRecord device target h

/-- The numbers found, and those written last; nothing was asked of the store. -/
structure Bearing (original : ProfileMetadata)
    (write : Option (ProfileMetadata × Except ManagerError (SessionWrite ProfileMetadata))) (h : History Backend) : Prop where
  found : metadataRead h = some original
  wrote : lastWrite h = write
  unasked : Unasked h

/-- The operation concerns neither the profile numbers nor the record. -/
def Op.leavesNumbers : Op → Bool
  | .session _ .readProfileMetadata | .session _ (.writeProfileMetadata _) | .commit _ => false
  | _ => true

/-- Nothing was written or asked of the store yet. -/
def Idle (h : History Backend) : Prop := lastWrite h = none ∧ Unasked h

section Reload

variable {device : DeviceId} {target : ProfileId} {original : ProfileMetadata} {session : Session} {h : History Backend}
  {write : Option (ProfileMetadata × Except ManagerError (SessionWrite ProfileMetadata))}
  {images : List (ProfileSnapshot × PollingRate)}

theorem Bearing.stable {o : Op} {r : o.Res} (hb : Bearing original write h) (ho : o.leavesNumbers = true) :
    Bearing original write (⟨o, r⟩ :: h) := by
  obtain ⟨hfound, hwrote, hunasked⟩ := hb
  cases o with
  | session endpoint call =>
    cases call with
    | readProfileMetadata | writeProfileMetadata => cases ho
    | _ => exact ⟨hfound, hwrote, hunasked.cons rfl⟩
  | commit t => cases ho
  | _ => exact ⟨hfound, hwrote, hunasked.cons rfl⟩

theorem Idle.reloads {result : ManagerError} (hi : Idle h) : Reloads device target (.error result) h where
  restores write hwrite := by
    rw [hi.1] at hwrite
    cases hwrite
  confirmed _ hok := by cases hok
  recorded _ _ := .inl hi.2

theorem Bearing.idle (hb : Bearing original none h) : Idle h := ⟨hb.wrote, hb.unasked⟩

/-- An error after the original numbers were written again. -/
theorem Bearing.reloads {r : Except ManagerError (SessionWrite ProfileMetadata)} {e : ManagerError}
    (hb : Bearing original (some (original, r)) h) : Reloads device target (.error e) h where
  restores write hwrite := by
    rw [hb.wrote] at hwrite
    cases hwrite
    exact hb.found
  confirmed _ hok := by cases hok
  recorded _ _ := .inl hb.unasked

/-- A fact about what was read, which a write of the numbers leaves alone. -/
def LeftByWrites (P : History Backend → Prop) : Prop :=
  ∀ h endpoint metadata r, P h → P (Did.session endpoint (.writeProfileMetadata metadata) r :: h)

theorem Read.leftByWrites : LeftByWrites (Read target images) := fun _ _ _ _ hread => hread.stable rfl

/-- **A write of the numbers**, confirmed or not. -/
theorem leads_writeBearing {P : History Backend → Prop} (hP : LeftByWrites P) (metadata : ProfileMetadata) :
    Leads (S := Backend) Op.doesAmong (fun _ h => Bearing original write h ∧ P h) (writeExactMetadata session metadata)
      (fun _ _ h => Bearing original (some (metadata, .ok (.readbackVerified metadata))) h ∧ P h)
      fun _ _ h => ∃ r, Bearing original (some (metadata, r)) h ∧ P h := by
  refine .bind (Q := fun answer _ h => Bearing original (some (metadata, .ok answer)) h ∧ P h)
    (.perform fun _ h r _ hh _ => ?_) fun answer => ?_
  · obtain ⟨hb, hp⟩ := hh
    have hwritten : Bearing original (some (metadata, r)) (Did.session session.endpoint (.writeProfileMetadata metadata) r :: h) :=
      ⟨hb.found, rfl, hb.unasked.cons rfl⟩
    have hleft := hP h session.endpoint metadata r hp
    cases (r : Except ManagerError (SessionWrite ProfileMetadata)) with
    | error e => exact ⟨_, hwritten, hleft⟩
    | ok answer => exact ⟨hwritten, hleft⟩
  · split
    · next actual =>
      split
      · next hsame =>
        subst hsame
        exact .pure fun _ _ => id
      · exact .throw fun _ h hh => ⟨_, hh⟩
    · exact .throw fun _ h hh => ⟨_, hh⟩

/-- A complete read, the numbers as they were. -/
theorem leads_readBearing : Leads (S := Backend) Op.doesAmong (fun _ h => Bearing original write h ∧ Read target images h)
    (readCompleteProfile session target) (fun image _ h => Bearing original write h ∧ Read target (image :: images) h)
    fun _ _ h => Bearing original write h := by
  have hleaves : Fallible.Only (S := Backend) (fun o => o.leavesNumbers = true) (readCompleteProfile session target) :=
    .bind (.perform rfl) fun _ => .bind (.perform rfl) fun _ => .pure
  have hbearing : Leads (S := Backend) Op.doesAmong (fun _ h => Bearing original write h) (readCompleteProfile session target)
      (fun _ _ h => Bearing original write h) fun _ _ h => Bearing original write h :=
    .only (fun _ _ _ _ _ ho hb _ => hb.stable ho) hleaves
  exact (hbearing.and leads_readCompleteProfile).mono (fun _ _ => id) (fun _ _ _ => id) fun _ _ _ hh => hh.1

/-- **The target is left**; where that fails, the original numbers are written before the error is answered. -/
theorem leads_switchAway {away : ProfileMetadata} :
    Leads (S := Backend) Op.doesAmong (fun _ h => Bearing original write h ∧ Read target images h)
      (switchAway session away original) (fun _ _ h => ∃ write, Bearing original write h ∧ Read target images h)
      fun e _ h => Reloads device target (.error e) h := by
  refine .bind (Q := fun result _ h => (∃ write, Bearing original write h ∧ Read target images h)) (.attempt ?_)
    fun result => ?_
  · exact (leads_writeBearing Read.leftByWrites away).mono (fun _ _ => id) (fun _ _ _ hh => ⟨_, hh⟩) fun _ _ _ ⟨r, hh⟩ => ⟨_, hh⟩
  · split
    · exact .pure fun _ _ => id
    · refine .of_exists fun write => .bind ((leads_writeBearing Read.leftByWrites original).mono (fun _ _ => id) (fun _ _ _ => id) ?_)
        fun _ => .throw fun _ h hh => hh.1.reloads
      rintro e _ h ⟨r, hb, -⟩
      exact hb.reloads

/-- The last numbers written are the original ones, and stay so while the store is asked. -/
theorem restores_of_bearing {t : Txn} {r : Except StateError (Except ManagerError t.Out)}
    {answer : Except ManagerError (SessionWrite ProfileMetadata)} (hb : Bearing original (some (original, answer)) h) :
    ∀ write, lastWrite (Did.commit t r :: h) = some write → metadataRead (Did.commit t r :: h) = some write.1 := by
  intro write hwrite
  have hwrote : lastWrite h = some write := hwrite
  rw [hb.wrote] at hwrote
  cases hwrote
  exact hb.found

/-- **The end of the verification**: the second image is recorded. -/
theorem leads_finishBearing {initial reloaded : ProfileSnapshot × PollingRate} {claim : Timestamp → PersistenceVerification} :
    Leads (S := Backend) Op.doesAmong (fun _ h => Bearing original (some (original, .ok (.readbackVerified original))) h ∧
        Read target [reloaded, initial] h)
      (finishVerification device target initial reloaded claim) (fun outcome _ h => Reloads device target (.ok outcome) h)
      fun e _ h => Reloads device target (.error e) h := by
  refine .bind (Q := fun _ _ h => Bearing original (some (original, .ok (.readbackVerified original))) h ∧
    Read target [reloaded, initial] h) ?_ fun verifiedAt => ?_
  · refine .perform fun _ h r _ hh _ => ⟨hh.1.stable rfl, hh.2.stable rfl⟩
  refine .bind (Q := fun _ _ h => ∃ before, h = Did.commit (.persistObservation device target reloaded.1 reloaded.2
      (if (firstMismatch initial.1 initial.2 reloaded.1 reloaded.2).isNone then some (claim verifiedAt) else none)
      verifiedAt) (.ok (.ok ())) :: before ∧
    Bearing original (some (original, .ok (.readbackVerified original))) before ∧ Read target [reloaded, initial] before)
    (.perform fun _ h r _ hh _ => ?_) fun _ => ?_
  · obtain ⟨hb, hread⟩ := hh
    have hrefused : (∀ out, r ≠ .ok (.ok out)) → ∀ e, Reloads device target (.error e) (Did.commit _ r :: h) := by
      intro hr e
      constructor
      · exact restores_of_bearing hb
      · intro outcome hok
        cases hok
      · intro _ _
        exact .inr ⟨initial, reloaded, _, _, r, h, rfl, hb.unasked, hread, .inl hr⟩
    rcases (r : Except StateError (Except ManagerError Unit)) with e | (e | out)
    · exact hrefused nofun _
    · exact hrefused nofun _
    · exact ⟨h, rfl, hb, hread⟩
  cases hmismatch : firstMismatch initial.1 initial.2 reloaded.1 reloaded.2 with
  | some resource =>
    refine .throw fun _ h hh => ?_
    obtain ⟨before, rfl, hb, hread⟩ := hh
    constructor
    · exact restores_of_bearing hb
    · intro outcome hok
      cases hok
    · intro _ _
      refine .inr ⟨initial, reloaded, _, _, _, before, rfl, hb.unasked, hread, .inr ⟨fun hsame => ?_, ?_⟩⟩
      · rw [firstMismatch_none.2 hsame] at hmismatch
        cases hmismatch
      · rfl
  | none =>
    refine .pure fun _ h hh => ?_
    obtain ⟨before, rfl, hb, -⟩ := hh
    constructor
    · exact restores_of_bearing hb
    · intro _ _
      exact ⟨original, hb.found, hb.wrote⟩
    · intro e herr
      cases herr

variable [Crc32fast]

/-- Opening the mouse writes nothing. -/
theorem leads_openIdle {operation : String} :
    Leads (S := Backend) Op.doesAmong (fun _ h => Idle h ∧ Read target [] h) (openLocked device operation)
      (fun _ _ h => Idle h ∧ Read target [] h) fun _ _ h => Idle h ∧ Read target [] h := by
  have hopening : Opening fun o => o.leavesImages = true ∧ o.looks = true :=
    ⟨fun _ _ => ⟨rfl, rfl⟩, ⟨rfl, rfl⟩, fun _ => ⟨rfl, rfl⟩, ⟨rfl, rfl⟩, fun _ _ => ⟨rfl, rfl⟩, fun _ => ⟨rfl, rfl⟩,
      fun _ _ => ⟨rfl, rfl⟩⟩
  refine .only (fun o _ r _ h ho hh _ => ⟨?_, hh.2.stable ho.1⟩) hopening.openLocked
  obtain ⟨⟨hwrote, hunasked⟩, -⟩ := hh
  cases o with
  | session endpoint call =>
    cases call with
    | writeProfileMetadata metadata => cases ho.2
    | _ => exact ⟨hwrote, hunasked.cons rfl⟩
  | commit t => cases ho.2
  | _ => exact ⟨hwrote, hunasked.cons rfl⟩

/-- **The verification**: read, leave, come back and read again, and write the original numbers. -/
theorem leads_reloads : Leads (S := Backend) Op.doesAmong (fun _ h => h = []) (verifyProfileReload device target)
    (fun outcome _ h => Reloads device target (.ok outcome) h) fun e _ h => Reloads device target (.error e) h := by
  refine .bind (Q := fun _ _ h => Idle h ∧ Read target [] h)
    (leads_openIdle.mono ?_ (fun _ _ _ => id) fun _ _ _ hh => hh.1.reloads) fun opened => ?_
  · rintro _ h rfl
    exact ⟨⟨rfl, unasked_nil⟩, rfl⟩
  obtain ⟨identity, session⟩ := opened
  refine .bind (Q := fun _ _ h => Idle h ∧ Read target [] h)
    (.ensure (fun _ _ _ => id) fun _ _ _ hh => hh.1.reloads) fun _ => ?_
  refine .bind (Q := fun original _ h => Bearing original none h ∧ Read target [] h)
    (.perform fun _ h r _ hh _ => ?_) fun original => ?_
  · obtain ⟨⟨hwrote, hunasked⟩, hread⟩ := hh
    have hread : Read target [] (Did.session session.endpoint .readProfileMetadata r :: h) := hread.stable rfl
    cases (r : Except ManagerError ProfileMetadata) with
    | error e => exact Idle.reloads ⟨hwrote, hunasked.cons rfl⟩
    | ok original => exact ⟨⟨rfl, hwrote, hunasked.cons rfl⟩, hread⟩
  refine .bind (Q := fun _ _ h => target.get ≤ original.maximum.get ∧ Bearing original none h ∧ Read target [] h)
    (.ensure (fun hle _ _ hh => ⟨hle, hh⟩) fun _ _ _ hh => hh.1.idle.reloads) fun _ => .of_pure fun hle => ?_
  refine .bind (Q := fun _ _ h => Bearing original none h ∧ Read target [] h)
    (.ofOption (fun _ _ _ _ => id) fun _ _ _ hh => hh.1.idle.reloads) fun away => ?_
  refine .bind (leads_readBearing.mono (fun _ _ => id) (fun _ _ _ => id) fun _ _ _ hb => hb.idle.reloads) fun initial => ?_
  refine .bind (Q := fun _ _ h => Bearing original none h ∧ Read target [initial] h)
    (.ofExcept (fun _ _ _ _ => id) fun _ _ _ _ hh => hh.1.idle.reloads) fun awayMetadata => ?_
  refine .bind leads_switchAway fun _ => .of_exists fun write => ?_
  refine .bind (Q := fun _ _ h => Bearing original write h ∧ Read target [initial] h)
    (.ofExcept (fun _ _ _ _ => id) fun e he => absurd he (new_ne_error hle e)) fun targetMetadata => ?_
  -- An error of the second read is kept until the original numbers are written.
  let Again (result : Except ManagerError (ProfileSnapshot × PollingRate)) (h : History Backend) : Prop :=
    ∀ reloaded, result = .ok reloaded → Read target [reloaded, initial] h
  refine .bind (Q := fun result _ h => (∃ write, Bearing original write h) ∧ Again result h) (.attempt ?_) fun result => ?_
  · refine .bind (Q := fun _ _ h => ∃ write, Bearing original write h ∧ Read target [initial] h) ?_ fun _ => ?_
    · refine (leads_writeBearing Read.leftByWrites targetMetadata).mono (fun _ _ => id) (fun _ _ _ hh => ⟨_, hh⟩) ?_
      rintro e _ h ⟨r, hb, -⟩
      refine ⟨⟨_, hb⟩, ?_⟩
      rintro _ ⟨⟩
    · refine .of_exists fun write => leads_readBearing.mono (fun _ _ => id) ?_ fun _ _ _ hb => ⟨⟨_, hb⟩, fun _ heq => ?_⟩
      rotate_left
      · cases heq
      rintro reloaded _ h ⟨hb, hread⟩
      refine ⟨⟨_, hb⟩, ?_⟩
      rintro _ ⟨⟩
      exact hread
  have hagain : LeftByWrites (Again result) := fun _ _ _ _ hread reloaded hok => (hread reloaded hok).stable rfl
  refine .bind (Q := fun _ _ h => Bearing original (some (original, .ok (.readbackVerified original))) h ∧ Again result h)
    ?_ fun _ => ?_
  · intro s h r s' h' hh
    obtain ⟨⟨write, hb⟩, hread⟩ := hh
    refine (leads_writeBearing hagain original).mono (fun _ _ => id) (fun _ _ _ => id) ?_ s h r s' h' ⟨hb, hread⟩
    rintro e _ h ⟨r, hb, -⟩
    exact hb.reloads
  refine .bind (Q := fun reloaded _ h => Bearing original (some (original, .ok (.readbackVerified original))) h ∧
    Read target [reloaded, initial] h) (.ofExcept ?_ fun _ _ _ _ hh => hh.1.reloads) fun reloaded => leads_finishBearing
  intro reloaded hok _ h hh
  exact ⟨hh.1, hh.2 reloaded hok⟩

end Reload

/-! ## Both workflows -/

/-- **Reading other profiles puts the mouse back.**  Whatever a mouse answers, a capture and a reload verification write
the numbers they found last, and answer with a value only after reading them back.  A capture reads each profile once,
while it is current, and records nothing; a verification that fails records an image only where the reload changed it. -/
theorem traversals_restore [Crc32fast] :
    (∀ session state result state' h, GoesAmong (captureAllProfiles session) state result state' h → Captures result h) ∧
    ∀ device target state result state' h, GoesAmong (verifyProfileReload device target) state result state' h →
      Reloads device target result h := by
  constructor
  · intro session state result state' h hgoes
    have hend := leads_captureAllProfiles state [] result state' h rfl hgoes
    cases result with
    | ok capture => exact hend
    | error e => exact hend
  · intro device target state result state' h hgoes
    have hend := leads_reloads state [] result state' h rfl hgoes
    cases result with
    | ok outcome => exact hend
    | error e => exact hend

end AttackSharkX3

namespace AttackSharkX3.Rig

/-- A call in a world that remembers more than the store is one way to go. -/
theorem goes_of_answers {α τ : Type} (view : τ → StateFile) {answer : (o : Op) → τ → Option (o.Res × τ)}
    (hstep : ∀ o t r t', answer o t = some (r, t') → o.does (view t) r (view t')) (x : Manager α) (start : τ)
    (test : Except ManagerError α → StateFile → Bool)
    (h : (Effects.Prog.exec (Effects.Prog.logged (S := Backend) answer) x.run (start, [])).any
      (fun r => test r.1 (view r.2.1)) = true) :
    ∃ result state' history, Goes x (view start) result state' history ∧ test result state' = true := by
  obtain ⟨⟨result, t', history⟩, hexec, htest⟩ := (Option.any_eq_true ..).1 h
  have hends := @Effects.Prog.Ends.of_exec _ _ _ (fun (o : Op) t r t' => o.does (view t) r (view t')) _ hstep _ _ _ _ _ _ hexec
  exact ⟨result, view t', history, hends.map view fun _ _ _ _ hd => hd, htest⟩

/-- The answers of one bench until a live rate was read, and of another from then on. -/
def changing (before after : Bench) (o : Op) (s : StateFile × Bool) : Option (o.Res × StateFile × Bool) :=
  ((if s.2 then after else before).replies o s.1).map fun r => (r.1, r.2, s.2 || o.readsRate.isSome)

theorem changing_does (before after : Bench) (o : Op) (s : StateFile × Bool) (r : o.Res) (s' : StateFile × Bool)
    (h : changing before after o s = some (r, s')) : o.does s.1 r s'.1 := by
  obtain ⟨⟨r₀, s₀⟩, hreplies, heq⟩ := Option.map_eq_some_iff.1 h
  cases heq
  exact Bench.does_replies _ o s.1 _ _ hreplies

/-- The answers of a bench whose mouse remembers which profile is current. -/
def switching (o : Op) (s : StateFile × Mice Unit) : Option (o.Res × StateFile × Mice Unit) :=
  match o with
  | .session _ call => some ((session s.2 () call).1, s.1, (session s.2 () call).2)
  | o => ((bench []).replies o s.1).map fun r => (r.1, r.2, s.2)

theorem switching_does (o : Op) (s : StateFile × Mice Unit) (r : o.Res) (s' : StateFile × Mice Unit)
    (h : switching o s = some (r, s')) : o.does s.1 r s'.1 := by
  cases o with
  | session endpoint call =>
    cases h
    rfl
  | _ =>
    have h : ((bench []).replies _ s.1).map (fun r => (r.1, r.2, s.2)) = some (r, s') := h
    obtain ⟨⟨r₀, s₀⟩, hreplies, heq⟩ := Option.map_eq_some_iff.1 h
    cases heq
    exact Bench.does_replies (bench []) _ s.1 _ _ hreplies

/-- A capture that goes well puts the mouse back. -/
theorem restores_after_capture : ∃ capture state' h,
    GoesAmong (captureAllProfiles ⟨wired "a"⟩) (holding (wired "a") .empty []) (.ok capture) state' h ∧
      Captures (.ok capture) h := by
  obtain ⟨result, state', h, hgoes, hok⟩ := goes_of_answers Prod.fst switching_does (captureAllProfiles ⟨wired "a"⟩)
    (holding (wired "a") .empty [], ⟨fun _ => unit fun _ => none, fun _ => none⟩)
    (fun result _ => result.toOption.isSome) (by decide +kernel)
  cases result with
  | error e => cases hok
  | ok capture =>
    have hends := hgoes.mono fun o s r s' hd => (⟨s, hd⟩ : Op.doesAmong o s r s')
    exact ⟨capture, state', h, hends, traversals_restore.1 _ _ _ state' h hends⟩

/-- **A reload that changed the image is an error, and recorded.** -/
theorem records_changed_image : ∃ e state' h,
    Goes (verifyProfileReload mouse1 fifth) (holding (wired "a") .empty []) (.error e) state' h ∧
      state' ≠ holding (wired "a") .empty [] := by
  obtain ⟨result, state', h, hgoes, htest⟩ := goes_of_answers Prod.fst
    (changing_does (bench [(wired "a", unit fun _ => some (token 1))]) (bench [(wired "a", unit fun _ => none)]))
    (verifyProfileReload mouse1 fifth) (holding (wired "a") .empty [], false) (fun result state' => result = .error (.verificationMismatch "dpi" (some fifth)) ∧
      state' ≠ holding (wired "a") .empty []) (by decide +kernel)
  obtain ⟨rfl, hne⟩ := of_decide_eq_true htest
  exact ⟨_, state', h, hgoes, hne⟩

end AttackSharkX3.Rig
