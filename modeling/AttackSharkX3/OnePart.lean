import AttackSharkX3.Composite
import AttackSharkX3.Deltas
import AttackSharkX3.Effects.Matches
/-!
# OnePart — a composite update of one part, next to the operation for that part

Each section has an operation of its own, and the composite update does the same work again.  With one part to update the
two take the same calls of the session and record the same evidence.
-/
namespace AttackSharkX3

open Effects (Fallible Pairing Twins Both)
open Effects.Prog (Event History Ends Matches)

/-! ## Counterparts -/

/-- The error with the two operations exchanged where a busy lock names one of them. -/
def ManagerError.renamed (name name' : String) : ManagerError → ManagerError
  | .deviceOperationBusy device operation timeout path =>
    .deviceOperationBusy device (if operation = name then name' else if operation = name' then name else operation) timeout
      path
  | e => e

theorem ManagerError.renamed_renamed (name name' : String) (e : ManagerError) :
    (e.renamed name name').renamed name name' = e := by
  cases e with
  | deviceOperationBusy device operation timeout path =>
    simp only [renamed]
    by_cases h : operation = name
    · by_cases hsame : name' = name
      · simp [h, hsame]
      · simp [h, hsame]
    · by_cases h' : operation = name'
      · subst h'
        simp [h]
      · simp [h, h']
  | _ => rfl

/-- The second transaction does to the store what the first does, and answers the same, wrapped. -/
def Txn.Alike (t t' : Txn) (wrap : t.Out → t'.Out) : Prop :=
  ∀ state, t'.after state = t.after state ∧ t'.answer state = (t.answer state).map wrap

/-- **Which operation stands for which**: the lock is asked for under another name, and the record made by another
transaction with the same effect. -/
inductive Stands (name name' : String) : (o o' : Op) → (o.Res → o'.Res → Prop) → Prop where
  | same (o : Op) : Stands name name' o o Eq
  | locked (device : DeviceId) : Stands name name' (.acquire device name) (.acquire device name')
      fun (r r' : Except ManagerError Unit) => r' = r.mapError (·.renamed name name')
  | recorded {t t' : Txn} {wrap : t.Out → t'.Out} (alike : t.Alike t' wrap) : Stands name name' (.commit t) (.commit t')
      fun (r : Except StateError (Except ManagerError t.Out)) (r' : Except StateError (Except ManagerError t'.Out)) =>
        r' = r.map (·.map wrap)

theorem Commits.alike {t t' : Txn} {wrap : t.Out → t'.Out} (ha : t.Alike t' wrap) {state state' : StateFile}
    {r : Except StateError (Except ManagerError t.Out)} (hc : Commits t state r state') :
    Commits t' state (r.map (·.map wrap)) state' := by
  obtain ⟨hafter, hanswer⟩ := ha state
  cases hc with
  | unchanged same =>
    show Commits t' state (.ok ((t.answer state).map wrap)) state
    rw [← hanswer]
    exact .unchanged (hafter.trans same)
  | stored valid =>
    show Commits t' state (.ok ((t.answer state).map wrap)) _
    rw [← hanswer, ← hafter]
    exact .stored (hafter ▸ valid)
  | rejected invalid => exact .rejected (hafter ▸ invalid)
  | failed e => exact .failed e
  | unsynced e valid =>
    rw [← hafter]
    exact .unsynced e (hafter ▸ valid)

theorem Commits.alike_back {t t' : Txn} {wrap : t.Out → t'.Out} (ha : t.Alike t' wrap) {state state' : StateFile}
    {r' : Except StateError (Except ManagerError t'.Out)} (hc : Commits t' state r' state') :
    ∃ r, r' = r.map (·.map wrap) ∧ Commits t state r state' := by
  obtain ⟨hafter, hanswer⟩ := ha state
  cases hc with
  | unchanged same =>
    rw [hanswer]
    exact ⟨_, rfl, .unchanged (hafter.symm.trans same)⟩
  | stored valid =>
    rw [hanswer, hafter]
    exact ⟨_, rfl, .stored (hafter ▸ valid)⟩
  | rejected invalid => exact ⟨_, rfl, .rejected (hafter ▸ invalid)⟩
  | failed e => exact ⟨_, rfl, .failed e⟩
  | unsynced e valid =>
    rw [hafter]
    exact ⟨_, rfl, .unsynced e (hafter ▸ valid)⟩

theorem stands_forth (name name' : String) :
    Pairing.Forth (S := Backend) (Stands name name') Op.does := by
  intro o o' rel hC s r s' hd
  cases hC with
  | same => exact ⟨r, rfl, hd⟩
  | locked device => exact ⟨_, rfl, hd⟩
  | recorded alike => exact ⟨_, rfl, Commits.alike alike hd⟩

theorem stands_back (name name' : String) :
    Pairing.Back (S := Backend) (Stands name name') Op.does := by
  intro o o' rel hC s r' s' hd
  cases hC with
  | same => exact ⟨r', rfl, hd⟩
  | locked device =>
    refine ⟨(r' : Except ManagerError Unit).mapError (·.renamed name name'), ?_, hd⟩
    rcases (r' : Except ManagerError Unit) with e | _
    · exact congrArg Except.error (e.renamed_renamed name name').symm
    · rfl
  | recorded alike =>
    obtain ⟨r, hr, hc⟩ := Commits.alike_back alike hd
    exact ⟨r, hr, hc⟩

/-! ## The steps of both -/

/-- The calls of the session, with the answers, the newest first. -/
def sessionCalls (h : History Backend) : History Backend := h.filter fun ev => match ev.1 with
  | .session .. => true
  | _ => false

/-- An image of the button table was sent. -/
def SentButtons (image : ButtonsState) (h : History Backend) : Prop :=
  ∃ endpoint verification r before, (Did.session endpoint (.writeButtons image verification) r :: before) <:+ h

/-- **The same error**, a busy lock naming the operation that asked; a differing button table is reported for the profile
it names by the one, and for the profile it was asked for by the other. -/
inductive SameError (name name' : String) (profile : ProfileId) (h : History Backend) (e : ManagerError) : ManagerError → Prop where
  | same : SameError name name' profile h e e
  | busy : SameError name name' profile h e (e.renamed name name')
  | differs {image : ButtonsState} (sent : SentButtons image h)
      (named : e = .verificationMismatch "buttons" (some image.profile)) :
      SameError name name' profile h e (.verificationMismatch "buttons" (some profile))

section Steps

variable {name name' : String} {profile : ProfileId} {T : Type}

/-- What both do. -/
theorem twins_same {x : Manager T} {P : History Backend → Prop} (grows : ∀ h h', P h → h <:+ h' → P h') :
    Twins (S := Backend) (Stands name name') P x x (fun a b h => a = b ∧ P h) fun e e' h => SameError name name' profile h e e' :=
  .refl .same (fun _ _ _ => .same) grows

/-- Nothing is known of the history. -/
theorem grows_true : ∀ h h' : History Backend, True → h <:+ h' → True := fun _ _ _ _ => trivial

/-- **The mouse is opened** under either name. -/
theorem twins_openLocked [Crc32fast] (device : DeviceId) :
    Twins (S := Backend) (Stands name name') (fun _ => True) (openLocked device name) (openLocked device name')
      (fun a b _ => a = b ∧ True) fun e e' h => SameError name name' profile h e e' := by
  refine .bind (Q := fun _ _ _ => True) (.perform (.locked device) fun h r r' _ hr => ?_) fun _ _ => twins_same grows_true
  subst hr
  cases (r : Except ManagerError Unit) with
  | ok _ => trivial
  | error e => exact .busy

end Steps

/-! ## One record -/

section Records

variable {device : DeviceId} {profile : ProfileId} {now : Timestamp}

theorem alike_dpi (desired : DpiState) (write : SessionWrite DpiState) :
    (Txn.persistDpi device profile desired write now).Alike (.persistProfile device profile ⟨some (desired, write), none,
      none⟩ now) fun out => { dpi := some out } := by
  intro state
  have happly : (Txn.persistParts device profile ⟨some (desired, write), none, none⟩ now).apply state =
      (((persistWrite .dpi device profile desired write now).apply state).1.map fun out => { dpi := some out },
        ((persistWrite .dpi device profile desired write now).apply state).2) := by
    simp only [Txn.persistParts, Mutation.apply_bind, Option.mapM_some, Option.mapM_none, Mutation.apply_map]
    rcases (persistWrite .dpi device profile desired write now).apply state with ⟨e | out, state'⟩ <;> rfl
  exact ⟨congrArg Prod.snd happly, congrArg Prod.fst happly⟩

theorem alike_preferences (desired : PreferencesState) (write : SessionWrite PreferencesState) :
    (Txn.persistPreferences device profile desired write now).Alike (.persistProfile device profile ⟨none,
      some (desired, write), none⟩ now) fun out => { preferences := some out } := by
  intro state
  have happly : (Txn.persistParts device profile ⟨none, some (desired, write), none⟩ now).apply state =
      (((persistWrite .preferences device profile desired write now).apply state).1.map fun out =>
        { preferences := some out }, ((persistWrite .preferences device profile desired write now).apply state).2) := by
    simp only [Txn.persistParts, Mutation.apply_bind, Option.mapM_some, Option.mapM_none, Mutation.apply_map,
      Mutation.apply_pure]
    rcases (persistWrite .preferences device profile desired write now).apply state with ⟨e | out, state'⟩ <;> rfl
  exact ⟨congrArg Prod.snd happly, congrArg Prod.fst happly⟩

/-- Both record a button table under the profile it names. -/
theorem alike_buttons (desired : ButtonsState) (write : SessionWrite ButtonsState) :
    (Txn.persistButtons device desired.profile desired write now).Alike (.persistProfile device profile ⟨none, none,
      some (desired, write)⟩ now) fun out => { buttons := some out } := by
  intro state
  have happly : (Txn.persistParts device profile ⟨none, none, some (desired, write)⟩ now).apply state =
      (((persistWrite .buttons device desired.profile desired write now).apply state).1.map fun out =>
        { buttons := some out }, ((persistWrite .buttons device desired.profile desired write now).apply state).2) := by
    simp only [Txn.persistParts, Mutation.apply_bind, Option.mapM_some, Option.mapM_none, Mutation.apply_map,
      Mutation.apply_pure]
    rcases (persistWrite .buttons device desired.profile desired write now).apply state with ⟨e | out, state'⟩ <;> rfl
  exact ⟨congrArg Prod.snd happly, congrArg Prod.fst happly⟩

end Records

/-! ## The composite, part by part -/

theorem optionally_some_bind {D A B : Type} (part : D) (apply : D → Manager A) (g : Option A → Manager B) :
    (optionally (some part) apply >>= g) = apply part >>= fun a => g (some a) := by
  simp [optionally]

/-- What an accepted composite update without a rate does. -/
theorem applyProfileUpdate_parts [Crc32fast] {device : DeviceId} {profile : ProfileId} {update : ProfileUpdate}
    {policy : UpdatePolicy} (hsome : update.isEmpty = false) (hrate : update.pollingRate = none)
    (hdpi : update.dpi.all (!·.isEmpty) = true) (hpreferences : update.preferences.all (!·.isEmpty) = true) :
    applyProfileUpdate device profile update policy = openLocked device "apply_profile_update" >>= fun opened =>
      applyParts device profile update policy none opened.1.physicalId opened.2 := by
  have halone : ¬ (update.hasPolling = true ∧ update.hasNonRate = true) := by simp [ProfileUpdate.hasPolling, hrate]
  unfold applyProfileUpdate applyProfileUpdateInner Fallible.ensure
  rw [if_pos hsome, if_pos halone, if_pos hdpi, if_pos hpreferences, hrate]
  rfl

section Parts

variable {device : DeviceId} {profile : ProfileId} {policy : UpdatePolicy} {physicalId : Option PhysicalId} {session : Session}

/-- The end of a composite update. -/
def finishParts (profile : ProfileId) (outcome : ProfileUpdateOutcome) : Manager ProfileUpdateOutcome := do
  let dpi ← optionally outcome.dpi fun out => Fallible.ofExcept id (finishWrite out "DPI" profile)
  let preferences ← optionally outcome.preferences fun out => Fallible.ofExcept id (finishWrite out "preferences" profile)
  let buttons ← optionally outcome.buttons fun out => Fallible.ofExcept id (finishWrite out "buttons" profile)
  return { dpi, preferences, buttons }

theorem applyParts_dpi [Crc32fast] (delta : DpiDelta) :
    applyParts device profile { dpi := some delta } policy none physicalId session =
      applyDpiPart device profile delta physicalId policy none session >>= fun part => Manager.now >>= fun now =>
        Manager.commit (.persistProfile device profile ⟨some part, none, none⟩ now) >>= finishParts profile := by
  unfold applyParts
  rw [optionally_some_bind]
  rfl

theorem applyParts_preferences [Crc32fast] (delta : PreferencesDelta) :
    applyParts device profile { preferences := some delta } policy none physicalId session =
      applyPreferencesPart device profile delta policy none session >>= fun part => Manager.now >>= fun now =>
        Manager.commit (.persistProfile device profile ⟨none, some part, none⟩ now) >>= finishParts profile := by
  unfold applyParts
  have hskip : ∀ {D A B : Type} (apply : D → Manager A) (g : Option A → Manager B),
    (optionally none apply >>= g) = g none := fun _ _ => rfl
  rw [hskip, optionally_some_bind]
  rfl

theorem applyParts_buttons [Crc32fast] (delta : ButtonSlotDelta) :
    applyParts device profile { buttons := [delta] } policy none physicalId session =
      applyButtonsPart device profile [delta] policy none session >>= fun part => Manager.now >>= fun now =>
        Manager.commit (.persistProfile device profile ⟨none, none, some part⟩ now) >>= finishParts profile := by
  unfold applyParts
  have hskip : ∀ {D A B : Type} (apply : D → Manager A) (g : Option A → Manager B),
    (optionally none apply >>= g) = g none := fun _ _ => rfl
  rw [hskip, hskip]
  exact optionally_some_bind [delta] _ _

end Parts

/-! ## Part by part, both -/

section Twin

variable {name name' : String} {device : DeviceId} {profile : ProfileId} {P : History Backend → Prop}

/-- **The record** by either transaction. -/
theorem twins_commit {t t' : Txn} {wrap : t.Out → t'.Out} (alike : t.Alike t' wrap)
    (grows : ∀ h h', P h → h <:+ h' → P h') :
    Twins (S := Backend) (Stands name name') P (Manager.commit t) (Manager.commit t') (fun a b h => b = wrap a ∧ P h)
      fun e e' h => SameError name name' profile h e e' := by
  refine .perform (.recorded alike) fun h r r' hP hr => ?_
  subst hr
  rcases (r : Except StateError (Except ManagerError t.Out)) with e | e | out
  · exact .same
  · exact .same
  · exact ⟨rfl, grows _ _ hP (List.suffix_cons _ _)⟩

/-- **The end of a write**: sent, timed, recorded and checked. -/
theorem twins_sent {V : Type} {send : Manager (SessionWrite V)} {wrap : WriteOutcome V → ProfileUpdateOutcome}
    {record : SessionWrite V → Timestamp → Manager (WriteOutcome V)}
    {record' : SessionWrite V → Timestamp → Manager ProfileUpdateOutcome} {finish : WriteOutcome V → Manager (WriteOutcome V)}
    {sent : History Backend → Prop} (grows : ∀ h h', sent h → h <:+ h' → sent h')
    (hsend : Twins (S := Backend) (Stands name name') (fun _ => True) send send (fun a b h => a = b ∧ sent h)
      fun e e' h => SameError name name' profile h e e')
    (hrecord : ∀ write now, Twins (S := Backend) (Stands name name') sent (record write now) (record' write now)
      (fun a b h => b = wrap a ∧ sent h) fun e e' h => SameError name name' profile h e e')
    (hfinish : ∀ out, Twins (S := Backend) (Stands name name') sent (finish out) (finishParts profile (wrap out))
      (fun a b _ => b = wrap a) fun e e' h => SameError name name' profile h e e') :
    Twins (S := Backend) (Stands name name') (fun _ => True)
      (do
        let write ← send
        let now ← Manager.now
        let out ← record write now
        finish out)
      (do
        let write ← send
        let now ← Manager.now
        let out ← record' write now
        finishParts profile out)
      (fun a b _ => b = wrap a) fun e e' h => SameError name name' profile h e e' := by
  refine .bind hsend fun write write' => ?_
  rintro h ⟨rfl, hs⟩
  refine Twins.bind (twins_same grows) (fun now now' => ?_) h hs
  rintro h ⟨rfl, hs⟩
  refine Twins.bind (hrecord write now) (fun out out' => ?_) h hs
  rintro h ⟨rfl, hs⟩
  exact hfinish out h hs

/-- A check that names the same profile on both sides. -/
theorem twins_finish {V : Type} {wrap : WriteOutcome V → ProfileUpdateOutcome} {resource : String}
    (hparts : ∀ out, finishParts profile (wrap out) = (do
      let out ← Fallible.ofExcept id (finishWrite out resource profile)
      return wrap out)) (out : WriteOutcome V) :
    Twins (S := Backend) (Stands name name') P (Fallible.ofExcept id (finishWrite out resource profile))
      (finishParts profile (wrap out)) (fun a b _ => b = wrap a) fun e e' h => SameError name name' profile h e e' := by
  rw [hparts]
  intro h _
  cases finishWrite out resource profile with
  | ok out => rfl
  | error e => exact .same

end Twin

/-! ## The three updates -/

/-- **An update of one part.** -/
inductive OnePart where
  | dpi (delta : DpiDelta)
  | preferences (delta : PreferencesDelta)
  | buttons (delta : ButtonSlotDelta)

namespace OnePart

/-- What the part sets. -/
def Value : OnePart → Type
  | dpi _ => DpiState
  | preferences _ => PreferencesState
  | buttons _ => ButtonsState

/-- The composite update of the part alone. -/
def update : OnePart → ProfileUpdate
  | dpi delta => { dpi := some delta }
  | preferences delta => { preferences := some delta }
  | buttons delta => { buttons := [delta] }

/-- The part sets something. -/
def Edits : OnePart → Prop
  | dpi delta => delta.isEmpty = false
  | preferences delta => delta.isEmpty = false
  | buttons _ => True

/-- **The operation of the part.** -/
def operation [Crc32fast] (device : DeviceId) (profile : ProfileId) (policy : UpdatePolicy) :
    (part : OnePart) → Manager (WriteOutcome part.Value)
  | dpi delta => updateDpiDelta device profile delta policy
  | preferences delta => updatePreferencesDelta device profile delta policy
  | buttons delta => updateButtonSlot device profile delta policy

/-- The name it asks for the lock by. -/
def name : OnePart → String
  | dpi _ => "update_dpi_delta"
  | preferences _ => "update_preferences_delta"
  | buttons _ => "update_button_slot"

/-- What the composite update answers where the operation answers `out`. -/
def outcome : (part : OnePart) → WriteOutcome part.Value → ProfileUpdateOutcome
  | dpi _, out => { dpi := some out }
  | preferences _, out => { preferences := some out }
  | buttons _, out => { buttons := some out }

end OnePart

section Updates

variable [Crc32fast] (device : DeviceId) (profile : ProfileId) (policy : UpdatePolicy)

theorem twins_updateDpi {delta : DpiDelta} (hedits : delta.isEmpty = false) :
    Twins (S := Backend) (Stands "update_dpi_delta" "apply_profile_update") (fun _ => True)
      (updateDpiDelta device profile delta policy) (applyProfileUpdate device profile { dpi := some delta } policy)
      (fun a b _ => b = { dpi := some a })
      fun e e' h => SameError "update_dpi_delta" "apply_profile_update" profile h e e' := by
  have hall : (some delta).all (!·.isEmpty) = true := by simp [hedits]
  rw [applyProfileUpdate_parts rfl rfl hall rfl]
  unfold updateDpiDelta Fallible.ensure
  rw [if_pos hedits, pure_bind]
  refine .bind (twins_openLocked device) fun opened opened' => ?_
  rintro h ⟨rfl, -⟩
  simp only [applyParts_dpi, applyDpiPart, bind_assoc, pure_bind]
  refine Twins.bind (twins_same grows_true) (fun baseline baseline' => ?_) h trivial
  rintro h ⟨rfl, -⟩
  refine Twins.bind (Twins.refl .same (fun _ _ _ => .same) grows_true) (fun desired desired' => ?_) h trivial
  rintro h ⟨rfl, -⟩
  refine twins_sent grows_true (twins_same grows_true)
    (fun write now => twins_commit (alike_dpi _ write) grows_true) (twins_finish fun out => ?_) h trivial
  unfold finishParts
  rw [optionally_some_bind]
  rfl

theorem twins_updatePreferences {delta : PreferencesDelta} (hedits : delta.isEmpty = false) :
    Twins (S := Backend) (Stands "update_preferences_delta" "apply_profile_update") (fun _ => True)
      (updatePreferencesDelta device profile delta policy)
      (applyProfileUpdate device profile { preferences := some delta } policy) (fun a b _ => b = { preferences := some a })
      fun e e' h => SameError "update_preferences_delta" "apply_profile_update" profile h e e' := by
  have hall : (some delta).all (!·.isEmpty) = true := by simp [hedits]
  rw [applyProfileUpdate_parts rfl rfl rfl hall]
  unfold updatePreferencesDelta Fallible.ensure
  rw [if_pos hedits, pure_bind]
  refine .bind (twins_openLocked device) fun opened opened' => ?_
  rintro h ⟨rfl, -⟩
  simp only [applyParts_preferences, applyPreferencesPart, bind_assoc, pure_bind]
  refine Twins.bind (twins_same grows_true) (fun baseline baseline' => ?_) h trivial
  rintro h ⟨rfl, -⟩
  refine twins_sent grows_true (twins_same grows_true)
    (fun write now => twins_commit (alike_preferences _ write) grows_true) (twins_finish fun out => ?_) h trivial
  unfold finishParts
  have hskip : ∀ {D A B : Type} (apply : D → Manager A) (g : Option A → Manager B),
    (optionally none apply >>= g) = g none := fun _ _ => rfl
  rw [hskip, optionally_some_bind]
  rfl

omit [Crc32fast] in
theorem SentButtons.grows (image : ButtonsState) : ∀ h h', SentButtons image h → h <:+ h' → SentButtons image h' := by
  rintro h h' ⟨endpoint, verification, r, before, hbefore⟩ hs
  exact ⟨endpoint, verification, r, before, hbefore.trans hs⟩

omit [Crc32fast] in
theorem twins_writeButtons {name name' : String} {profile : ProfileId} {verification : VerificationMethod}
    (session : Session) (image : ButtonsState) :
    Twins (S := Backend) (Stands name name') (fun _ => True) (session.writeButtons image verification)
      (session.writeButtons image verification) (fun a b h => a = b ∧ SentButtons image h)
      fun e e' h => SameError name name' profile h e e' := by
  refine .perform (.same _) fun h r r' _ hr => ?_
  subst hr
  cases (r : Except ManagerError (SessionWrite ButtonsState)) with
  | ok write => exact ⟨rfl, session.endpoint, verification, .ok write, h, List.suffix_refl _⟩
  | error e => exact .same

omit [Crc32fast] in
/-- A mismatch is reported after the image was sent. -/
theorem twins_finishButtons {name name' : String} (image : ButtonsState) (out : WriteOutcome ButtonsState) :
    Twins (S := Backend) (Stands name name') (SentButtons image)
      (Fallible.ofExcept id (finishWrite out "buttons" image.profile)) (finishParts profile { buttons := some out })
      (fun a b _ => b = { buttons := some a }) fun e e' h => SameError name name' profile h e e' := by
  intro h hsent
  unfold finishParts finishWrite
  have hskip : ∀ {D A B : Type} (apply : D → Manager A) (g : Option A → Manager B),
    (optionally none apply >>= g) = g none := fun _ _ => rfl
  rw [hskip, hskip, optionally_some_bind]
  by_cases hmismatch : out.verification.application = .mismatch
  · rw [if_pos hmismatch, if_pos hmismatch]
    exact .differs hsent rfl
  · rw [if_neg hmismatch, if_neg hmismatch]
    exact rfl

theorem twins_updateButtonSlot (delta : ButtonSlotDelta) :
    Twins (S := Backend) (Stands "update_button_slot" "apply_profile_update") (fun _ => True)
      (updateButtonSlot device profile delta policy) (applyProfileUpdate device profile { buttons := [delta] } policy)
      (fun a b _ => b = { buttons := some a })
      fun e e' h => SameError "update_button_slot" "apply_profile_update" profile h e e' := by
  rw [applyProfileUpdate_parts rfl rfl rfl rfl]
  unfold updateButtonSlot
  refine .bind (twins_openLocked device) fun opened opened' => ?_
  rintro h ⟨rfl, -⟩
  simp only [applyParts_buttons, applyButtonsPart, bind_assoc, pure_bind]
  refine Twins.bind (twins_same grows_true) (fun baseline baseline' => ?_) h trivial
  rintro h ⟨rfl, -⟩
  exact twins_sent (SentButtons.grows (baseline.assign delta)) (twins_writeButtons opened.2 (baseline.assign delta))
    (fun write _ => twins_commit (alike_buttons (baseline.assign delta) write) (SentButtons.grows _))
    (twins_finishButtons profile (baseline.assign delta)) h trivial

end Updates

/-! ## Every way they go -/

theorem Stands.sessionCalls {name name' : String} {h h' : History Backend}
    (halike : List.Forall₂ (Pairing.Alike (S := Backend) (Stands name name')) h h') :
    sessionCalls h' = AttackSharkX3.sessionCalls h := by
  induction halike with
  | nil => rfl
  | @cons ev ev' h h' hev _ ih =>
    obtain ⟨o, r⟩ := ev
    obtain ⟨o', r'⟩ := ev'
    obtain ⟨rel, hstands, hrel⟩ := hev
    unfold AttackSharkX3.sessionCalls at ih ⊢
    cases hstands with
    | same =>
      cases hrel
      rw [List.filter_cons, List.filter_cons, ih]
    | locked | recorded =>
      rw [List.filter_cons_of_neg Bool.false_ne_true, List.filter_cons_of_neg Bool.false_ne_true]
      exact ih

namespace OnePart

/-- **The composite update answers as the operation does.** -/
def AnswersAlike (part : OnePart) (profile : ProfileId) (h : History Backend) (result : Except ManagerError (WriteOutcome part.Value))
    (result' : Except ManagerError ProfileUpdateOutcome) : Prop :=
  Both (fun out out' _ => out' = part.outcome out)
    (fun e e' h => SameError part.name "apply_profile_update" profile h e e') result result' h

/-- What each did: the same of the session, and each other step the counterpart of the other's. -/
def DidAlike (part : OnePart) (h h' : History Backend) : Prop :=
  sessionCalls h' = sessionCalls h ∧
    List.Forall₂ (Pairing.Alike (S := Backend) (Stands part.name "apply_profile_update")) h h'

variable [Crc32fast]

theorem twins (part : OnePart) (hedits : part.Edits) (device : DeviceId) (profile : ProfileId) (policy : UpdatePolicy) :
    Twins (S := Backend) (Stands part.name "apply_profile_update") (fun _ => True) (part.operation device profile policy)
      (applyProfileUpdate device profile part.update policy) (fun out out' _ => out' = part.outcome out)
      fun e e' h => SameError part.name "apply_profile_update" profile h e e' := by
  cases part with
  | dpi delta => exact twins_updateDpi device profile policy hedits
  | preferences delta => exact twins_updatePreferences device profile policy hedits
  | buttons delta => exact twins_updateButtonSlot device profile policy delta

end OnePart

/-- **A composite update of one part goes each way the operation of the part may go, and no other.** -/
theorem one_part_agrees [Crc32fast] (part : OnePart) (hedits : part.Edits) (device : DeviceId) (profile : ProfileId)
    (policy : UpdatePolicy) (state : StateFile) :
    (∀ result state' h, Goes (part.operation device profile policy) state result state' h →
      ∃ result' h', Goes (applyProfileUpdate device profile part.update policy) state result' state' h' ∧
        part.AnswersAlike profile h result result' ∧ part.DidAlike h h') ∧
    ∀ result' state' h', Goes (applyProfileUpdate device profile part.update policy) state result' state' h' →
      ∃ result h, Goes (part.operation device profile policy) state result state' h ∧
        part.AnswersAlike profile h result result' ∧ part.DidAlike h h' := by
  have hmatches := part.twins hedits device profile policy [] trivial
  constructor
  · intro result state' h hgoes
    obtain ⟨result', h', hgoes', hanswers, halike⟩ := Matches.forth (stands_forth _ _) hgoes _ [] hmatches .nil
    exact ⟨result', h', hgoes', hanswers, Stands.sessionCalls halike, halike⟩
  · intro result' state' h' hgoes'
    obtain ⟨result, h, hgoes, hanswers, halike⟩ := Matches.back (stands_back _ _) hgoes' _ [] hmatches .nil
    exact ⟨result, h, hgoes, hanswers, Stands.sessionCalls halike, halike⟩

end AttackSharkX3

namespace AttackSharkX3.Rig

open Effects.Prog (exec)

/-- A mouse of which nothing is on record. -/
def unread : StateFile := holding (wired "a") .empty []

def oneStage : DpiDelta := { stages := some [⟨1600, DpiValue.range_1600⟩] }

/-- One stage is set alike. -/
theorem agrees_oneStage : ∃ result state' h result' h', Goes (updateDpiDelta mouse1 first oneStage {}) unread result state' h ∧
    Goes (applyProfileUpdate mouse1 first { dpi := some oneStage } {}) unread result' state' h' ∧
      (OnePart.dpi oneStage).AnswersAlike first h result result' ∧ (OnePart.dpi oneStage).DidAlike h h' := by
  have hrun : ((bench [(wired "a", unit fun _ => some (token 1))]).goes (updateDpiDelta mouse1 first oneStage {})
      unread).isSome = true := by decide +kernel
  obtain ⟨⟨result, state', h⟩, hgoes⟩ := Option.isSome_iff_exists.1 hrun
  have hends := Bench.goes_ends hgoes
  obtain ⟨result', h', hagrees⟩ := (one_part_agrees (.dpi oneStage) rfl mouse1 first {} unread).1 result state' h hends
  exact ⟨result, state', h, result', h', hends, hagrees⟩

/-- Another program holds the mouse's lock. -/
def contended : (o : Op) → StateFile → Option (o.Res × StateFile)
  | .acquire device operation, state =>
    some ((.error (.deviceOperationBusy device operation "5s" "mouse-1.lock") : Except ManagerError Unit), state)
  | o, state => (bench [(wired "a", unit fun _ => some (token 1))]).replies o state

theorem contended_does (o : Op) (state : StateFile) (r : o.Res) (state' : StateFile)
    (h : contended o state = some (r, state')) : o.does state r state' := by
  cases o with
  | acquire device operation =>
    cases h
    exact rfl
  | _ => exact Bench.does_replies (bench [(wired "a", unit fun _ => some (token 1))]) _ _ _ _ h

/-- **A busy lock names the operation that asked for it.** -/
theorem busy_names_its_operation : unread.validate = .ok () ∧
    (∀ o state r state', contended o state = some (r, state') → o.does state r state') ∧
      ∃ e e', exec contended (updateDpiDelta mouse1 first oneStage {}).run unread = some (.error e, unread) ∧
        exec contended (applyProfileUpdate mouse1 first { dpi := some oneStage } {}).run unread = some (.error e', unread) ∧
          e ≠ e' := by
  refine ⟨by decide +kernel, contended_does, .deviceOperationBusy mouse1 "update_dpi_delta" "5s" "mouse-1.lock",
    .deviceOperationBusy mouse1 "apply_profile_update" "5s" "mouse-1.lock", rfl, rfl, by decide⟩

end AttackSharkX3.Rig
