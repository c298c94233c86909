import Mathlib.Data.List.Infix
import AttackSharkX3.Alone
import AttackSharkX3.Ordinary
import AttackSharkX3.Rig
/-!
# Polling — the preflight of a polling-rate write

A rate is written into the profile the mouse has live, under the name of the target.  Before that the whole profile is
read and compared with what is desired.  Two calls make this check, and one of them leaves out whose profile is live.
-/
namespace AttackSharkX3

open Effects (Fallible Tries)
open Effects.Prog (Event History Keeps)

/-- The desired value of a section on record. -/
def StateFile.desired {T : Type} (state : StateFile) (sect : Section T) (device : DeviceId) (profile : ProfileId) :
    Option T :=
  (state.resource sect device profile).bind fun r => r.desired.map (·.value)

/-- The sections of a snapshot are the desired ones. -/
structure StateFile.Desires (state : StateFile) (device : DeviceId) (profile : ProfileId) (snapshot : ProfileSnapshot) :
    Prop where
  dpi : state.desired .dpi device profile = some snapshot.dpi
  preferences : state.desired .preferences device profile = some snapshot.preferences
  buttons : state.desired .buttons device profile = some snapshot.buttons

section Update

variable [Crc32fast]

/-- The record of a rate that was written, or found. -/
def recordPollingRate (device : DeviceId) (profile : ProfileId) (desired : PollingRate) (write : SessionWrite PollingRate) :
    Manager (WriteOutcome PollingRate) := do
  let now ← Manager.now
  let outcome ← Manager.commit (.persistPollingRate device profile desired write now)
  Fallible.ofExcept id (finishWrite outcome "polling rate" profile)

/-- **Sets the polling rate** of a profile. -/
def updatePollingRate (device : DeviceId) (profile : ProfileId) (desired : PollingRate) (policy : UpdatePolicy) :
    Manager (WriteOutcome PollingRate) := do
  let (_, session) ← openLocked device "update_polling_rate"
  Fallible.ensure (session.transport ≠ .ble) (.explicitAuthorizationRequired "update_polling_rate" .ble)
  let image ← requireCompleteDesiredImage device profile
  let snapshot ← session.readProfile profile
  Fallible.ensure (snapshot.dpi = image.dpi) (.missingBaseline "DPI" (some profile))
  Fallible.ensure (snapshot.preferences = image.preferences) (.missingBaseline "preferences" (some profile))
  Fallible.ensure (snapshot.buttons = image.buttons) (.missingBaseline "buttons" (some profile))
  let current ← session.readLivePollingRate profile
  if current = desired then recordPollingRate device profile desired (.readbackVerified current)
  else
    let write ← session.writePollingRateUnchecked profile desired policy.verification
    recordPollingRate device profile desired write

end Update

/-! ## The preflight -/

/-- The reads before a rate is written: the state, the whole profile and the live rate, over the session it is written to.
The sections read are the desired ones, and the rate is another. -/
structure Compared (device : DeviceId) (profile : ProfileId) (rate : PollingRate) (endpoint : DeviceEndpoint)
    (state : StateFile) (snapshot : ProfileSnapshot) (h : History Backend) : Prop where
  reads : ∃ current before, current ≠ rate ∧ h =
    Did.session endpoint (.readLivePollingRate profile) (.ok current) ::
      Did.session endpoint (.readProfile profile) (.ok snapshot) :: Did.load (.ok state) :: before
  desires : state.Desires device profile snapshot

/-- **The preflight of a rate write**: the sections were compared, and the target is the profile in use. -/
def Preflight (device : DeviceId) (profile : ProfileId) (rate : PollingRate) (endpoint : DeviceEndpoint)
    (h : History Backend) : Prop :=
  ∃ state snapshot, Compared device profile rate endpoint state snapshot h ∧ snapshot.persistentMetadata.current = profile

/-- The profile an operation read. -/
def Op.profileRead : (o : Op) → o.Res → Option ProfileSnapshot
  | .session _ (.readProfile _), r => (r : Except ManagerError ProfileSnapshot).toOption
  | _, _ => none

/-- The profile read last. -/
def lastProfileRead (h : History Backend) : Option ProfileSnapshot := h.findSome? fun ev => Op.profileRead ev.1 ev.2

theorem Compared.lastProfileRead {device : DeviceId} {profile : ProfileId} {rate : PollingRate} {endpoint : DeviceEndpoint}
    {state : StateFile} {snapshot : ProfileSnapshot} {h : History Backend}
    (hc : Compared device profile rate endpoint state snapshot h) : lastProfileRead h = some snapshot := by
  obtain ⟨current, before, -, rfl⟩ := hc.reads
  rfl

/-- A rate may be written to a profile where `may` holds of the history so far. -/
def RateRule (profile : ProfileId) (may : PollingRate → DeviceEndpoint → History Backend → Prop) (h : History Backend)
    (o : Op) : Prop :=
  ∀ endpoint target rate verification, o = .session endpoint (.writePollingRateUnchecked target rate verification) →
    target = profile ∧ may rate endpoint h

section Rules

variable {profile : ProfileId} {may : PollingRate → DeviceEndpoint → History Backend → Prop} {h : History Backend}

theorem RateRule.of_looks {o : Op} (ho : o.looks = true) : RateRule profile may h o := by
  rintro endpoint target rate verification rfl
  cases ho

theorem RateRule.of_commit {t : Txn} : RateRule profile may h (.commit t) := by
  intro endpoint target rate verification heq
  cases heq

/-- A program that only looks keeps any such rule. -/
theorem tries_looks {α : Type} {x : Manager α} (hx : Looks x) {pre : History Backend → Prop} :
    Tries (RateRule profile may) pre x (fun _ _ => True) fun _ _ => True :=
  (hx.tries (fun _ _ ho _ => .of_looks ho) fun _ _ _ _ _ => trivial).before fun _ _ => trivial

variable {device : DeviceId}

/-- **The image that is complete** is the desired one of the state loaded last. -/
theorem tries_requireCompleteDesiredImage {pre : History Backend → Prop} :
    Tries (RateRule profile may) pre (requireCompleteDesiredImage device profile)
      (fun image h => ∃ state before, h = Did.load (.ok state) :: before ∧
        state.desired .dpi device profile = some image.dpi ∧
        state.desired .preferences device profile = some image.preferences ∧
        state.desired .buttons device profile = some image.buttons) fun _ _ => True := by
  refine .bind (Q := fun state h => ∃ before, h = Did.load (.ok state) :: before)
    (.perform (fun _ _ => .of_looks rfl) ?_) fun state => ?_
  · intro h r _
    cases (r : Except StateError StateFile) with
    | ok state => exact ⟨h, rfl⟩
    | error e => trivial
  let Loaded (h : History Backend) : Prop := ∃ before, h = Did.load (.ok state) :: before
  refine .bind (Q := fun _ => Loaded) (.ofOption (fun _ _ _ => id) fun _ _ _ => trivial) fun deviceState => ?_
  refine .bind (Q := fun dpi h => state.desired .dpi device profile = some dpi ∧ Loaded h)
    (.ofOption (fun _ hd _ hl => ⟨hd, hl⟩) fun _ _ _ => trivial) fun dpi => .of_pure fun hdpi => ?_
  refine .bind (Q := fun preferences h => state.desired .preferences device profile = some preferences ∧ Loaded h)
    (.ofOption (fun _ hd _ hl => ⟨hd, hl⟩) fun _ _ _ => trivial) fun preferences => .of_pure fun hpreferences => ?_
  refine .bind (Q := fun buttons h => state.desired .buttons device profile = some buttons ∧ Loaded h)
    (.ofOption (fun _ hd _ hl => ⟨hd, hl⟩) fun _ _ _ => trivial) fun buttons => .of_pure fun hbuttons => ?_
  refine .bind (Q := fun _ => Loaded) (.ofOption (fun _ _ _ => id) fun _ _ _ => trivial) fun metadata => ?_
  refine .bind (Q := fun _ => Loaded) (.ensure (fun _ _ => id) fun _ _ _ => trivial) fun _ => .pure ?_
  rintro h ⟨before, hh⟩
  exact ⟨state, before, hh, hdpi, hpreferences, hbuttons⟩

theorem tries_commitPollingRate {desired : PollingRate} {write : SessionWrite PollingRate} {now : Timestamp}
    {pre : History Backend → Prop} :
    Tries (RateRule profile may) pre (Manager.commit (.persistPollingRate device profile desired write now))
      (fun _ _ => True) fun _ _ => True := by
  refine .perform (fun _ _ => .of_commit) fun h r _ => ?_
  cases (r : Except StateError (Except ManagerError (WriteOutcome PollingRate))) with
  | error e => trivial
  | ok answer => cases answer <;> trivial

theorem tries_recordPollingRate {desired : PollingRate} {write : SessionWrite PollingRate}
    {pre : History Backend → Prop} :
    Tries (RateRule profile may) pre (recordPollingRate device profile desired write) (fun _ _ => True) fun _ _ => True := by
  refine .bind (Q := fun _ _ => True) (tries_looks looks_now) fun now =>
    .bind (Q := fun _ _ => True) tries_commitPollingRate fun outcome => ?_
  exact .ofExcept (fun _ _ _ _ => trivial) fun _ _ _ _ => trivial

/-- The write that is made at last, once the sections are compared. -/
theorem tries_writeRate {rate : PollingRate} {session : Session} (state : StateFile) (snapshot : ProfileSnapshot)
    {verification : VerificationMethod}
    (hmay : ∀ h, Compared device profile rate session.endpoint state snapshot h → may rate session.endpoint h) :
    Tries (RateRule profile may) (Compared device profile rate session.endpoint state snapshot)
      (session.writePollingRateUnchecked profile rate verification) (fun _ _ => True) fun _ _ => True := by
  refine .perform ?_ fun h r _ => by cases (r : Except ManagerError (SessionWrite PollingRate)) <;> trivial
  intro h hh endpoint target rate' verification' heq
  cases heq
  exact ⟨rfl, hmay h hh⟩

end Rules

/-- The whole profile was read after the state, over the session. -/
def ProfileRead (profile : ProfileId) (session : Session) (state : StateFile) (snapshot : ProfileSnapshot)
    (h : History Backend) : Prop :=
  ∃ before, h = Did.session session.endpoint (.readProfile profile) (.ok snapshot) :: Did.load (.ok state) :: before

section Steps

variable {device : DeviceId} {profile : ProfileId} {may : PollingRate → DeviceEndpoint → History Backend → Prop}
  {session : Session} {state : StateFile}

theorem tries_readProfile (state : StateFile) :
    Tries (RateRule profile may) (fun h => ∃ before, h = Did.load (.ok state) :: before) (session.readProfile profile)
      (fun snapshot => ProfileRead profile session state snapshot) fun _ _ => True := by
  refine .perform (fun _ _ => .of_looks rfl) fun h r hh => ?_
  obtain ⟨before, rfl⟩ := hh
  cases (r : Except ManagerError ProfileSnapshot) with
  | ok snapshot => exact ⟨before, rfl⟩
  | error e => trivial

/-- The live rate is read last. -/
theorem tries_readRate (rate : PollingRate) {snapshot : ProfileSnapshot} (hd : state.Desires device profile snapshot) :
    Tries (RateRule profile may) (ProfileRead profile session state snapshot) (session.readLivePollingRate profile)
      (fun current h => current ≠ rate → Compared device profile rate session.endpoint state snapshot h)
      fun _ _ => True := by
  refine .perform (fun _ _ => .of_looks rfl) fun h r hh => ?_
  obtain ⟨before, rfl⟩ := hh
  cases (r : Except ManagerError PollingRate) with
  | ok current => exact fun hne => ⟨⟨current, before, hne, rfl⟩, hd⟩
  | error e => trivial

end Steps

/-! ## Both calls -/

/-- The profile read last names the target as the one in use. -/
def NamesTarget (profile : ProfileId) (h : History Backend) : Prop :=
  ∀ snapshot, lastProfileRead h = some snapshot → snapshot.persistentMetadata.current = profile

theorem Compared.preflight_iff {device : DeviceId} {profile : ProfileId} {rate : PollingRate} {endpoint : DeviceEndpoint}
    {state : StateFile} {snapshot : ProfileSnapshot} {h : History Backend}
    (hc : Compared device profile rate endpoint state snapshot h) :
    Preflight device profile rate endpoint h ↔ NamesTarget profile h := by
  constructor
  · rintro ⟨state', snapshot', hc', htarget⟩ found hfound
    rw [hc'.lastProfileRead] at hfound
    cases hfound
    exact htarget
  · intro hnames
    exact ⟨state, snapshot, hc, hnames snapshot hc.lastProfileRead⟩

section Calls

variable {device : DeviceId} {profile : ProfileId} {may : PollingRate → DeviceEndpoint → History Backend → Prop}

/-- One comparison of the preflight. -/
theorem tries_compare {c : Prop} [Decidable c] {e : ManagerError} {P : History Backend → Prop} :
    Tries (RateRule profile may) P (Fallible.ensure c e) (fun _ h => c ∧ P h) fun _ _ => True :=
  .ensure (fun hc _ hP => ⟨hc, hP⟩) fun _ _ _ => trivial

theorem desires_of_compared {state : StateFile} {snapshot : ProfileSnapshot} {image : CompleteDesiredImage}
    (himage : state.desired .dpi device profile = some image.dpi ∧
      state.desired .preferences device profile = some image.preferences ∧
      state.desired .buttons device profile = some image.buttons)
    (hdpi : snapshot.dpi = image.dpi) (hpreferences : snapshot.preferences = image.preferences)
    (hbuttons : snapshot.buttons = image.buttons) : state.Desires device profile snapshot := by
  obtain ⟨hd, hp, hb⟩ := himage
  refine ⟨?_, ?_, ?_⟩
  · rw [hd, hdpi]
  · rw [hp, hpreferences]
  · rw [hb, hbuttons]

/-- **The rate of a composite update** is written after the whole preflight only. -/
theorem tries_applyPollingRate (rate : PollingRate) (policy : UpdatePolicy) (session : Session)
    {pre : History Backend → Prop} :
    Tries (RateRule profile fun written endpoint h => written = rate ∧ Preflight device profile rate endpoint h) pre
      (applyPollingRate device profile rate policy session) (fun _ _ => True) fun _ _ => True := by
  refine .bind (Q := fun _ _ => True) (.ensure (fun _ _ _ => trivial) fun _ _ _ => trivial) fun _ =>
    .bind tries_requireCompleteDesiredImage fun image => ?_
  intro h hh
  obtain ⟨state, before, hload, himage⟩ := hh
  refine Tries.bind (tries_readProfile state) (fun snapshot => ?_) h ⟨before, hload⟩
  refine .bind tries_compare fun _ => .of_pure fun htarget => .bind tries_compare fun _ => .of_pure fun hdpi =>
    .bind tries_compare fun _ => .of_pure fun hpreferences => .bind tries_compare fun _ => .of_pure fun hbuttons => ?_
  refine .bind (tries_readRate rate (desires_of_compared himage hdpi hpreferences hbuttons)) fun current =>
    .bind (Q := fun _ _ => True) ?_ fun write => ?_
  · split
    · exact .pure fun _ _ => trivial
    · next hne =>
      refine (tries_writeRate state snapshot ?_).before fun _ hh => hh hne
      exact fun h hc => ⟨rfl, state, snapshot, hc, htarget⟩
  · refine .bind (Q := fun _ _ => True) (tries_looks looks_now) fun now =>
      .bind (Q := fun _ _ => True) tries_commitPollingRate fun outcome =>
      .bind (Q := fun _ _ => True) (.ofExcept (fun _ _ _ _ => trivial) fun _ _ _ _ => trivial) fun _ => ?_
    exact .pure fun _ _ => trivial

/-- No rate is written. -/
def Op.leavesRate : Op → Prop
  | .session _ (.writePollingRateUnchecked ..) => False
  | _ => True

theorem leavesRate_of_looks {α : Type} {x : Manager α} (hx : Looks x) : Fallible.Only Op.leavesRate x := by
  refine hx.mono fun o ho => ?_
  cases o with
  | session endpoint call => cases call <;> trivial
  | _ => trivial

theorem leavesRate_optionally {D A : Type} {part : Option D} {apply : D → Manager A}
    (h : ∀ d, Fallible.Only Op.leavesRate (apply d)) : Fallible.Only Op.leavesRate (optionally part apply) := by
  cases part with
  | none => exact .pure
  | some d => exact .bind (h d) fun _ => .pure

theorem leavesRate_call {session : Session} {call : SessionCall} (h : (Op.session session.endpoint call).leavesRate) :
    Fallible.Only Op.leavesRate (session.call call) := .perform h

variable [Crc32fast]

/-- The other parts of a composite update write no rate. -/
theorem leavesRate_applyParts (update : ProfileUpdate) (policy : UpdatePolicy) (provided : Option ProfileUpdateBaseline)
    (physicalId : Option PhysicalId) (session : Session) :
    Fallible.Only Op.leavesRate (applyParts device profile update policy provided physicalId session) := by
  refine .bind (leavesRate_optionally fun delta => ?_) fun dpi => .bind (leavesRate_optionally fun delta => ?_)
    fun preferences => .bind (leavesRate_optionally fun deltas => ?_) fun buttons => .bind (.perform trivial) fun now =>
    .bind (.perform trivial) fun outcome => ?_
  · refine .bind (leavesRate_of_looks (looks_baseline (looks_call rfl))) fun baseline => .bind .ofExcept fun desired => ?_
    exact .bind (leavesRate_call trivial) fun _ => .pure
  · refine .bind (leavesRate_of_looks (looks_baseline (looks_call rfl))) fun baseline => ?_
    exact .bind (leavesRate_call trivial) fun _ => .pure
  · refine .bind (leavesRate_of_looks (looks_baseline (looks_call rfl))) fun baseline => ?_
    exact .bind (leavesRate_call trivial) fun _ => .pure
  · exact .bind (leavesRate_optionally fun _ => .ofExcept) fun _ => .bind (leavesRate_optionally fun _ => .ofExcept)
      fun _ => .bind (leavesRate_optionally fun _ => .ofExcept) fun _ => .pure

/-- **The rate of a composite update** is written under its preflight. -/
theorem tries_applyProfileUpdate (update : ProfileUpdate) (policy : UpdatePolicy)
    (provided : Option ProfileUpdateBaseline) :
    Tries (RateRule profile fun rate endpoint h => Preflight device profile rate endpoint h) (· = [])
      (applyProfileUpdateInner device profile update policy provided) (fun _ _ => True) fun _ _ => True := by
  have hfine : ∀ {c : Prop} [Decidable c] {e : ManagerError},
      Tries (RateRule profile fun rate endpoint h => Preflight device profile rate endpoint h) (fun _ => True)
        (Fallible.ensure c e) (fun _ _ => True) fun _ _ => True :=
    .ensure (fun _ _ _ => trivial) fun _ _ _ => trivial
  refine Tries.before (.bind hfine fun _ => .bind hfine fun _ => .bind hfine fun _ => .bind hfine fun _ =>
    .bind (Q := fun _ _ => True) (tries_looks looks_openLocked) fun opened => ?_) fun _ _ => trivial
  obtain ⟨identity, session⟩ := opened
  dsimp only
  split
  · next rate _ =>
    refine (tries_applyPollingRate rate policy session).allow fun h o ho endpoint target written verification heq => ?_
    obtain ⟨htarget, rfl, hpreflight⟩ := ho endpoint target written verification heq
    exact ⟨htarget, hpreflight⟩
  · refine (leavesRate_applyParts ..).tries (fun h o ho _ => ?_) fun _ _ _ _ _ => trivial
    rintro endpoint target rate verification rfl
    exact ho.elim

/-- **The rate of a single update**: everything is compared but whose profile is live. -/
theorem tries_updatePollingRate (desired : PollingRate) (policy : UpdatePolicy) :
    Tries (RateRule profile fun rate endpoint h => rate = desired ∧
        ∃ state snapshot, Compared device profile desired endpoint state snapshot h) (· = [])
      (updatePollingRate device profile desired policy) (fun _ _ => True) fun _ _ => True := by
  refine .bind (Q := fun _ _ => True) (tries_looks looks_openLocked) fun opened =>
    .bind (Q := fun _ _ => True) (.ensure (fun _ _ _ => trivial) fun _ _ _ => trivial) fun _ =>
    .bind tries_requireCompleteDesiredImage fun image => ?_
  intro h hh
  obtain ⟨state, before, hload, himage⟩ := hh
  refine Tries.bind (tries_readProfile state) (fun snapshot => ?_) h ⟨before, hload⟩
  refine .bind tries_compare fun _ => .of_pure fun hdpi => .bind tries_compare fun _ => .of_pure fun hpreferences =>
    .bind tries_compare fun _ => .of_pure fun hbuttons => ?_
  refine .bind (tries_readRate desired (desires_of_compared himage hdpi hpreferences hbuttons)) fun current => ?_
  split
  · exact tries_recordPollingRate
  · next hne =>
    refine .bind (Q := fun _ _ => True) ?_ fun write => tries_recordPollingRate
    refine (tries_writeRate state snapshot ?_).before fun _ hh => hh hne
    exact fun h hc => ⟨rfl, state, snapshot, hc⟩

/-- **The preflight of both calls.**  A composite update sends a rate only after the whole preflight; a single update sends
one after it exactly when the profile it read last is the one in use. -/
theorem polling_preflight_iff (device : DeviceId) (profile : ProfileId) (policy : UpdatePolicy) :
    (∀ update provided, Keeps (RateRule profile fun rate endpoint h => Preflight device profile rate endpoint h)
      (fun _ _ => True) (applyProfileUpdateInner device profile update policy provided).run []) ∧
    ∀ desired, Keeps (RateRule profile fun rate endpoint h => rate = desired ∧
        (Preflight device profile rate endpoint h ↔ NamesTarget profile h))
      (fun _ _ => True) (updatePollingRate device profile desired policy).run [] := by
  constructor
  · intro update provided
    exact Keeps.mono (fun _ _ => id) (fun _ _ _ => trivial) _ [] (tries_applyProfileUpdate update policy provided [] rfl)
  · intro desired
    refine Keeps.mono (fun h o ho endpoint target rate verification heq => ?_) (fun _ _ _ => trivial) _ []
      (tries_updatePollingRate desired policy [] rfl)
    obtain ⟨htarget, rfl, state, snapshot, hc⟩ := ho endpoint target rate verification heq
    exact ⟨htarget, rfl, hc.preflight_iff⟩

end Calls

namespace Rig

/-- A mouse on its first profile, of which the fifth is on record as the one in use. -/
def switchedAway : StateFile :=
  holding (wired "a") (acknowledged (switchedTo fifth)) [(fifth, { ProfileState.empty with
    dpi := acknowledged (image (some (token 1)) fifth)
    preferences := acknowledged (preferences fifth)
    buttons := acknowledged (buttons fifth) })]

/-- A rate was written after a profile was read that is not in use. -/
def ratesAnother (h : History Backend) : Bool := h.tails.any fun suffix => match suffix with
  | ⟨.session _ (.writePollingRateUnchecked target _ _), _⟩ :: before =>
    (lastProfileRead before).any fun snapshot => snapshot.persistentMetadata.current ≠ target
  | _ => false

/-- **A single update writes the rate of a profile that is not in use.** -/
theorem preflight_not_switchedAway : switchedAway.validate = .ok () ∧
    ¬ ∀ (device : DeviceId) (profile : ProfileId) (policy : UpdatePolicy) (desired : PollingRate),
      Keeps (RateRule profile fun rate endpoint h => Preflight device profile rate endpoint h) (fun _ _ => True)
        (updatePollingRate device profile desired policy).run [] := by
  refine ⟨by decide, fun hall => ?_⟩
  have hrun : ((bench [(wired "a", unit fun _ => some (token 1))]).goes
      (updatePollingRate mouse1 fifth .hz500 {}) switchedAway).any (ratesAnother ·.2.2) = true := by decide +kernel
  obtain ⟨⟨r, state, h⟩, hgoes, hanother⟩ := (Option.any_eq_true ..).1 hrun
  obtain ⟨suffix, hsuffix, hsent⟩ := List.any_eq_true.1 hanother
  have hkept := (Keeps.ends (Bench.goes_ends hgoes) (hall mouse1 fifth {} .hz500) trivial).1
  split at hsent
  · next endpoint target rate verification answer before =>
    obtain ⟨rfl, state', snapshot, hc, hcurrent⟩ :=
      hkept.of_suffix ((List.mem_tails _ _).1 hsuffix) endpoint target rate verification rfl
    rw [hc.lastProfileRead] at hsent
    simp [hcurrent] at hsent
  · cases hsent

end Rig
end AttackSharkX3
