import AttackSharkX3.Actions
/-!
# Stamp — the stamping action keeps the rule

The loop over the pending profiles is followed by induction on the profiles still to stamp: the ones before are marked,
and the one at hand is marked once its write is confirmed, the last by the transaction that moves the ceremony on.
-/
namespace AttackSharkX3

open Effects (Prog Fallible Tries Either)
open Effects.Prog (Event History Keeps)

variable [Crc32fast]

/-- **Metadata written exactly**, the named profile being current then. -/
theorem tries_writeExactMetadata {P : History Backend → Prop} (hP : CalmStable P) (session : Session)
    (metadata : ProfileMetadata) :
    Tries ceremonyRule P (writeExactMetadata session metadata)
      (fun _ h => P h ∧ targetProfile h = some metadata.current) fun _ => Settled := by
  refine Tries.bind (Q := fun write h => (P h ∧ targetProfile h = some metadata.current) ∧
    (write ≠ .readbackVerified metadata → Settled h)) (.perform (fun _ _ => trivial) fun h r hh => ?_) fun write => ?_
  · rcases (r : Except ManagerError (SessionWrite ProfileMetadata)) with e | write
    · exact not_unmarked_of_fails nofun
    · refine ⟨⟨hP _ _ _ ⟨rfl, rfl⟩ hh, rfl⟩, fun hne => not_unmarked_of_fails fun heq => hne ?_⟩
      exact Except.ok.inj heq
  · split
    · next actual =>
      split
      · exact .pure fun _ hh => hh.1
      · next hne => exact .throw fun _ hh => hh.2 fun heq => hne (SessionWrite.readbackVerified.inj heq)
    · exact .throw fun _ hh => hh.2 nofun

namespace StampPlan

theorem At.calm {plan : StampPlan} {marks : List ProfileId} : CalmStable (plan.At marks) := fun _ _ _ ho ha =>
  ha.other ho.1

/-- The read that confirms a write, or the write's own readback. -/
theorem tries_stampedIdentity (plan : StampPlan) (marks : List ProfileId) (session : Session) (profile : ProfileId)
    (image : DpiState) (hsession : session.endpoint = plan.subject.endpoint) (hp : plan.subject.capturedDpi profile = some dpi)
    (himage : image = withPhysicalWatermark dpi (some plan.token)) (write : SessionWrite DpiState) :
    Tries ceremonyRule (fun h => ∃ h₀, h = Did.session session.endpoint (.writeDpi image .readback) (.ok write) :: h₀ ∧
        plan.At marks h₀ ∧ targetProfile h₀ = some profile)
      (stampedIdentity session profile write)
      (fun decode h => plan.At marks h ∧ (decode = .valid plan.token → plan.Stamped h profile) ∧
        (decode ≠ .valid plan.token → Settled h)) fun _ => Settled := by
  have hvalid : image.physicalId = .valid plan.token := by
    rw [himage, DpiState.physicalId, withPhysicalWatermark_some, decode_toWatermarkBytes]
  cases write with
  | readbackVerified actual =>
    refine .pure fun h ⟨h₀, hh, ha, htarget⟩ => ?_
    subst hh
    refine ⟨ha.other rfl, fun hd => ⟨dpi, hp, ?_⟩, fun hd => not_unmarked_of_fails ?_⟩
    · rw [← hsession, ← himage]
      exact ⟨_, h₀, List.suffix_refl _, htarget, hd⟩
    · rintro ⟨write, heq, hshows⟩
      cases heq
      exact hd (hshows.trans hvalid)
  | acknowledged =>
    refine Tries.bind (Q := fun actual h => ∃ h₀, h = Did.session session.endpoint (.readDpi profile) (.ok actual) ::
      Did.session session.endpoint (.writeDpi image .readback) (.ok .acknowledged) :: h₀ ∧ plan.At marks h₀ ∧
        targetProfile h₀ = some profile)
      (.perform (fun _ _ => trivial) fun h r ⟨h₀, hh, ha⟩ => ?_) fun actual => ?_
    · rcases (r : Except ManagerError DpiState) with e | actual
      · exact not_unmarked_of_fails nofun
      · exact ⟨h₀, by rw [hh], ha⟩
    · refine .pure fun h ⟨h₀, hh, ha, htarget⟩ => ?_
      subst hh
      refine ⟨(ha.other rfl).other rfl, fun hd => ⟨dpi, hp, ?_⟩, fun hd => not_unmarked_of_fails ?_⟩
      · rw [← hsession, ← himage]
        exact ⟨_, h₀, List.suffix_cons _ _, htarget, actual, _, List.suffix_refl _, hd, List.suffix_refl _⟩
      · rintro ⟨actual', heq, hshows⟩
        cases heq
        exact hd ((hshows image lastImage_write).trans hvalid)

/-- **One profile stamped.** -/
theorem tries_stampOneProfile (plan : StampPlan) (marks : List ProfileId) (session : Session) (profile : ProfileId)
    (hsession : session.endpoint = plan.subject.endpoint) (hpend : profile ∈ plan.pending) (hmark : profile ∉ marks)
    (hp : plan.subject.capturedDpi profile = some dpi) :
    Tries ceremonyRule (fun h => plan.At marks h ∧ Settled h) (stampOneProfile session profile plan.token dpi)
      (fun _ h => plan.At marks h ∧ plan.Stamped h profile) fun _ => Settled := by
  have calm : CalmStable fun h => plan.At marks h ∧ Settled h := fun h o r ho hh =>
    ⟨At.calm h o r ho hh.1, Settled.calm h o r ho hh.2⟩
  refine Tries.bind (tries_calm (calm_of_quiet (session.quiet_call rfl)) calm fun _ hh => hh.2) fun actual => ?_
  refine Tries.bind (Q := fun metadata h => metadata.current = profile ∧ plan.At marks h ∧ Settled h) ?_
    fun metadata => Tries.of_pure fun hcurrent => ?_
  · refine .ofExcept (fun metadata hm h hh => ⟨?_, hh⟩) fun _ _ _ hh => hh.2
    unfold ProfileMetadata.new at hm
    split at hm
    · cases hm
      rfl
    · cases hm
  refine Tries.bind (tries_writeExactMetadata calm session metadata) fun _ => ?_
  refine Tries.bind (Q := fun write h => ∃ h₀, h = Did.session session.endpoint (.writeDpi
    (withPhysicalWatermark dpi (some plan.token)) .readback) (.ok write) :: h₀ ∧ plan.At marks h₀ ∧
      targetProfile h₀ = some profile)
    (.perform (fun h hh => ?_) fun h r hh => ?_) fun write => ?_
  · exact ⟨plan, marks, profile, hh.1.1, hsession, rfl, hcurrent ▸ hh.2, hpend, hmark, dpi, hp, rfl⟩
  · rcases (r : Except ManagerError (SessionWrite DpiState)) with e | write
    · exact not_unmarked_of_fails nofun
    · exact ⟨h, rfl, hh.1.1, hcurrent ▸ hh.2⟩
  refine Tries.bind (plan.tries_stampedIdentity marks session profile _ hsession hp rfl write) fun decode => ?_
  exact .ensure (fun hd h hh => ⟨hh.1, hh.2.1 hd⟩) fun hd h hh => hh.2.2 hd

theorem tries_stampImage (plan : StampPlan) (marks : List ProfileId) (profile : ProfileId) :
    Tries ceremonyRule (fun h => plan.At marks h ∧ Settled h) (stampImage plan.subject profile)
      (fun dpi h => plan.subject.capturedDpi profile = some dpi ∧ plan.At marks h ∧ Settled h) fun _ => Settled :=
  .ofOption (fun _ hp _ hh => ⟨hp, hh⟩) fun _ _ hh => hh.2

omit [Crc32fast] in
theorem nodup_pending (plan : StampPlan) : plan.pending.Nodup := Std.ExtTreeMap.nodup_keys.filter _

/-- The plan is carried out once its last profile is stamped. -/
theorem Done.of_last {plan : StampPlan} {before : List ProfileId} {profile : ProfileId}
    (hpending : plan.pending = before ++ [profile]) {h : History Backend} (ha : plan.At before.reverse h)
    (hs : plan.Stamped h profile) : plan.Done h where
  at_ := ⟨before.reverse, ha, fun p hp => by
    rw [hpending, List.mem_append, List.mem_singleton] at hp
    rw [hpending, List.getLast?_concat, List.mem_reverse]
    exact hp.imp id fun h => by rw [h]⟩
  last p hp := by
    rw [hpending, List.getLast?_concat, Option.mem_some_iff] at hp
    exact hp ▸ hs
  settled hnil := by simp [hpending] at hnil

/-- **The loop**, by induction on the profiles still to stamp; the ones before are marked. -/
theorem tries_stampProfiles (plan : StampPlan) (session : Session)
    (hsession : session.endpoint = plan.subject.endpoint) :
    ∀ (rest before : List ProfileId), plan.pending = before ++ rest →
      Tries ceremonyRule (fun h => plan.At before.reverse h ∧ Settled h)
        (stampProfiles session plan.subject plan.token rest) (fun _ => plan.Done) fun _ => Settled
  | [], before, hpending => by
    refine .pure fun h hh => ⟨⟨before.reverse, hh.1, fun p hp => .inl ?_⟩, fun p hp => ?_, fun _ => hh.2⟩
    · rw [hpending, List.append_nil] at hp
      exact List.mem_reverse.2 hp
    · refine hh.1.stamped p (List.mem_reverse.2 ?_)
      rw [hpending, List.append_nil] at hp
      exact List.mem_of_getLast? hp
  | [profile], before, hpending => by
    have hmem : profile ∈ plan.pending := by simp [hpending]
    have hfresh : profile ∉ before.reverse := by
      have hnd := plan.nodup_pending
      rw [hpending] at hnd
      have := (List.nodup_append.1 hnd).2.2
      exact fun hm => this profile (List.mem_reverse.1 hm) profile List.mem_cons_self rfl
    refine Tries.bind (plan.tries_stampImage _ _) fun dpi => Tries.of_pure fun hp => ?_
    refine (plan.tries_stampOneProfile before.reverse session profile hsession hmem hfresh hp).then_ fun _ h hh => ?_
    exact .of_last hpending hh.1 hh.2
  | profile :: next :: rest, before, hpending => by
    have hmem : profile ∈ plan.pending := by simp [hpending]
    have hfresh : profile ∉ before.reverse := by
      have hnd := plan.nodup_pending
      rw [hpending] at hnd
      have := (List.nodup_append.1 hnd).2.2
      exact fun hm => this profile (List.mem_reverse.1 hm) profile List.mem_cons_self rfl
    refine Tries.bind (plan.tries_stampImage _ _) fun dpi => Tries.of_pure fun hp => ?_
    refine Tries.bind (plan.tries_stampOneProfile before.reverse session profile hsession hmem hfresh hp) fun _ => ?_
    refine Tries.bind (Q := fun _ h => plan.At (before ++ [profile]).reverse h ∧ Settled h) ?_ fun _ => ?_
    · have may : ∀ h, plan.At before.reverse h ∧ plan.Stamped h profile → MayCommit h (.markStamped profile) :=
        fun h hh => ⟨plan, _, hh.1, hmem, hh.2⟩
      refine (tries_commit may).then_ fun _ h ⟨h₀, hh, ha, hs⟩ => ?_
      subst hh
      rw [List.reverse_concat]
      exact ⟨ha.mark hmem hs, not_unmarked_of_marks rfl rfl⟩
    · exact plan.tries_stampProfiles session hsession (next :: rest) (before ++ [profile]) (by simp [hpending])

theorem Done.calm {plan : StampPlan} : CalmStable plan.Done := fun _ _ _ ho hd => by
  obtain ⟨marks, ha, hall⟩ := hd.at_
  exact ⟨⟨marks, ha.other ho.1, hall⟩, fun p hp => (hd.last p hp).cons _, fun hnil => Settled.calm _ _ _ ho (hd.settled hnil)⟩

theorem tries_restoreMetadata (plan : StampPlan) (session : Session) :
    Tries ceremonyRule plan.Done (restoreMetadata session plan.captured) (fun _ => plan.Done) fun _ => Settled := by
  unfold restoreMetadata
  split
  · exact .pure fun _ => id
  · next original _ =>
    refine Tries.bind (Q := fun result h => (∀ m, result = .ok m → plan.Done h) ∧ (∀ e, result = .error e → Settled h))
      (.attempt ((tries_writeExactMetadata Done.calm session original.value).mono (fun _ => id)
        (fun _ _ hh => ⟨fun _ _ => hh.1, fun _ heq => ?_⟩) fun _ _ hh => ⟨fun _ heq => ?_, fun _ _ => hh⟩)) fun result => ?_
    · cases heq
    · cases heq
    split
    · exact .pure fun _ hh => hh.1 _ rfl
    · exact .throw fun _ hh => hh.2 _ rfl

/-- **The commit that ends a stamping call.** -/
theorem tries_finish (plan : StampPlan) :
    Tries ceremonyRule plan.Done (Manager.commit (.finishStamping plan.found.phase
      (plan.found.phase = .initialEnrollment && plan.journal.subjects.length = 1) plan.pending.getLast?))
      (fun _ => Settled) fun _ => Settled := by
  have may : ∀ h, plan.Done h → MayCommit h (.finishStamping plan.found.phase
      (plan.found.phase = .initialEnrollment && plan.journal.subjects.length = 1) plan.pending.getLast?) :=
    fun h hd => ⟨plan, hd, rfl, rfl, rfl⟩
  refine (tries_commit may).then_ fun _ h ⟨h₀, hh, hd⟩ => ?_
  subst hh
  cases hlast : plan.pending.getLast? with
  | some p => exact not_unmarked_of_marks rfl rfl
  | none => exact not_unmarked_cons (hd.settled (List.getLast?_eq_none_iff.1 hlast)) rfl

end StampPlan

/-! ## The action -/

/-- What is known once the token is there: what was committed since the first load. -/
structure Reserved (start : StateFile) (h : History Backend) : Prop where
  begun : ∃ txns, Since h start txns ∧ ∀ t ∈ txns, (∃ token, t = .reserveToken token) ∨ ∃ p, t = .markStamped p
  settled : Settled h
  unwritten : wroteDpi h = false

theorem tries_reserveToken {start : StateFile} {journal : IdentitySetupJournal} (hj : start.identitySetup = some journal) :
    Tries ceremonyRule (Loaded start) (reserveToken start journal) (fun _ => Reserved start) fun _ => Settled := by
  have settled : ∀ h, Loaded start h → Settled h := fun _ => (·.settled)
  unfold reserveToken
  split
  · next hnone =>
    refine Tries.bind (tries_calm (calm_of_quiet (quiet_mintFrom ..)) Loaded.calm settled) fun token => ?_
    refine (tries_commit fun h hl => ?_).then_ fun _ h ⟨h₀, hh, hl⟩ => ?_
    · obtain ⟨subject, hlast, htoken⟩ := (Option.any_eq_true _ _).1 hnone
      exact ⟨start, journal, subject, hl.last, hl.since, hj, hlast, by simpa using htoken⟩
    · subst hh
      exact ⟨⟨_, .committed hl.since, fun t ht => .inl ⟨token, List.mem_singleton.1 ht⟩⟩,
        not_unmarked_cons hl.settled rfl, wroteDpi_cons hl.unwritten rfl⟩
  · exact .pure fun h hl => ⟨⟨[], hl.since, fun _ ht => absurd ht List.not_mem_nil⟩, hl.settled, hl.unwritten⟩

/-- **Stamping keeps the rule.** -/
theorem ceremonyStamp_keeps : Tries ceremonyRule Fresh ceremonyStamp (fun _ => Settled) fun _ => Settled := by
  refine Tries.bind tries_load fun start => ?_
  refine Tries.bind (tries_requireJournal fun _ => (·.settled)) fun found => Tries.of_pure fun inStart => ?_
  refine Tries.bind (Q := fun _ h => found.stage = .stamping ∧ Loaded start h)
    (.ensure (fun hc _ hl => ⟨hc.1, hl⟩) fun _ _ hl => hl.settled) fun _ => Tries.of_pure fun stamping => ?_
  refine Tries.bind (tries_reserveToken inStart) fun _ => ?_
  -- The plan is what this second load answers.
  refine Tries.bind (Q := fun state h => Loaded state h ∧ Reserved start h)
    (.perform (fun _ _ => trivial) fun h r hr => ?_) fun state => ?_
  · rcases (r : Except StateError StateFile) with e | state
    · exact not_unmarked_cons hr.settled rfl
    · have hs := not_unmarked_cons (r := (.ok state : Except StateError StateFile)) hr.settled (o := .load) rfl
      obtain ⟨txns, hb, ht⟩ := hr.begun
      have hw := wroteDpi_cons (r := (.ok state : Except StateError StateFile)) hr.unwritten (o := .load) rfl
      exact ⟨⟨rfl, .loaded h state, hs, hw⟩, ⟨txns, .reloaded hb, ht⟩, hs, hw⟩
  have settled : ∀ h, Loaded state h ∧ Reserved start h → Settled h := fun _ hh => hh.1.settled
  refine Tries.bind (tries_requireJournal settled) fun journal => Tries.of_pure fun inState => ?_
  refine Tries.bind tries_expect fun subject => Tries.of_pure fun last => ?_
  refine Tries.bind tries_expect fun token => Tries.of_pure fun reserved => ?_
  refine Tries.bind tries_expect fun captured => Tries.of_pure fun image => ?_
  let plan : StampPlan :=
    ⟨start, found, inStart, stamping, state, journal, inState, subject, last, token, reserved, captured, image⟩
  have hat : ∀ h, Loaded state h ∧ Reserved start h → plan.At [] h := fun h hh =>
    ⟨hh.1.last, hh.1.since, hh.2.begun, fun _ hp => absurd hp List.not_mem_nil, fun _ hp => absurd hp List.not_mem_nil⟩
  refine Tries.bind (Q := fun session h => session = ⟨subject.endpoint⟩ ∧ plan.At [] h ∧ Settled h)
    (.perform (fun _ _ => trivial) fun h r hh => ?_) fun session => Tries.of_pure fun hsession => ?_
  · rcases (r : Except ManagerError Unit) with e | _
    · exact not_unmarked_cons hh.1.settled rfl
    · exact ⟨rfl, (hat h hh).other rfl, not_unmarked_cons hh.1.settled rfl⟩
  refine Tries.bind (plan.tries_stampProfiles session (by rw [hsession]) plan.pending [] rfl) fun _ => ?_
  refine Tries.bind (plan.tries_restoreMetadata session) fun _ => Tries.bind plan.tries_finish fun _ => ?_
  refine Tries.bind tries_loadSettled fun state => ?_
  split
  · exact .pure fun _ => id
  · exact .pure fun _ => id

theorem ceremonyAdopt_keeps : Tries ceremonyRule Fresh ceremonyAdopt (fun _ => Settled) fun _ => Settled := by
  have fresh : ∀ h, Fresh h → Settled h := fun _ hf => hf.1
  refine Tries.bind (tries_load.then_ fun _ h (hl : Loaded _ h) => (⟨hl.settled, hl.unwritten⟩ : Fresh h)) fun state => ?_
  refine Tries.bind (tries_calm .ofOption Fresh.calm fresh) fun journal => ?_
  exact Tries.bind (tries_calm .ensure Fresh.calm fresh) fun _ => ceremonyStamp_keeps

/-- **Every ceremony action keeps the rule**, and ends settled. -/
theorem identityCeremonyAction_keeps (action : IdentityCeremonyAction) (endpoint : Option DeviceEndpoint)
    (target : Option DeviceId) :
    Tries ceremonyRule Fresh (identityCeremonyAction action endpoint target) (fun _ => Settled) fun _ => Settled := by
  have present {α : Type} {e : ManagerError} {x : Option α} :=
    tries_calm (x := (Fallible.ofOption e x : Manager α)) .ofOption Fresh.calm fun _ hf => hf.1
  cases action with
  | begin kind => exact beginIdentityCeremony_keeps kind target
  | reconnected => exact Tries.bind present fun endpoint => ceremonyReconnected_keeps endpoint target
  | capture => exact Tries.bind present fun endpoint => ceremonyReconnected_keeps endpoint target
  | stamp => exact ceremonyStamp_keeps
  | adopt => exact ceremonyAdopt_keeps
  | associate => exact Tries.bind present fun endpoint => (ceremonyAssociate_keeps endpoint target).before fun _ hf => hf.1
  | acceptMigration => exact ceremonyFinalizeMigration_keeps _
  | skipMigration => exact ceremonyFinalizeMigration_keeps _
  | cancel => exact ceremonyCancel_keeps

/-! ## Every call -/

/-- **The rule of each call.** -/
def Call.rule : Call → History Backend → Op → Prop
  | .ceremony .. => ceremonyRule
  | call => ordinaryRule call.device

/-- What holds where each call ends. -/
def Call.post : Call → Outcome → History Backend → Prop
  | .ceremony .., _, h => Settled h
  | _, _, _ => True

omit [Crc32fast] in
/-- A call whose value is forgotten. -/
theorem keeps_forget {β : Type} {rule : History Backend → Op → Prop} {pre post : History Backend → Prop} {x : Manager β}
    (hx : Tries rule pre x (fun _ => post) fun _ => post) (hpre : pre []) :
    Keeps rule (fun _ => post) (do let _ ← x : Manager Unit).run [] := by
  have hbind : Tries rule pre (do let _ ← x : Manager Unit) (fun _ => post) fun _ => post :=
    Tries.bind hx fun _ => .pure fun _ => id
  refine Keeps.mono (fun _ _ => id) (fun r _ hr => ?_) _ _ (hbind [] hpre)
  cases r <;> exact hr

/-- **Every call keeps its rule**, whatever its operations answer. -/
theorem Call.keeps : ∀ call : Call, Keeps call.rule call.post call.program.run []
  | .ceremony action endpoint target => keeps_forget (identityCeremonyAction_keeps action endpoint target) ⟨id, rfl⟩
  | .discover selection => keeps_forget (discover_keeps selection) rfl
  | .rememberResolution endpoint device =>
    Keeps.mono (fun _ _ => id) (fun _ _ _ => trivial) _ _
      (tries_plain_any (P := fun _ => True) (x := AttackSharkX3.rememberResolution endpoint device)
        (.bind plain_now fun _ => plain_commit rfl) [] trivial)
  | .updateDpi d profile desired policy => keeps_forget (updateDpi_keeps d profile desired policy) rfl
  | .updateDpiDelta d profile delta policy => keeps_forget (updateDpiDelta_keeps d profile delta policy) rfl
  | .applyProfileUpdate d profile update policy =>
    keeps_forget (applyProfileUpdateInner_keeps d profile update policy none) rfl
  | .applyProfileUpdateFromSnapshot d profile update policy baseline =>
    keeps_forget (applyProfileUpdateFromSnapshot_keeps d profile update policy baseline) rfl

end AttackSharkX3
