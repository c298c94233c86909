import AttackSharkX3.Stamping
/-!
# Actions — every ceremony action keeps the rule

One lemma for each part of an action, from the loads and captures up to `identityCeremonyAction_keeps`.  An action never
ends between a DPI write and the commit of its mark unless an operation failed there: `¬ Unmarked` holds wherever it ends.
-/
namespace AttackSharkX3

open Effects (Prog Fallible Tries Either)
open Effects.Prog (Event History Keeps)

/-- Neither on the store nor a DPI write. -/
def Op.calm (o : Op) : Prop := o.onStore = false ∧ o.writesDpi = false

/-- Calm, and answered. -/
def Op.quiet (o : Op) : Prop := o.calm ∧ o.asserts = false

section Quiet

variable {α : Type}

theorem calm_of_quiet {x : Manager α} (hx : Fallible.Only Op.quiet x) : Fallible.Only Op.calm x :=
  hx.mono fun _ ho => ho.1

theorem quiet_open {endpoint} : Fallible.Only Op.quiet (Manager.open_ endpoint) := .perform ⟨⟨rfl, rfl⟩, rfl⟩
theorem quiet_list {selection} : Fallible.Only Op.quiet (Manager.list selection) := .perform ⟨⟨rfl, rfl⟩, rfl⟩
theorem quiet_now : Fallible.Only Op.quiet Manager.now := .perform ⟨⟨rfl, rfl⟩, rfl⟩
theorem quiet_random : Fallible.Only Op.quiet Manager.random := .perform ⟨⟨rfl, rfl⟩, rfl⟩

theorem calm_expect {site} {x : Option α} : Fallible.Only Op.calm (Manager.expect site x) := by
  cases x with
  | none => exact .perform ⟨rfl, rfl⟩
  | some a => exact .pure

theorem Session.quiet_call (session : Session) {c : SessionCall}
    (h : (Op.session session.endpoint c).writesDpi = false) : Fallible.Only Op.quiet (session.call c) :=
  .perform ⟨⟨rfl, h⟩, rfl⟩

theorem quiet_writeExactMetadata (session : Session) (metadata : ProfileMetadata) :
    Fallible.Only Op.quiet (writeExactMetadata session metadata) := by
  refine .bind (session.quiet_call rfl) fun write => ?_
  split
  · exact .ite .pure .throw
  · exact .throw

theorem quiet_newMetadata {current maximum} : Fallible.Only Op.quiet (newMetadata current maximum) := .ofExcept

theorem quiet_activateFor {session current target maximum} :
    Fallible.Only Op.quiet (activateFor session current target maximum) :=
  .ite .pure (.bind quiet_newMetadata fun _ => .bind (quiet_writeExactMetadata ..) fun _ => .pure)

theorem quiet_captureImages (session : Session) (maximum : ProfileId) :
    ∀ order current profiles, Fallible.Only Op.quiet (captureImages session maximum order current profiles)
  | [], _, _ => .pure
  | _ :: order, _, _ => .bind quiet_activateFor fun _ => .bind (session.quiet_call rfl) fun _ =>
      .bind .ensure fun _ => .bind (session.quiet_call rfl) fun _ => quiet_captureImages session maximum order _ _

theorem quiet_captureAllProfiles (session : Session) : Fallible.Only Op.quiet (captureAllProfiles session) := by
  refine .bind .ensure fun _ => .bind (session.quiet_call rfl) fun metadata => .bind quiet_newMetadata fun expanded => ?_
  refine .bind (.attempt ?_) fun _ => .bind (.attempt (quiet_writeExactMetadata ..)) fun _ => .ofExcept
  exact .ite (.bind (quiet_writeExactMetadata ..) fun _ => quiet_captureImages ..) (quiet_captureImages ..)

theorem quiet_mintFrom (state : StateFile) (phase : IdentitySetupPhase) (old : Option PhysicalId) :
    ∀ tries, Fallible.Only Op.quiet (mintFrom state phase old tries)
  | 0 => .throw
  | tries + 1 => .bind quiet_random fun _ => .ite .pure (quiet_mintFrom state phase old tries)

theorem quiet_restoreTarget {state phase target} : Fallible.Only Op.quiet (restoreTarget state phase target) :=
  .ite (.bind .ofOption fun _ => .bind .ofOption fun _ => .bind .ofOption fun _ => .pure) .pure

theorem quiet_currentWatermark [Crc32fast] (session : Session) : Fallible.Only Op.quiet (currentWatermark session) :=
  .bind (session.quiet_call rfl) fun _ => .bind (session.quiet_call rfl) fun _ => .pure

theorem quiet_requireTarget {state phase target} : Fallible.Only Op.quiet (requireTarget state phase target) :=
  .ite (.bind .ofOption fun _ => .bind .ofOption fun _ => .ensure) .pure

theorem calm_refuseConnected {state phase target} : Fallible.Only Op.calm (refuseConnected state phase target) := by
  refine .ite (.bind calm_expect fun _ => .bind calm_expect fun _ => ?_) .pure
  exact .bind (calm_of_quiet quiet_list) fun _ => .bind (calm_of_quiet quiet_list) fun _ => .ensure

end Quiet

variable [Crc32fast] {α : Type}

theorem Op.calm.rule {h : History Backend} : ∀ {o : Op}, o.calm → ceremonyRule h o
  | .session _ call, ho => by cases call <;> first | trivial | cases ho.2
  | .load, _ | .acquire .., _ | .cached, _ | .cacheInsert .., _ | .cacheRetain _, _ | .list _, _ | .open_ _, _ | .now, _
  | .random, _ | .abort _, _ => trivial
  | .commit _, ho => by cases ho.1

/-- No DPI write of the call waits for its mark. -/
def Settled (h : History Backend) : Prop := ¬ Unmarked h

/-- What calm operations leave alone. -/
def CalmStable (P : History Backend → Prop) : Prop := ∀ h o r, Op.calm o → P h → P (⟨o, r⟩ :: h)

theorem Settled.calm : CalmStable Settled := fun _ _ _ ho hs => not_unmarked_cons hs ho.2

/-- The call has written nothing yet. -/
def Fresh (h : History Backend) : Prop := Settled h ∧ wroteDpi h = false

theorem Fresh.calm : CalmStable Fresh := fun _ _ _ ho hf => ⟨not_unmarked_cons hf.1 ho.2, wroteDpi_cons hf.2 ho.2⟩

/-- A calm program keeps what calm operations leave alone. -/
theorem tries_calm {x : Manager α} (hx : Fallible.Only Op.calm x) {P : History Backend → Prop} (hP : CalmStable P)
    (settled : ∀ h, P h → Settled h) : Tries ceremonyRule P x (fun _ => P) fun _ => Settled :=
  (hx.tries (fun _ _ ho _ => ho.rule) hP).mono (fun _ => id) (fun _ _ => id) fun _ => settled

/-- **A commit**: its errors are failures of an operation. -/
theorem tries_commit {t : Txn} {P : History Backend → Prop} (may : ∀ h, P h → MayCommit h t) :
    Tries ceremonyRule P (Manager.commit t) (fun out h => ∃ h₀, h = Did.commit t (.ok (.ok out)) :: h₀ ∧ P h₀)
      fun _ => Settled := by
  refine .perform may fun h r hP => ?_
  rcases (r : Except StateError (Except ManagerError t.Out)) with e | e | out
  · exact not_unmarked_of_fails nofun
  · exact not_unmarked_of_fails nofun
  · exact ⟨h, rfl, hP⟩

/-! ## One load -/

/-- The client just loaded `state`, as far as the store goes. -/
structure Loaded (state : StateFile) (h : History Backend) : Prop where
  last : lastLoad h = some state
  since : Since h state []
  settled : Settled h
  unwritten : wroteDpi h = false

theorem Loaded.calm {state : StateFile} : CalmStable (Loaded state) := fun _ _ _ ho hl =>
  ⟨by rw [lastLoad_other ho.1, hl.last], .other hl.since ho.1, Settled.calm _ _ _ ho hl.settled,
    wroteDpi_cons hl.unwritten ho.2⟩

theorem tries_load : Tries ceremonyRule Fresh Manager.load Loaded fun _ => Settled := by
  refine .perform (fun _ _ => trivial) fun h r hf => ?_
  rcases (r : Except StateError StateFile) with e | state
  · exact not_unmarked_cons hf.1 rfl
  · exact ⟨rfl, .loaded h state, not_unmarked_cons hf.1 rfl, wroteDpi_cons hf.2 rfl⟩

theorem tries_requireJournal {P : History Backend → Prop} {state : StateFile} (hP : ∀ h, P h → Settled h) :
    Tries ceremonyRule P (requireJournal state) (fun journal h => state.identitySetup = some journal ∧ P h)
      fun _ => Settled :=
  .ofOption (fun _ hj _ hh => ⟨hj, hh⟩) fun _ => hP

/-- The commit at the end of a call leaves nothing unmarked. -/
theorem tries_lastCommit {t : Txn} {state : StateFile} (may : ∀ h, Loaded state h → MayCommit h t) :
    Tries ceremonyRule (Loaded state) (Manager.commit t) (fun _ => Settled) fun _ => Settled :=
  (tries_commit may).then_ fun _ _ ⟨_, hh, hl⟩ => hh ▸ not_unmarked_cons hl.settled rfl

theorem tries_loadSettled : Tries ceremonyRule Settled Manager.load (fun _ => Settled) fun _ => Settled := by
  refine .perform (fun _ _ => trivial) fun h r hs => ?_
  rcases (r : Except StateError StateFile) with e | state
  · exact not_unmarked_cons hs rfl
  · exact not_unmarked_cons hs rfl

/-- A calm program of a call that is settled. -/
theorem tries_settled {x : Manager α} (hx : Fallible.Only Op.calm x) :
    Tries ceremonyRule Settled x (fun _ => Settled) fun _ => Settled :=
  tries_calm hx Settled.calm fun _ => id

/-! ## Begin, cancel, and the decisions -/

theorem beginIdentityCeremony_keeps (kind : IdentityCeremonyKind) (target : Option DeviceId) :
    Tries ceremonyRule Fresh (beginIdentityCeremony kind target) (fun _ => Settled) fun _ => Settled := by
  refine Tries.bind tries_load fun state => ?_
  refine Tries.bind (Q := fun _ h => state.identitySetup = none ∧ Loaded state h) ?_ fun _ => Tries.of_pure fun hnone => ?_
  · split
    · exact .throw fun _ hl => hl.settled
    · next hnone => exact .pure fun _ hl => ⟨hnone, hl⟩
  have calm {x : Manager Unit} (hx : Fallible.Only Op.calm x) := tries_calm hx (P := Loaded state) Loaded.calm fun _ => (·.settled)
  refine Tries.bind (calm (.ite .ensure .ensure)) fun _ => ?_
  refine Tries.bind (calm (calm_of_quiet quiet_requireTarget)) fun _ => Tries.bind (calm calm_refuseConnected) fun _ => ?_
  refine Tries.bind (tries_lastCommit fun h hl => ⟨state, hl.last, hl.since, hnone, hl.unwritten⟩) fun _ => ?_
  refine Tries.bind tries_loadSettled fun _ => tries_settled (.bind calm_expect fun _ => .pure)

theorem ceremonyCancel_keeps : Tries ceremonyRule Fresh ceremonyCancel (fun _ => Settled) fun _ => Settled := by
  refine Tries.bind tries_load fun state => ?_
  refine Tries.bind (tries_requireJournal fun _ => (·.settled)) fun journal => Tries.of_pure fun hj => ?_
  refine Tries.bind (Q := fun _ h => journal.irreversible = false ∧ Loaded state h)
    (.ensure (fun hr _ hl => ⟨hr, hl⟩) fun _ _ hl => hl.settled) fun _ => Tries.of_pure fun hr => ?_
  refine Tries.bind (tries_lastCommit fun h hl => ⟨state, journal, hl.last, hl.since, hj, hr⟩) fun _ => ?_
  exact .pure fun _ => id

theorem ceremonyFinalizeMigration_keeps (action : IdentityCeremonyAction) :
    Tries ceremonyRule Fresh (ceremonyFinalizeMigration action) (fun _ => Settled) fun _ => Settled := by
  refine Tries.bind tries_load fun state => ?_
  refine Tries.bind (tries_requireJournal fun _ => (·.settled)) fun journal => Tries.of_pure fun hj => ?_
  refine Tries.bind (Q := fun _ h => (journal.phase = .initialEnrollment ∧ journal.stage = .finalizing ∧
    journal.subjects.all (·.isFullyStamped)) ∧ Loaded state h) (.ensure (fun hr _ hl => ⟨⟨hr.1, hr.2.1, hr.2.2.2⟩, hl⟩) fun _ _ hl => hl.settled)
    fun _ => Tries.of_pure fun hr => ?_
  refine Tries.bind (tries_lastCommit fun h hl => ?_) fun _ => .pure fun _ => id
  exact ⟨state, journal, hl.last, hl.since, hj, hr.1, hr.2.1, List.all_eq_true.1 hr.2.2⟩

theorem ceremonyAssociate_keeps (endpoint : DeviceEndpoint) (target : Option DeviceId) :
    Tries ceremonyRule Settled (ceremonyAssociate endpoint target) (fun _ => Settled) fun _ => Settled := by
  refine Tries.bind (tries_settled .ensure) fun _ => Tries.bind (tries_settled .ofOption) fun device => ?_
  exact (tries_commit (t := .associate endpoint device) fun _ _ => trivial).then_ fun _ _ ⟨_, hh, hs⟩ => hh ▸ not_unmarked_cons hs rfl

/-! ## Reconnected -/

/-- A failed assertion never answers. -/
theorem tries_abort {P : History Backend → Prop} {site : String} {post : α → History Backend → Prop} :
    Tries ceremonyRule P (Manager.abort site) post fun _ => Settled :=
  fun _ _ => ⟨trivial, fun r : Empty => r.elim⟩

theorem tries_expect {P : History Backend → Prop} {site : String} {x : Option α} :
    Tries ceremonyRule P (Manager.expect site x) (fun a h => x = some a ∧ P h) fun _ => Settled := by
  cases x with
  | none => exact tries_abort
  | some a => exact .pure fun _ hh => ⟨rfl, hh⟩

/-- A presented token is kept by an adoption only. -/
theorem tries_eligibility {P : History Backend → Prop} (settled : ∀ h, P h → Settled h)
    (state : StateFile) (journal : IdentitySetupJournal) (endpoint : DeviceEndpoint) (decode : WatermarkDecode) :
    Tries ceremonyRule P (eligibility state journal endpoint decode)
      (fun adopted h => (journal.phase ≠ .foreignAdoption → adopted = none) ∧ P h) fun _ => Settled := by
  unfold eligibility
  split
  · next token =>
    unfold eligibleToken
    split
    · exact .throw settled
    split
    · next hphase =>
      refine Tries.bind (Q := fun _ => P) (.ensure (fun _ _ => id) fun _ => settled) fun _ => ?_
      refine Tries.bind (Q := fun _ => P) (.ensure (fun _ _ => id) fun _ => settled) fun _ => ?_
      exact .pure fun h hh => ⟨fun hne => absurd hphase hne, hh⟩
    · exact .throw settled
    · exact .throw settled
    · exact .throw settled
    · exact tries_abort
  · exact .throw settled
  · exact .pure fun h hh => ⟨fun _ => rfl, hh⟩
  · exact .pure fun h hh => ⟨fun _ => rfl, hh⟩

/-- **An adoption's plan**, entry by entry. -/
theorem adoptionPlan_get (phase : IdentitySetupPhase) (token : PhysicalId) :
    ∀ (entries : List (ProfileId × ProfileState)) (plan plan' : BTreeMap ProfileId IdentityStampProgress),
      adoptionPlan phase token entries plan = .ok plan' → entries.Pairwise (fun a b => a.1 ≠ b.1) →
        (∀ entry ∈ entries, ∃ progress, adoptionStep phase token entry.1 entry.2 = .ok progress ∧
          plan'[entry.1]? = some progress) ∧
        ∀ p, (∀ entry ∈ entries, entry.1 ≠ p) → plan'[p]? = plan[p]?
  | [], plan, plan', h, _ => by
    simp only [adoptionPlan, Except.ok.injEq] at h
    exact ⟨fun _ he => absurd he List.not_mem_nil, fun _ _ => by rw [h]⟩
  | (p, state) :: rest, plan, plan', h, hd => by
    simp only [adoptionPlan] at h
    obtain ⟨hfirst, hrest⟩ := List.pairwise_cons.1 hd
    cases hstep : adoptionStep phase token p state with
    | error e =>
      rw [hstep] at h
      exact nomatch h
    | ok progress =>
      rw [hstep] at h
      obtain ⟨hin, hout⟩ := adoptionPlan_get phase token rest _ plan' h hrest
      refine ⟨fun entry he => ?_, fun q hq => ?_⟩
      · rcases List.mem_cons.1 he with rfl | he
        · refine ⟨progress, hstep, ?_⟩
          rw [hout p fun entry' he' heq => hfirst entry' he' heq.symm]
          exact BTreeMap.get_insert_self ..
        · exact hin entry he
      · rw [hout q fun entry he => hq entry (List.mem_cons_of_mem _ he)]
        exact BTreeMap.get_insert_of_ne _ (hq _ List.mem_cons_self) _

/-- The step of an adoption, and what the captured tail is. -/
theorem adoptionStep_ok {phase : IdentitySetupPhase} {token : PhysicalId} {p : ProfileId} {state : ProfileState}
    {progress : IdentityStampProgress} (h : adoptionStep phase token p state = .ok progress) :
    (progress = .stamped ∧ state.capturedDecode = some (.valid token)) ∨
      (progress = .captured ∧ (state.capturedDecode = some .absent ∨ state.capturedDecode = none)) := by
  unfold adoptionStep at h
  split at h
  · next token' hd =>
    split at h
    · next heq =>
      cases h
      exact .inl ⟨rfl, heq ▸ hd⟩
    · cases h
  · next hd =>
    cases h
    exact .inr ⟨rfl, .inl hd⟩
  · next hd =>
    cases h
    exact .inr ⟨rfl, .inr hd⟩
  · cases h

/-- What a stamp plan is for a captured image. -/
structure Planned (phase : IdentitySetupPhase) (adopted : Option PhysicalId) (evidence : CapturedProfileImage)
    (plan : BTreeMap ProfileId IdentityStampProgress) : Prop where
  fresh : phase ≠ .foreignAdoption → ∀ p : ProfileId, plan[p]? ≠ some .stamped
  marked : ∀ p : ProfileId, plan[p]? = some .stamped → ∃ token state, adopted = some token ∧
    evidence.profiles[p]? = some state ∧ state.capturedDecode = some (.valid token)
  adopts : phase = .foreignAdoption → ∃ token, adopted = some token ∧ ∀ (p : ProfileId) (state : ProfileState),
    evidence.profiles[p]? = some state →
      (plan[p]? = some .stamped ∧ state.capturedDecode = some (.valid token)) ∨
        state.capturedDecode = some .absent ∨ state.capturedDecode = none

theorem tries_stampPlan {P : History Backend → Prop} (settled : ∀ h, P h → Settled h) (phase : IdentitySetupPhase)
    (adopted : Option PhysicalId) (evidence : CapturedProfileImage) :
    Tries ceremonyRule P (stampPlan phase adopted evidence) (fun plan h => Planned phase adopted evidence plan ∧ P h)
      fun _ => Settled := by
  unfold stampPlan
  split
  · next hphase =>
    refine Tries.bind tries_expect fun token => Tries.of_pure fun htoken => ?_
    refine .ofExcept (fun plan hplan h hh => ⟨⟨fun hne => absurd hphase hne, fun p hp => ?_, fun _ => ⟨token, htoken, ?_⟩⟩,
      hh⟩) fun _ _ => settled
    · obtain ⟨hin, hout⟩ := adoptionPlan_get _ _ _ _ _ hplan evidence.profiles.distinct_toList
      cases hstate : evidence.profiles[p]? with
      | none =>
        have habsent : ∀ entry ∈ evidence.profiles.toList, entry.1 ≠ p := fun entry he heq => by
          have hget : evidence.profiles[entry.1]? = some entry.2 := Std.ExtTreeMap.mem_toList_iff_getElem?_eq_some.1 he
          rw [heq, hstate] at hget
          cases hget
        rw [hout p habsent] at hp
        simp at hp
      | some state =>
        obtain ⟨progress, hstep, hget⟩ := hin (p, state) (by simpa using hstate)
        rcases adoptionStep_ok hstep with ⟨-, hd⟩ | ⟨rfl, -⟩
        · exact ⟨token, state, htoken, rfl, hd⟩
        · rw [hget] at hp
          cases hp
    · intro p state hstate
      have hmem : (p, state) ∈ evidence.profiles.toList := by simpa using hstate
      obtain ⟨progress, hstep, hget⟩ := (adoptionPlan_get _ _ _ _ _ hplan evidence.profiles.distinct_toList).1 _ hmem
      rcases adoptionStep_ok hstep with ⟨rfl, hd⟩ | ⟨-, hd⟩
      · exact .inl ⟨hget, hd⟩
      · exact .inr hd
  · next hphase =>
    have hfresh : ∀ p : ProfileId,
        (evidence.profiles.map fun _ _ => IdentityStampProgress.captured)[p]? ≠ some .stamped := fun p => by
      cases hp : evidence.profiles[p]? <;> simp [hp]
    exact .pure fun h hh => ⟨⟨fun _ => hfresh, fun p hp => absurd hp (hfresh p), fun heq => absurd heq hphase⟩, hh⟩

/-- The subject a Reconnected call makes of its plan. -/
theorem Planned.presented {journal : IdentitySetupJournal} {adopted : Option PhysicalId} {evidence : CapturedProfileImage}
    {plan : BTreeMap ProfileId IdentityStampProgress} (hp : Planned journal.phase adopted evidence plan)
    (awaiting : journal.stage = .awaitingCapture)
    (alone : journal.phase ≠ .initialEnrollment → journal.subjects = [])
    (hadopted : journal.phase ≠ .foreignAdoption → adopted = none)
    (endpoint : DeviceEndpoint) (device : Option DeviceId) (old : Option PhysicalId) :
    Presented journal journal.phase ⟨endpoint, device, adopted, old, some evidence, plan⟩
      (journal.phase = .foreignAdoption &&
        IdentitySetupSubject.isFullyStamped ⟨endpoint, device, adopted, old, some evidence, plan⟩) where
  phase_eq := rfl
  awaiting := awaiting
  alone := alone
  captured := rfl
  fresh hne := ⟨hadopted hne, fun p => by simpa [IdentitySetupSubject.isStamped] using hp.fresh hne p⟩
  adopted heq := by
    obtain ⟨token, htoken, hall⟩ := hp.adopts heq
    refine ⟨token, htoken, fun p dpi hdpi => ?_⟩
    simp only [IdentitySetupSubject.capturedDpi, Option.bind_some] at hdpi
    obtain ⟨state, hstate, hobs⟩ := Option.bind_eq_some_iff.1 hdpi
    obtain ⟨observed, ho, rfl⟩ := Option.map_eq_some_iff.1 hobs
    have hdecode : state.capturedDecode = some observed.value.physicalId := by
      simp [ProfileState.capturedDecode, ho]
    rcases hall p state hstate with ⟨hs, hd⟩ | hd | hd
    · rw [hdecode, Option.some.injEq] at hd
      exact .inl ⟨by simpa [IdentitySetupSubject.isStamped] using hs, hd⟩
    · rw [hdecode, Option.some.injEq] at hd
      exact .inr hd
    · rw [hdecode] at hd
      cases hd
  marked p hs := by
    obtain ⟨token, state, htoken, hstate, hd⟩ := hp.marked p (by simpa [IdentitySetupSubject.isStamped] using hs)
    obtain ⟨observed, hobs, hv⟩ := Option.map_eq_some_iff.1 hd
    exact ⟨token, observed.value, htoken, by simp [IdentitySetupSubject.capturedDpi, hstate, hobs], hv⟩
  all := by simp

theorem ceremonyReconnected_keeps (endpoint : DeviceEndpoint) (target : Option DeviceId) :
    Tries ceremonyRule Fresh (ceremonyReconnected endpoint target) (fun _ => Settled) fun _ => Settled := by
  refine Tries.bind tries_load fun state => ?_
  have settled : ∀ h, Loaded state h → Settled h := fun _ => (·.settled)
  refine Tries.bind (tries_requireJournal settled) fun journal => Tries.of_pure fun hj => ?_
  refine Tries.bind (Q := fun _ h => (journal.stage = .awaitingCapture ∧
    (journal.phase ≠ .initialEnrollment → journal.subjects = [])) ∧ Loaded state h)
    (.ensure (fun hc h hl => ⟨⟨hc.1, fun hne => by simpa [hne] using hc.2.1⟩, hl⟩) fun _ => settled)
    fun _ => Tries.of_pure fun ⟨awaiting, alone⟩ => ?_
  refine Tries.bind (Q := fun _ => Loaded state) (.ensure (fun _ _ => id) fun _ => settled) fun _ => ?_
  refine Tries.bind (tries_calm (calm_of_quiet quiet_open) Loaded.calm settled) fun session => ?_
  refine Tries.bind (tries_calm (calm_of_quiet (quiet_currentWatermark session)) Loaded.calm settled) fun current => ?_
  refine Tries.bind (tries_eligibility settled _ _ _ _) fun adopted => Tries.of_pure fun hadopted => ?_
  refine Tries.bind (tries_calm (calm_of_quiet quiet_restoreTarget) Loaded.calm settled) fun target => ?_
  refine Tries.bind (tries_calm (calm_of_quiet (quiet_captureAllProfiles session)) Loaded.calm settled) fun capture => ?_
  refine Tries.bind (tries_calm (calm_of_quiet quiet_now) Loaded.calm settled) fun now => ?_
  refine Tries.bind (tries_stampPlan settled _ _ _) fun plan => Tries.of_pure fun hplan => ?_
  refine Tries.bind (tries_lastCommit fun h hl => ?_) fun _ => ?_
  · exact ⟨state, journal, hl.last, hl.since, hj, hplan.presented awaiting alone hadopted .., hl.unwritten⟩
  split
  · exact .pure fun _ => id
  · exact Tries.bind tries_loadSettled fun state => tries_settled (.bind calm_expect fun _ => .pure)

end AttackSharkX3
