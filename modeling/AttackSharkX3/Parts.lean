import AttackSharkX3.Actions
import AttackSharkX3.Ordinary
/-!
# Parts — the transactions of an action

What the parts of a ceremony action may commit.  Off the store a part is calm; the parts that stamp commit marks and
nothing else.
-/
namespace AttackSharkX3

open Effects (Fallible)

variable {α : Type} {may : Txn → Prop}

/-- A commit of these transactions, or off the store. -/
def Op.commits (may : Txn → Prop) : Op → Prop
  | .commit t => may t
  | _ => True

/-- One that is answered. -/
def Op.among (may : Txn → Prop) (o : Op) : Prop := o.commits may ∧ o.asserts = false

theorem commits_mono {may' : Txn → Prop} {x : Manager α} (h : ∀ t, may t → may' t) (hx : Fallible.Only (Op.commits may) x) :
    Fallible.Only (Op.commits may') x := by
  refine hx.mono fun o ho => ?_
  cases o with
  | commit t => exact h t ho
  | _ => trivial

theorem commits_of_calm {x : Manager α} (hx : Fallible.Only Op.calm x) : Fallible.Only (Op.commits may) x := by
  refine hx.mono fun o ho => ?_
  cases o with
  | commit t => cases ho.1
  | _ => trivial

theorem commits_of_among {x : Manager α} (hx : Fallible.Only (Op.among may) x) : Fallible.Only (Op.commits may) x :=
  hx.mono fun _ ho => ho.1

theorem among_of_quiet {x : Manager α} (hx : Fallible.Only Op.quiet x) : Fallible.Only (Op.among may) x := by
  refine hx.mono fun o ho => ⟨?_, ho.2⟩
  cases o with
  | commit t => cases ho.1.1
  | _ => trivial

theorem among_load : Fallible.Only (Op.among may) Manager.load := .perform ⟨trivial, rfl⟩
theorem among_commit {t : Txn} (h : may t) : Fallible.Only (Op.among may) (Manager.commit t) := .perform ⟨h, rfl⟩

theorem among_reserveToken (h : ∀ token, may (.reserveToken token)) (state : StateFile) (journal : IdentitySetupJournal) :
    Fallible.Only (Op.among may) (reserveToken state journal) :=
  .ite (.bind (among_of_quiet (quiet_mintFrom ..)) fun _ => among_commit (h _)) .pure

theorem among_restoreMetadata (session : Session) (captured : CapturedProfileImage) :
    Fallible.Only (Op.among may) (restoreMetadata session captured) := by
  unfold restoreMetadata
  split
  · exact .pure
  · refine .bind (.attempt (among_of_quiet (quiet_writeExactMetadata ..))) fun result => ?_
    split
    · exact .pure
    · exact .throw

theorem among_cancel (h : may .cancelCeremony) : Fallible.Only (Op.among may) ceremonyCancel :=
  .bind among_load fun _ => .bind .ofOption fun _ => .bind .ensure fun _ => .bind (among_commit h) fun _ => .pure

theorem among_finalizeMigration (h : ∀ skip, may (.finalizeMigration skip)) (action : IdentityCeremonyAction) :
    Fallible.Only (Op.among may) (ceremonyFinalizeMigration action) :=
  .bind among_load fun _ => .bind .ofOption fun _ => .bind .ensure fun _ => .bind (among_commit (h _)) fun _ => .pure

theorem among_associate (h : ∀ endpoint device, may (.associate endpoint device)) (endpoint : DeviceEndpoint)
    (target : Option DeviceId) : Fallible.Only (Op.among may) (ceremonyAssociate endpoint target) :=
  .bind .ensure fun _ => .bind .ofOption fun device => among_commit (t := .associate endpoint device) (h endpoint device)

theorem calm_eligibility (state : StateFile) (journal : IdentitySetupJournal) (endpoint : DeviceEndpoint)
    (decode : WatermarkDecode) : Fallible.Only Op.calm (eligibility state journal endpoint decode) := by
  unfold eligibility eligibleToken
  split
  · refine .ite .throw ?_
    split
    · exact .bind .ensure fun _ => .bind .ensure fun _ => .pure
    · exact .throw
    · exact .throw
    · exact .throw
    · exact .perform ⟨rfl, rfl⟩
  · exact .throw
  · exact .pure
  · exact .pure

/-- The transactions that stamp, in a ceremony of this phase. -/
def Txn.stamps (phase : IdentitySetupPhase) : Txn → Prop
  | .reserveToken _ | .markStamped _ => True
  | .finishStamping phase' awaitSecond _ => phase' = phase ∧ (awaitSecond = true → phase = .initialEnrollment)
  | _ => False

theorem Txn.stamps_begins {phase : IdentitySetupPhase} {t : Txn} (h : t.stamps phase) : ∀ phase', t ≠ .beginCeremony phase' := by
  rintro phase' rfl
  exact h

/-- What the subject was captured with is a capture, as evidence. -/
def IdentitySetupSubject.FromCapture (subject : IdentitySetupSubject) : Prop :=
  ∃ (capture : ProfileCapture) (now : Timestamp), subject.captured = some (capture.intoEvidence now)

variable [Crc32fast]

theorem among_stampOneProfile (session : Session) (profile : ProfileId) (token : PhysicalId) (dpi : DpiState) :
    Fallible.Only (Op.among may) (stampOneProfile session profile token dpi) := by
  refine .bind (among_of_quiet (session.quiet_call rfl)) fun actual => ?_
  refine .bind (among_of_quiet quiet_newMetadata) fun metadata => ?_
  refine .bind (among_of_quiet (quiet_writeExactMetadata ..)) fun _ => .bind (.perform ⟨trivial, rfl⟩) fun write => ?_
  refine .bind ?_ fun _ => .ensure
  cases write with
  | readbackVerified actual => exact .pure
  | acknowledged => exact .bind (among_of_quiet (session.quiet_call rfl)) fun _ => .pure

theorem among_stampProfiles (h : ∀ profile, may (.markStamped profile)) (session : Session)
    (subject : IdentitySetupSubject) (token : PhysicalId) :
    ∀ profiles, Fallible.Only (Op.among may) (stampProfiles session subject token profiles)
  | [] => .pure
  | [_] => .bind .ofOption fun _ => among_stampOneProfile ..
  | _ :: profile :: rest => .bind .ofOption fun _ => .bind (among_stampOneProfile ..) fun _ =>
      .bind (among_commit (h _)) fun _ => among_stampProfiles h session subject token (profile :: rest)

theorem calm_stampPlan (phase : IdentitySetupPhase) (adopted : Option PhysicalId) (evidence : CapturedProfileImage) :
    Fallible.Only Op.calm (stampPlan phase adopted evidence) :=
  .ite (.bind calm_expect fun _ => .ofExcept) .pure

/-- A presented mouse is journalled in one transaction, with what was captured from it. -/
theorem commits_reconnected (h : ∀ phase subject allValid, subject.FromCapture → may (.pushSubject phase subject allValid))
    (endpoint : DeviceEndpoint) (target : Option DeviceId) :
    Fallible.Only (Op.commits may) (ceremonyReconnected endpoint target) := by
  refine .bind (commits_of_among among_load) fun state => .bind .ofOption fun journal => .bind .ensure fun _ => ?_
  refine .bind .ensure fun _ => .bind (commits_of_calm (calm_of_quiet quiet_open)) fun session => ?_
  refine .bind (commits_of_calm (calm_of_quiet (quiet_currentWatermark session))) fun _ => ?_
  refine .bind (commits_of_calm (calm_eligibility ..)) fun _ => ?_
  refine .bind (commits_of_calm (calm_of_quiet quiet_restoreTarget)) fun _ => ?_
  refine .bind (commits_of_calm (calm_of_quiet (quiet_captureAllProfiles session))) fun _ => ?_
  refine .bind (commits_of_calm (calm_of_quiet quiet_now)) fun _ => .bind (commits_of_calm (calm_stampPlan ..)) fun _ => ?_
  refine .bind (commits_of_among (among_commit (h _ _ _ ⟨_, _, rfl⟩))) fun _ => .ite .pure ?_
  exact .bind (commits_of_among among_load) fun _ => .bind (commits_of_calm calm_expect) fun _ => .pure

/-- **Stamping commits nothing else**, in the phase of the journal it loads. -/
theorem commits_stampLoaded : ∃ rest, ceremonyStamp = Manager.load >>= rest ∧ ∀ state, Fallible.Only
    (Op.commits fun t => ∃ journal, state.identitySetup = some journal ∧ t.stamps journal.phase) (rest state) := by
  refine ⟨_, rfl, fun state => ?_⟩
  refine .bind_ofOption fun journal hj => .bind .ensure fun _ => ?_
  refine .bind (commits_of_among (among_reserveToken (fun _ => ⟨journal, hj, trivial⟩) ..)) fun _ => ?_
  refine .bind (commits_of_among among_load) fun _ => .bind .ofOption fun _ => .bind (commits_of_calm calm_expect) fun _ => ?_
  refine .bind (commits_of_calm calm_expect) fun _ => .bind (commits_of_calm calm_expect) fun _ => ?_
  refine .bind (commits_of_calm (calm_of_quiet quiet_open)) fun session => ?_
  refine .bind (commits_of_among (among_stampProfiles (fun _ => ⟨journal, hj, trivial⟩) ..)) fun _ => ?_
  refine .bind (commits_of_among (among_restoreMetadata ..)) fun _ => ?_
  refine .bind (commits_of_among (among_commit ⟨journal, hj, rfl, fun hawait => ?_⟩)) fun _ => ?_
  · exact of_decide_eq_true (Bool.and_eq_true_iff.1 hawait).1
  · refine .bind (commits_of_among among_load) fun _ => ?_
    split <;> exact .pure

theorem commits_stamp : Fallible.Only (Op.commits fun t => ∃ phase, t.stamps phase) ceremonyStamp := by
  obtain ⟨rest, heq, hrest⟩ := commits_stampLoaded
  rw [heq]
  refine .bind (commits_of_among among_load) fun state => commits_mono ?_ (hrest state)
  rintro t ⟨journal, -, hstamps⟩
  exact ⟨journal.phase, hstamps⟩

/-- **An action other than Begin begins nothing.** -/
theorem commits_action {action : IdentityCeremonyAction} (ha : ∀ kind, action ≠ .begin kind)
    (endpoint : Option DeviceEndpoint) (target : Option DeviceId) :
    Fallible.Only (Op.commits fun t => ∀ phase, t ≠ .beginCeremony phase)
      (identityCeremonyAction action endpoint target) := by
  cases action with
  | begin kind => exact absurd rfl (ha kind)
  | reconnected | capture => exact .bind .ofOption fun shown => commits_reconnected (fun _ _ _ _ _ => nofun) shown target
  | stamp => exact commits_mono (fun _ ⟨_, h⟩ => Txn.stamps_begins h) commits_stamp
  | adopt =>
    refine .bind (commits_of_among among_load) fun _ => .bind .ofOption fun _ => .bind .ensure fun _ => ?_
    exact commits_mono (fun _ ⟨_, h⟩ => Txn.stamps_begins h) commits_stamp
  | associate =>
    exact .bind .ofOption fun shown => commits_of_among (among_associate (fun _ _ _ => nofun) shown target)
  | acceptMigration | skipMigration => exact commits_of_among (among_finalizeMigration (fun _ _ => nofun) _)
  | cancel => exact commits_of_among (among_cancel fun _ => nofun)

/-- A scan commits ordinary transactions. -/
theorem commits_discover (selection : TransportSelection) :
    Fallible.Only (Op.commits (·.isOrdinary = true)) (discover selection) := by
  refine Effects.Prog.Keeps.only (fun h o ho => ?_) _ _ (discover_keeps selection [] rfl)
  cases o with
  | commit t => exact ho
  | _ => trivial

end AttackSharkX3
