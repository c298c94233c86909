import AttackSharkX3.Guards
import AttackSharkX3.Journal
import AttackSharkX3.Solo
import AttackSharkX3.Stages
/-!
# Steps — what an accepted action leaves

Each action of a ceremony is one or more transactions.  Where it answers without an error, the journal it found admitted
it, and the journal it leaves is known.
-/
namespace AttackSharkX3

open Effects (Fallible)
open Script

variable {script : Script} {s s' : Solo} {journal : IdentitySetupJournal} {endpoint : DeviceEndpoint}

/-! ## Begin -/

/-- What a restore or an association is about is there. -/
theorem of_requireTarget {state : StateFile} {phase : IdentitySetupPhase} {target : Option DeviceId}
    (h : script.call (requireTarget state phase target) s = some (.ok (), s')) :
    phase = .restore ∨ phase = .bleAssociation → ∃ targetId device, target = some targetId ∧
      state.devices[targetId]? = some device := by
  intro hphase
  rw [requireTarget, if_pos hphase] at h
  obtain ⟨targetId, s₁, htarget, h₁⟩ := of_call_bind h
  obtain ⟨device, s₂, hdevice, -⟩ := of_call_bind h₁
  exact ⟨targetId, device, (of_call_ofOption htarget).1, (of_call_ofOption hdevice).1⟩

/-- **A ceremony that was begun**: its journal is new and empty. -/
theorem begin_ok {kind : IdentityCeremonyKind} {target : Option DeviceId} {progress : IdentityCeremonyProgress}
    (h : script.call (beginIdentityCeremony kind target) s = some (.ok progress, s')) :
    s.store.identitySetup = none ∧ s'.store.validate = .ok () ∧
      s'.store = { s.store with identitySetup := some ⟨kind.phase, .awaitingCapture, []⟩ } ∧
      (kind.phase = .restore ∨ kind.phase = .bleAssociation → target.isSome = true) := by
  obtain ⟨state, s₁, hload, h₁⟩ := of_call_bind h
  obtain ⟨rfl, rfl⟩ := of_call_load hload
  obtain ⟨_, s₂, hfree, h₂⟩ := of_call_bind h₁
  obtain ⟨hnone, rfl⟩ : s.store.identitySetup = none ∧ s₂ = s.next := by
    split at hfree
    · cases hfree
    · next hnone => exact ⟨hnone, (of_call_pure hfree).2⟩
  obtain ⟨_, s₃, hmode, h₃⟩ := of_call_bind h₂
  obtain ⟨_, s₄, htarget, h₄⟩ := of_call_bind h₃
  obtain ⟨_, s₅, habsent, h₅⟩ := of_call_bind h₄
  obtain ⟨_, s₆, hcommit, h₆⟩ := of_call_bind h₅
  have hstore : s₅.store = s.store := by
    rw [call_calm calm_refuseConnected habsent, call_calm (calm_of_quiet quiet_requireTarget) htarget,
      call_calm (.ite .ensure .ensure) hmode]
    rfl
  obtain ⟨rfl, -, hvalid⟩ := of_call_commit hcommit
  have hend : s'.store = (Txn.beginCeremony kind.phase).after s₅.store := by
    obtain ⟨state, s₇, hload, h₇⟩ := of_call_bind h₆
    obtain ⟨rfl, rfl⟩ := of_call_load hload
    obtain ⟨journal, s₈, hjournal, h₈⟩ := of_call_bind h₇
    obtain ⟨-, rfl⟩ := of_call_expect hjournal
    obtain ⟨-, rfl⟩ := of_call_pure h₈
    rfl
  rw [hstore] at hvalid hend
  refine ⟨hnone, ?_, hend, ?_⟩
  · rw [hend]
    refine hvalid.resolve_left fun hsame => ?_
    have hjournal : some _ = s.store.identitySetup := congrArg StateFile.identitySetup hsame
    rw [hnone] at hjournal
    cases hjournal
  · intro hphase
    obtain ⟨targetId, device, rfl, -⟩ := of_requireTarget htarget hphase
    rfl

/-- A ceremony is not begun while another is on its way. -/
theorem begin_refused {kind : IdentityCeremonyKind} {target : Option DeviceId}
    (hj : s.store.identitySetup = some journal) (n : Nat) :
    (script.stop n (beginIdentityCeremony kind target) s).store = s.store := by
  cases n with
  | zero => rfl
  | succ n =>
    rw [beginIdentityCeremony, stop_load, hj]
    cases n <;> rfl

/-! ## Cancel -/

theorem cancel_ok {progress : IdentityCeremonyProgress}
    (h : script.call ceremonyCancel s = some (.ok progress, s')) :
    ∃ journal, s.store.identitySetup = some journal ∧ journal.admits .cancel = true ∧
      s'.store = { s.store with identitySetup := none } := by
  obtain ⟨state, s₁, hload, h₁⟩ := of_call_bind h
  obtain ⟨rfl, rfl⟩ := of_call_load hload
  obtain ⟨journal, s₂, hjournal, h₂⟩ := of_call_bind h₁
  obtain ⟨hj, rfl⟩ := of_call_ofOption hjournal
  obtain ⟨_, s₃, hguard, h₃⟩ := of_call_bind h₂
  obtain ⟨hreversible, rfl⟩ := of_call_ensure hguard
  obtain ⟨_, s₄, hcommit, h₄⟩ := of_call_bind h₃
  obtain ⟨rfl, -, -⟩ := of_call_commit hcommit
  obtain ⟨rfl, rfl⟩ := of_call_pure h₄
  exact ⟨journal, hj, IdentitySetupJournal.admits_cancel.2 hreversible, rfl⟩

/-- **A cancellation goes through exactly while nothing is stamped.** -/
theorem cancel_accepted (hv : s.store.validate = .ok ()) (hj : s.store.identitySetup = some journal) :
    (∃ progress s', script.call ceremonyCancel s = some (.ok progress, s')) ↔ journal.admits .cancel = true := by
  constructor
  · rintro ⟨progress, s', h⟩
    obtain ⟨current, hcurrent, hadmits, -⟩ := cancel_ok h
    rw [hj, Option.some.injEq] at hcurrent
    rw [hcurrent]
    exact hadmits
  · intro hadmits
    have hjournal : script.call (requireJournal s.store) s.next = some (.ok journal, s.next) := by
      rw [requireJournal, hj]
      rfl
    have hcommit : script.call (Manager.commit .cancelCeremony) s.next = some (.ok (), _) :=
      call_commit_valid (StateFile.validate_withoutSetup hv) rfl
    refine ⟨{ ceremonyProgressFromJournal journal with stage := .cancelled },
      { s.next.next with store := { s.store with identitySetup := none } }, ?_⟩
    refine (Fallible.exec_bind_ok call_load).trans ((Fallible.exec_bind_ok hjournal).trans ?_)
    refine (Fallible.exec_bind_ok (Fallible.exec_ensure_true (IdentitySetupJournal.admits_cancel.1 hadmits) _)).trans ?_
    exact Fallible.exec_bind_ok hcommit

/-! ## Stamp -/

/-- The journal has its token once it is reserved. -/
theorem reserveToken_ok {state : StateFile} {journal : IdentitySetupJournal} {subject : IdentitySetupSubject}
    (hj : s.store.identitySetup = some journal) (hlast : journal.subjects.getLast? = some subject)
    (h : script.call (reserveToken state journal) s = some (.ok (), s')) :
    ∃ token, s'.store.identitySetup = some (journal.withLast { subject with token := some token }) := by
  unfold reserveToken at h
  split at h
  · obtain ⟨token, s₁, hmint, h₁⟩ := of_call_bind h
    obtain ⟨rfl, -, -⟩ := of_call_commit h₁
    have hkept := call_calm (calm_of_quiet (quiet_mintFrom ..)) hmint
    refine ⟨token, ?_⟩
    rw [← hkept] at hj
    have hlast' := updateLastSubject_last ({ · with token := some token }) hj hlast
    show ((Txn.changeLastSubject _).apply s₁.store).2.identitySetup = _
    simp [Txn.changeLastSubject, hlast']
  · next hsome =>
    obtain ⟨-, rfl⟩ := of_call_pure h
    rw [hlast, Option.any_some, Bool.not_eq_true, Option.isNone_eq_false_iff] at hsome
    obtain ⟨token, htoken⟩ := Option.isSome_iff_exists.1 hsome
    refine ⟨token, ?_⟩
    rw [hj, ← htoken, IdentitySetupJournal.withLast_self hlast]

/-- A transaction that stamps has nothing to do without a subject. -/
theorem Txn.after_stamps {t : Txn} {state : StateFile} {phase : IdentitySetupPhase} (ht : t.stamps phase)
    (hnone : state.identitySetup.bind (·.subjects.getLast?) = none) : t.after state = state := by
  have absent {journal : IdentitySetupJournal} {subject : IdentitySetupSubject} (hj : state.identitySetup = some journal)
      (hlast : journal.subjects.getLast? = some subject) : False := by
    rw [hj, Option.bind_some, hlast] at hnone
    cases hnone
  cases t with
  | reserveToken token | markStamped profile =>
    rcases Txn.changeLastSubject_apply _ state with h | ⟨journal, subject, hj, hlast, -⟩
    · exact h
    · exact (absent hj hlast).elim
  | finishStamping phase' awaitSecond pendingLast =>
    rcases updateLastSubject_apply (fun subject => pendingLast.elim subject subject.mark) state with
      ⟨e, he⟩ | ⟨journal, subject, hj, hlast, -⟩
    · show ((Txn.advance phase' awaitSecond pendingLast).apply state).2 = state
      simp [Txn.advance, Mutation.apply_bind, he]
    · exact (absent hj hlast).elim
  | _ => cases ht

/-! ## Reconnected -/

theorem of_call_requireAwaitingCapture (h : script.call (requireAwaitingCapture journal) s = some (.ok (), s')) :
    journal.admits .reconnected = true ∧ s' = s := by
  rw [requireAwaitingCapture_eq] at h
  exact of_call_ensure h

section Reconnected

variable {state : StateFile}

/-- A mouse that may go on is blank, or is adopted under its token. -/
theorem eligibility_ok {decode : WatermarkDecode} {adopted : Option PhysicalId}
    (h : script.call (eligibility state journal endpoint decode) s = some (.ok adopted, s')) : s' = s ∧
      (((decode = .absent ∨ decode = .malformed) ∧ adopted = none) ∨
        ∃ token, decode = .valid token ∧ journal.phase = .foreignAdoption ∧ adopted = some token ∧
          knownToken state token = false ∧ isReservedToken token = false) := by
  cases decode with
  | valid token =>
    simp only [eligibility, eligibleToken] at h
    split at h
    · cases h
    · next hreserved =>
      split at h
      · next hphase =>
        obtain ⟨_, s₁, hunknown, h₁⟩ := of_call_bind h
        obtain ⟨hknown, rfl⟩ := of_call_ensure hunknown
        obtain ⟨_, s₂, hunreserved, h₂⟩ := of_call_bind h₁
        obtain ⟨-, rfl⟩ := of_call_ensure hunreserved
        obtain ⟨rfl, rfl⟩ := of_call_pure h₂
        exact ⟨rfl, .inr ⟨token, rfl, hphase, rfl, hknown, by simpa using hreserved⟩⟩
      · cases h
      · cases h
      · cases h
      · cases h
  | unsupportedVersion version => cases h
  | absent | malformed =>
    cases h
    exact ⟨rfl, .inl ⟨by simp, rfl⟩⟩

theorem restoreTarget_ok {phase : IdentitySetupPhase} {target : Option DeviceId} {bound : Option DeviceId × Option PhysicalId}
    (h : script.call (restoreTarget state phase target) s = some (.ok bound, s')) : s' = s ∧
      (phase = .restore → ∃ targetId old, target = some targetId ∧ bound = (some targetId, some old) ∧
        physicalIdOf state targetId = some old) ∧
      (phase ≠ .restore → bound = (none, none)) := by
  unfold restoreTarget at h
  split at h
  · next hphase =>
    obtain ⟨targetId, s₁, htarget, h₁⟩ := of_call_bind h
    obtain ⟨rfl, rfl⟩ := of_call_ofOption htarget
    obtain ⟨device, s₂, hfound, h₂⟩ := of_call_bind h₁
    obtain ⟨hdevice, rfl⟩ := of_call_ofOption hfound
    obtain ⟨old, s₃, htoken, h₃⟩ := of_call_bind h₂
    obtain ⟨hold, rfl⟩ := of_call_ofOption htoken
    obtain ⟨rfl, rfl⟩ := of_call_pure h₃
    refine ⟨rfl, fun _ => ⟨targetId, old, rfl, rfl, ?_⟩, fun hne => absurd hphase hne⟩
    rw [StateFile.physicalIdOf_eq hdevice, hold]
  · next hphase =>
    obtain ⟨rfl, rfl⟩ := of_call_pure h
    exact ⟨rfl, fun heq => absurd heq hphase, fun _ => rfl⟩

end Reconnected

variable [Crc32fast]

/-- **What every transaction that stamps leaves true, stamping leaves true**, whatever it answers. -/
theorem stamp_keeps {P : StateFile → Prop} {r : Except ManagerError IdentityCeremonyProgress}
    (stable : ∀ t state, (∃ journal, s.store.identitySetup = some journal ∧ t.stamps journal.phase) → P state →
      P (commitReliably t state).2)
    (hs : P s.store) (h : script.call ceremonyStamp s = some (r, s')) : P s'.store := by
  obtain ⟨rest, heq, hrest⟩ := commits_stampLoaded
  rw [heq] at h
  exact call_keeps (s := s.next) (hrest s.store) stable hs h

/-- **A presented mouse that was accepted**, and its subject. -/
structure Accepts (script : Script) (s s' : Solo) (endpoint : DeviceEndpoint) (target : Option DeviceId)
    (journal : IdentitySetupJournal) (subject : IdentitySetupSubject) : Prop where
  was : s.store.identitySetup = some journal
  admitted : journal.admits .reconnected = true
  usb : isUsbTransport endpoint.transport = true
  at_ : subject.endpoint = endpoint
  captured : subject.captured.isSome = true
  bound : journal.phase = .restore → subject.deviceId = target ∧ target.isSome
  unbound : journal.phase ≠ .restore → subject.deviceId = none
  stored : s'.store =
    (Txn.pushSubject journal.phase subject (journal.phase = .foreignAdoption && subject.isFullyStamped)).after s.store
  valid : s'.store.validate = .ok ()
  becomes : (journal.phase = .foreignAdoption ∧ subject.isFullyStamped = true ∧ s'.store.identitySetup = none) ∨
    s'.store = { s.store with identitySetup := some ((journal.push subject).withStage .stamping) }

theorem reconnected_ok {target : Option DeviceId} {progress : IdentityCeremonyProgress}
    (h : script.call (ceremonyReconnected endpoint target) s = some (.ok progress, s')) :
    ∃ journal subject, Accepts script s s' endpoint target journal subject ∧
      (progress.stage = .complete ∨ s'.store.identitySetup.isSome = true) := by
  obtain ⟨state, s₁, hload, h₁⟩ := of_call_bind h
  obtain ⟨rfl, rfl⟩ := of_call_load hload
  obtain ⟨journal, s₂, hjournal, h₂⟩ := of_call_bind h₁
  obtain ⟨hj, rfl⟩ := of_call_ofOption hjournal
  obtain ⟨_, s₃, hguard, h₃⟩ := of_call_bind h₂
  obtain ⟨hadmits, rfl⟩ := of_call_requireAwaitingCapture hguard
  obtain ⟨_, s₄, hconnects, h₄⟩ := of_call_bind h₃
  obtain ⟨husb, rfl⟩ := of_call_ensure hconnects
  obtain ⟨session, s₅, hopen, h₅⟩ := of_call_bind h₄
  obtain ⟨⟨profile, decode⟩, s₆, hdecode, h₆⟩ := of_call_bind h₅
  obtain ⟨adopted, s₇, heligible, h₇⟩ := of_call_bind h₆
  obtain ⟨rfl, hadopted⟩ := eligibility_ok heligible
  obtain ⟨⟨device, old⟩, s₈, htarget, h₈⟩ := of_call_bind h₇
  obtain ⟨rfl, hbound, hunbound⟩ := restoreTarget_ok htarget
  obtain ⟨capture, s₉, hcapture, h₉⟩ := of_call_bind h₈
  obtain ⟨now, s₁₀, hnow, h₁₀⟩ := of_call_bind h₉
  obtain ⟨plan, s₁₁, hplan, h₁₁⟩ := of_call_bind h₁₀
  obtain ⟨_, s₁₂, hcommit, h₁₂⟩ := of_call_bind h₁₁
  have hstore : s₁₁.store = s.store := by
    rw [call_calm (calm_stampPlan ..) hplan, call_calm (calm_of_quiet quiet_now) hnow,
      call_calm (calm_of_quiet (quiet_captureAllProfiles session)) hcapture,
      call_calm (calm_of_quiet (quiet_currentWatermark session)) hdecode, call_calm (calm_of_quiet quiet_open) hopen]
    rfl
  obtain ⟨rfl, hanswer, hvalid⟩ := of_call_commit hcommit
  rw [hstore] at hanswer hvalid
  let subject : IdentitySetupSubject := ⟨endpoint, device, adopted, old, some (capture.intoEvidence now), plan⟩
  let allValid := journal.phase = .foreignAdoption && subject.isFullyStamped
  obtain ⟨current, hcurrent, -, hstage, hbecomes⟩ :=
    Txn.journalSubject_ok (show (Txn.journalSubject journal.phase subject allValid).apply s.store =
      (.ok (), (Txn.pushSubject journal.phase subject allValid).after s.store) from Prod.ext hanswer rfl)
  obtain rfl : journal = current := by
    rw [hj, Option.some.injEq] at hcurrent
    exact hcurrent
  have hchanged : (Txn.pushSubject journal.phase subject allValid).after s.store ≠ s.store := by
    intro hsame
    rw [hsame] at hbecomes
    rcases hbecomes with ⟨-, hnone⟩ | ⟨-, hpushed⟩
    · rw [hj] at hnone
      cases hnone
    · have hkept := congrArg StateFile.identitySetup hpushed
      rw [hj, Option.some.injEq] at hkept
      have hstamping : journal.stage = .stamping := congrArg (·.stage) hkept
      rw [hstage] at hstamping
      cases hstamping
  have hend : s'.store = (Txn.pushSubject journal.phase subject allValid).after s.store ∧
      (progress.stage = .complete ∨ s'.store.identitySetup.isSome = true) := by
    rw [← hstore]
    split at h₁₂
    · obtain ⟨rfl, rfl⟩ := of_call_pure h₁₂
      exact ⟨rfl, .inl rfl⟩
    · obtain ⟨state, s₁₃, hload, h₁₃⟩ := of_call_bind h₁₂
      obtain ⟨rfl, rfl⟩ := of_call_load hload
      obtain ⟨left, s₁₄, hpersisted, h₁₄⟩ := of_call_bind h₁₃
      obtain ⟨hleft, rfl⟩ := of_call_expect hpersisted
      obtain ⟨rfl, rfl⟩ := of_call_pure h₁₄
      exact ⟨rfl, .inr (Option.isSome_iff_exists.2 ⟨left, hleft⟩)⟩
  have hleft : (journal.phase = .foreignAdoption ∧ subject.isFullyStamped = true ∧ s'.store.identitySetup = none) ∨
      s'.store = { s.store with identitySetup := some ((journal.push subject).withStage .stamping) } := by
    rw [hend.1]
    rcases hbecomes with ⟨hall, hnone⟩ | ⟨-, hpushed⟩
    · obtain ⟨hphase, hstamped⟩ := Bool.and_eq_true_iff.1 hall
      exact .inl ⟨of_decide_eq_true hphase, hstamped, hnone⟩
    · exact .inr hpushed
  refine ⟨journal, subject, ⟨hj, hadmits, husb, rfl, rfl, ?_, ?_, hend.1, ?_, hleft⟩, hend.2⟩
  · intro hphase
    obtain ⟨targetId, oldToken, rfl, heq, -⟩ := hbound hphase
    cases heq
    exact ⟨rfl, rfl⟩
  · intro hphase
    cases hunbound hphase
    rfl
  · rw [hend.1]
    exact hvalid.resolve_left hchanged

/-- **A presented mouse that was refused** changes nothing, unless it was an adoption that failed at its end. -/
theorem reconnected_error {target : Option DeviceId} {e : ManagerError}
    (h : script.call (ceremonyReconnected endpoint target) s = some (.error e, s')) : s'.store = s.store ∨
      ∃ subject, s'.store = (Txn.pushSubject .foreignAdoption subject true).after s.store ∧
        (Txn.pushSubject .foreignAdoption subject true).answer s.store = .error e := by
  rcases Fallible.of_exec_bind_error h with h | ⟨state, s₁, hload, h⟩
  · cases h
  obtain ⟨rfl, rfl⟩ := of_call_load hload
  show s'.store = s.next.store ∨ ∃ subject, s'.store = (Txn.pushSubject .foreignAdoption subject true).after s.next.store ∧
    (Txn.pushSubject .foreignAdoption subject true).answer s.next.store = .error e
  refine (of_call_bind_error .ofOption h).elim .inl ?_
  rintro ⟨journal, s₂, -, hstore, h⟩
  rw [← hstore]
  refine (of_call_bind_error .ensure h).elim .inl ?_
  rintro ⟨_, s₃, -, hstore, h⟩
  rw [← hstore]
  refine (of_call_bind_error .ensure h).elim .inl ?_
  rintro ⟨_, s₄, -, hstore, h⟩
  rw [← hstore]
  refine (of_call_bind_error (calm_of_quiet quiet_open) h).elim .inl ?_
  rintro ⟨session, s₅, -, hstore, h⟩
  rw [← hstore]
  refine (of_call_bind_error (calm_of_quiet (quiet_currentWatermark session)) h).elim .inl ?_
  rintro ⟨⟨profile, decode⟩, s₆, -, hstore, h⟩
  rw [← hstore]
  refine (of_call_bind_error (calm_eligibility ..) h).elim .inl ?_
  rintro ⟨adopted, s₇, -, hstore, h⟩
  rw [← hstore]
  refine (of_call_bind_error (calm_of_quiet quiet_restoreTarget) h).elim .inl ?_
  rintro ⟨⟨device, old⟩, s₈, -, hstore, h⟩
  rw [← hstore]
  refine (of_call_bind_error (calm_of_quiet (quiet_captureAllProfiles session)) h).elim .inl ?_
  rintro ⟨capture, s₉, -, hstore, h⟩
  rw [← hstore]
  refine (of_call_bind_error (calm_of_quiet quiet_now) h).elim .inl ?_
  rintro ⟨now, s₁₀, -, hstore, h⟩
  rw [← hstore]
  refine (of_call_bind_error (calm_stampPlan ..) h).elim .inl ?_
  rintro ⟨plan, s₁₁, -, hstore, h⟩
  rw [← hstore]
  rcases Fallible.of_exec_bind_error h with hfails | ⟨_, s₁₂, -, hends⟩
  · rcases of_call_commit_error hfails with hsame | ⟨hafter, hanswer⟩
    · exact .inl hsame
    · rcases Txn.pushSubject_error hanswer with hsame | ⟨hall, -⟩
      · exact .inl (hafter.trans hsame)
      · have hphase : journal.phase = .foreignAdoption := of_decide_eq_true (Bool.and_eq_true_iff.1 hall).1
        rw [hall, hphase] at hafter hanswer
        exact .inr ⟨_, hafter, hanswer⟩
  · -- once it is stored there is nothing left to fail
    split at hends
    · cases hends
    · rcases Fallible.of_exec_bind_error hends with hload | ⟨state, s₁₃, hload, hends⟩
      · cases hload
      · rcases Fallible.of_exec_bind_error hends with hexpect | ⟨left, s₁₄, -, hends⟩
        · exact absurd hexpect expect_ne_error
        · cases hends

end AttackSharkX3
