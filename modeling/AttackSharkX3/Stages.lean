import AttackSharkX3.Valid
/-!
# Stages — what a valid journal has at each stage

The validator ties the stage of a journal to its subjects: how many there are, and how far they are stamped.
-/
namespace AttackSharkX3
namespace IdentitySetupJournal

variable {journal : IdentitySetupJournal}

theorem validateMode_ok {mode : IdentityMode} : journal.validateMode mode = .ok () ↔
    mode = if journal.phase = .initialEnrollment then .legacy else .persistent := by
  unfold validateMode
  cases journal.phase <;> simp

theorem validateCounts_ok : journal.validateCounts = .ok () ↔
    journal.subjects.length ≤ if journal.phase = .initialEnrollment then 2 else 1 := by
  unfold validateCounts
  cases journal.phase <;> simp

theorem validateStage_awaiting (hstage : journal.stage = .awaitingCapture) : journal.validateStage = .ok () ↔
    (journal.phase = .initialEnrollment → journal.subjects.length ≤ 1 ∧
      ∀ subject ∈ journal.subjects.head?, subject.token.isSome ∧ subject.isFullyStamped) ∧
    (journal.phase ≠ .initialEnrollment → journal.subjects = []) := by
  unfold validateStage
  simp only [hstage]
  cases hphase : journal.phase <;> simp [StateFile.then_ok]

theorem validateStage_stamping (hstage : journal.stage = .stamping) : journal.validateStage = .ok () ↔
    journal.phase ≠ .bleAssociation ∧ ∃ subject captured, journal.subjects.getLast? = some subject ∧
      subject.captured = some captured ∧ captured.profiles.isEmpty = false ∧ subject.isFullyStamped = false := by
  unfold validateStage
  simp only [hstage, StateFile.then_ok, check_ok]
  cases hlast : journal.subjects.getLast? with
  | none => simp
  | some subject =>
    cases hcaptured : subject.captured with
    | none => simp [hcaptured]
    | some captured => simp [hcaptured, StateFile.then_ok]

theorem validateStage_finalizing (hstage : journal.stage = .finalizing) : journal.validateStage = .ok () ↔
    journal.subjects.length = (if journal.phase = .initialEnrollment then 2 else 1) ∧
      (journal.phase ≠ .bleAssociation → ∀ subject ∈ journal.subjects, subject.token.isSome ∧ subject.isFullyStamped) := by
  unfold validateStage
  have hne (n : Nat) (h : journal.subjects.length = n + 1) : journal.subjects ≠ [] := by
    intro hnil
    rw [hnil] at h
    cases h
  cases hphase : journal.phase <;> simp only [hstage, StateFile.then_ok, check_ok, forM_ok, ne_eq, reduceCtorEq,
    not_false_eq_true, if_true, not_true_eq_false, if_false, false_imp_iff, forall_const]
  · exact ⟨fun h => h.2, fun h => ⟨hne 1 h.1, h⟩⟩
  · exact ⟨fun h => h.2, fun h => ⟨hne 0 h.1, h⟩⟩
  · exact ⟨fun h => h.2, fun h => ⟨hne 0 h.1, h⟩⟩
  · exact ⟨fun h => h.2, fun h => ⟨hne 0 h.1, h⟩⟩
  · exact ⟨fun h => ⟨h.2.1, trivial⟩, fun h => ⟨hne 0 h.1, h.1, rfl⟩⟩

section Subjects

variable {devices : BTreeMap DeviceId DeviceState} {subject : IdentitySetupSubject} {reserved : List PhysicalId}

theorem validateOldToken_ok {old : PhysicalId} : validateOldToken devices subject reserved old = .ok () ↔
    old ∉ reserved ∧ ∃ d device, subject.deviceId = some d ∧ devices[d]? = some device ∧
      device.identity.physicalId = some old ∧ subject.token ≠ some old := by
  unfold validateOldToken
  rw [StateFile.then_ok, check_ok]
  refine and_congr_right fun _ => ?_
  cases hd : subject.deviceId with
  | none => simp
  | some d =>
    cases hdevice : devices[d]? with
    | none => simp [hdevice]
    | some device =>
      cases hcurrent : device.identity.physicalId with
      | none => simp [hdevice, hcurrent]
      | some current => simp [hdevice, hcurrent, StateFile.then_ok]

/-- **A valid subject.** -/
theorem validateSubject_ok : validateSubject devices subject reserved = .ok () ↔
    (∀ captured, subject.captured = some captured →
      validateCapturedProfileImage captured s!"identity setup subject {subject.endpoint.locator.debug}" = .ok ()) ∧
    (subject.stampProgress.isEmpty ∨ subject.captured.isSome) ∧
    (∀ captured ∈ subject.captured, subject.stampProgress.isEmpty ∨
      (subject.stampProgress.size = captured.profiles.size ∧
        subject.stampProgress.keys.all captured.profiles.contains)) ∧
    (∀ d, subject.deviceId = some d → devices.contains d) ∧
    (subject.stampProgress.values.any (· = .stamped) = false ∨ subject.token.isSome) ∧
    (∀ token, subject.token = some token → token ∉ reserved ∧
      ∀ (d : DeviceId) (device : DeviceState), devices[d]? = some device → device.identity.physicalId ≠ some token) ∧
    (∀ old, subject.oldToken = some old → validateOldToken devices subject (reserved ++ subject.token.toList) old = .ok ()) := by
  unfold validateSubject
  cases hcaptured : subject.captured <;> cases hdevice : subject.deviceId <;> cases htoken : subject.token <;>
    cases hold : subject.oldToken <;> simp [-List.forM_eq_forM, StateFile.then_ok, forM_toList_ok, and_assoc]

theorem validateShape_restore (hphase : journal.phase = .restore) : journal.validateShape devices = .ok () ↔
    ∀ subject ∈ journal.subjects, subject.oldToken.isSome := by
  unfold validateShape
  rw [hphase]
  simp only [forM_ok, check_ok]

end Subjects

end IdentitySetupJournal

namespace StateFile

variable {state : StateFile} {journal : IdentitySetupJournal}

theorem validateIdentitySetup_ok : state.validateIdentitySetup journal = .ok () ↔
    journal.validateMode state.identityMode = .ok () ∧ journal.validateCounts = .ok () ∧ journal.validateStage = .ok () ∧
      IdentitySetupJournal.validateSubjects state.devices journal.subjects [] = .ok () ∧
      journal.validateShape state.devices = .ok () := by
  simp only [validateIdentitySetup, then_ok]

/-- **The journal of a valid state is valid.** -/
theorem valid_setup (hv : state.validate = .ok ()) (hj : state.identitySetup = some journal) :
    state.validateIdentitySetup journal = .ok () := by
  have h := (validate_ok.1 hv).2.2.2.2.2.2.1
  rw [validateSetup, hj] at h
  exact h

theorem valid_stage (hv : state.validate = .ok ()) (hj : state.identitySetup = some journal) :
    journal.validateStage = .ok () :=
  (validateIdentitySetup_ok.1 (valid_setup hv hj)).2.2.1

/-- **The mouse of a valid restore** has the token that is given up, and the subject another. -/
theorem valid_restoring {subject : IdentitySetupSubject} (hv : state.validate = .ok ())
    (hj : state.identitySetup = some journal) (hphase : journal.phase = .restore) (hsubjects : journal.subjects = [subject]) :
    ∃ d device old, subject.deviceId = some d ∧ state.devices[d]? = some device ∧
      device.identity.physicalId = some old ∧ subject.token ≠ some old := by
  obtain ⟨-, -, -, hsubject, hshape⟩ := validateIdentitySetup_ok.1 (valid_setup hv hj)
  rw [hsubjects, IdentitySetupJournal.validateSubjects, then_ok] at hsubject
  rw [IdentitySetupJournal.validateShape_restore hphase, hsubjects] at hshape
  obtain ⟨old, hold⟩ := Option.isSome_iff_exists.1 (hshape subject (List.mem_singleton_self _))
  obtain ⟨-, -, -, -, -, -, hrotates⟩ := IdentitySetupJournal.validateSubject_ok.1 hsubject.1
  obtain ⟨-, d, device, hd, hdevice, hcurrent, hne⟩ := IdentitySetupJournal.validateOldToken_ok.1 (hrotates old hold)
  exact ⟨d, device, old, hd, hdevice, hcurrent, hne⟩

end StateFile
end AttackSharkX3
