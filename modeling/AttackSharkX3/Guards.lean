import AttackSharkX3.Ceremony
/-!
# Guards — which actions a journal admits

Every action of a ceremony first looks at the phase, the stage and the subjects of the journal.  `admits` collects these
guards, and one lemma for each action says that it is the guard the action has.
-/
namespace AttackSharkX3
namespace IdentitySetupJournal

/-- **The stage and phase guards of the actions.** -/
def admits (journal : IdentitySetupJournal) : IdentityCeremonyAction → Bool
  | .begin _ => false
  | .reconnected | .capture => journal.stage = .awaitingCapture &&
      (if journal.phase = .initialEnrollment then journal.subjects.length ≤ 1 else journal.subjects = [])
  | .stamp => journal.stage = .stamping && journal.phase ≠ .bleAssociation && journal.subjects ≠ []
  | .adopt => journal.phase = .foreignAdoption && journal.stage = .stamping && journal.subjects ≠ []
  | .associate => journal.phase = .bleAssociation && journal.stage = .awaitingCapture && journal.subjects = []
  | .acceptMigration | .skipMigration => journal.phase = .initialEnrollment && journal.stage = .finalizing &&
      journal.subjects.length = 2 && journal.subjects.all (·.isFullyStamped)
  | .cancel => !journal.irreversible

variable {journal : IdentitySetupJournal}

theorem admits_reconnected : journal.admits .reconnected = true ↔ journal.stage = .awaitingCapture ∧
    ¬ (journal.phase ≠ .initialEnrollment ∧ journal.subjects ≠ []) ∧
    ¬ (journal.phase = .initialEnrollment ∧ 1 < journal.subjects.length) := by
  by_cases hphase : journal.phase = .initialEnrollment
  · simp [admits, hphase]
  · simp [admits, hphase]

theorem admits_stamp : journal.admits .stamp = true ↔
    journal.stage = .stamping ∧ journal.phase ≠ .bleAssociation ∧ journal.subjects ≠ [] := by
  simp [admits, and_assoc]

theorem admits_adopt : journal.admits .adopt = true ↔
    journal.phase = .foreignAdoption ∧ journal.admits .stamp = true := by
  rw [admits_stamp]
  constructor
  · intro h
    simp only [admits, Bool.and_eq_true, decide_eq_true_eq] at h
    exact ⟨h.1.1, h.1.2, by rw [h.1.1]; nofun, h.2⟩
  · rintro ⟨hphase, hstage, -, hsubjects⟩
    simp [admits, hphase, hstage, hsubjects]

theorem admits_associate : journal.admits .associate = true ↔
    ¬ (journal.phase ≠ .bleAssociation ∨ journal.stage ≠ .awaitingCapture ∨ journal.subjects ≠ []) := by
  simp [admits, and_assoc]

theorem admits_migration {action : IdentityCeremonyAction} (ha : action = .acceptMigration ∨ action = .skipMigration) :
    journal.admits action = true ↔ journal.phase = .initialEnrollment ∧ journal.stage = .finalizing ∧
      journal.subjects.length = 2 ∧ journal.subjects.all (·.isFullyStamped) := by
  rcases ha with rfl | rfl <;> simp [admits, and_assoc]

theorem admits_cancel : journal.admits .cancel = true ↔ journal.irreversible = false := by
  simp [admits]

end IdentitySetupJournal

/-! ## The guards of the code -/

section Code

open Effects (Fallible)

theorem ensure_congr {c c' : Prop} [Decidable c] [Decidable c'] (e : ManagerError) (h : c ↔ c') :
    (Fallible.ensure c e : Manager Unit) = Fallible.ensure c' e := by
  by_cases hc : c
  · simp [Fallible.ensure, hc, h.1 hc]
  · simp [Fallible.ensure, hc, mt h.2 hc]

theorem requireAwaitingCapture_eq (journal : IdentitySetupJournal) : requireAwaitingCapture journal =
    Fallible.ensure (journal.admits .reconnected) (.invalidCeremonyAction .reconnected journal.phase journal.stage) :=
  ensure_congr _ IdentitySetupJournal.admits_reconnected.symm

end Code
end AttackSharkX3
