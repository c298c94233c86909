import AttackSharkX3.Rig
import AttackSharkX3.Steps
import AttackSharkX3.Surface
/-!
# Offers — what the popup offers against what the manager accepts

The popup is made of a report that has one stage for several journals.  It agrees with the guards unless the ceremony is
first-time setup, waits to be finished, or has stamped a profile.
-/
namespace AttackSharkX3

open Effects (Fallible)
open Script

/-- The action the primary button asks for. -/
def CeremonyPrompt.action : CeremonyPrompt → Option IdentityCeremonyAction
  | .reconnect => some .reconnected
  | .stamp => some .stamp
  | .adopt => some .adopt
  | .associate => some .associate
  | .none | .done => Option.none

variable {script : Script} {s : Solo} {journal : IdentitySetupJournal} {discovered : List DiscoveredDevice}

/-! ## What a journal is shown as -/

/-- A journal that waits to be finished is shown as a finished ceremony. -/
theorem view_finalizing (hstage : journal.stage = .finalizing) :
    (ceremonyView (ceremonyProgressFromJournal journal) discovered).prompt.action = none ∧
      (ceremonyView (ceremonyProgressFromJournal journal) discovered).migrationOffered = false := by
  simp [ceremonyView, ceremonyPrompt, ceremonyProgressFromJournal, hstage, CeremonyPrompt.action,
    IdentityCeremonyStage.isTerminal]

/-- Before that a ceremony can always be cancelled, and first-time setup always decided. -/
theorem view_unfinished (hstage : journal.stage ≠ .finalizing) :
    (ceremonyView (ceremonyProgressFromJournal journal) discovered).canCancel = true ∧
      (ceremonyView (ceremonyProgressFromJournal journal) discovered).migrationOffered =
        decide (journal.phase = .initialEnrollment) := by
  cases hstage' : journal.stage with
  | finalizing => exact absurd hstage' hstage
  | awaitingCapture | stamping =>
    cases hphase : journal.phase <;>
      simp [ceremonyView, ceremonyProgressFromJournal, hstage', hphase, IdentityCeremonyStage.isTerminal,
        IdentitySetupPhase.kind]

theorem admits_migration_finalizing (h : journal.admits .acceptMigration = true) : journal.stage = .finalizing :=
  ((IdentitySetupJournal.admits_migration (.inl rfl)).1 h).2.1

theorem view_awaiting (hstage : journal.stage = .awaitingCapture) :
    (ceremonyView (ceremonyProgressFromJournal journal) discovered).prompt.action =
      some (if journal.phase = .bleAssociation then .associate else .reconnected) := by
  cases hphase : journal.phase <;>
    simp [ceremonyView, ceremonyPrompt, ceremonyProgressFromJournal, hstage, hphase, IdentitySetupPhase.kind,
      CeremonyPrompt.action]

theorem view_stamping (hstage : journal.stage = .stamping) :
    (ceremonyView (ceremonyProgressFromJournal journal) discovered).prompt.action =
      some (if journal.phase = .foreignAdoption then .adopt else .stamp) := by
  cases hphase : journal.phase <;>
    simp [ceremonyView, ceremonyPrompt, ceremonyProgressFromJournal, hstage, hphase, IdentitySetupPhase.kind,
      CeremonyPrompt.action]

/-- The button of an unfinished ceremony other than first-time setup does what is next. -/
theorem view_prompt (hv : s.store.validate = .ok ()) (hj : s.store.identitySetup = some journal)
    (hphase : journal.phase ≠ .initialEnrollment) (hstage : journal.stage ≠ .finalizing) :
    ∃ action, (ceremonyView (ceremonyProgressFromJournal journal) discovered).prompt.action = some action ∧
      journal.admits action = true := by
  have hvalid := StateFile.valid_stage hv hj
  cases hstage' : journal.stage with
  | finalizing => exact absurd hstage' hstage
  | awaitingCapture =>
    have hempty := ((IdentitySetupJournal.validateStage_awaiting hstage').1 hvalid).2 hphase
    refine ⟨_, view_awaiting hstage', ?_⟩
    split
    · next hble => exact IdentitySetupJournal.admits_associate.2 (by simp [hble, hstage', hempty])
    · exact IdentitySetupJournal.admits_reconnected.2 (by simp [hphase, hstage', hempty])
  | stamping =>
    obtain ⟨hble, subject, captured, hlast, -⟩ := (IdentitySetupJournal.validateStage_stamping hstage').1 hvalid
    have hsubjects : journal.subjects ≠ [] := by
      intro hnil
      rw [hnil] at hlast
      cases hlast
    have hstamp : journal.admits .stamp = true := IdentitySetupJournal.admits_stamp.2 ⟨hstage', hble, hsubjects⟩
    refine ⟨_, view_stamping hstage', ?_⟩
    split
    · next hadopts => exact IdentitySetupJournal.admits_adopt.2 ⟨hadopts, hstamp⟩
    · exact hstamp

/-! ## Agreement -/

section Agreement

variable [Crc32fast]

/-- **The popup of a stored journal offers what the manager accepts.** -/
structure OffersAccepted (script : Script) (s : Solo) (journal : IdentitySetupJournal) (view : CeremonyView) : Prop where
  goesOn : view.prompt.action.isSome = true ∨ view.migrationOffered = true
  prompts : ∀ action, view.prompt.action = some action → journal.admits action = true
  offers : view.migrationOffered = true → journal.admits .acceptMigration = true ∧ journal.admits .skipMigration = true
  cancels : view.canCancel = true ↔ ∃ progress s', script.call ceremonyCancel s = some (.ok progress, s')
  migrates : view.migrationOffered = true ↔ journal.admits .acceptMigration = true
  remembers : ∀ worker worker' event s',
    script.call (handleCeremonyProgress worker (ceremonyProgressFromJournal journal)) s = some (.ok (worker', event), s') →
      worker'.kind = worker.kind ∧ worker'.target = worker.target

/-- **The popup offers what is accepted** outside first-time setup, while the ceremony is not to be finished and no
profile is stamped. -/
theorem offers_accepted_iff (hv : s.store.validate = .ok ()) (hj : s.store.identitySetup = some journal)
    (discovered : List DiscoveredDevice) :
    OffersAccepted script s journal (ceremonyView (ceremonyProgressFromJournal journal) discovered) ↔
      journal.phase ≠ .initialEnrollment ∧ journal.stage ≠ .finalizing ∧ journal.irreversible = false := by
  constructor
  · intro h
    have hstage : journal.stage ≠ .finalizing := by
      intro hfinalizing
      obtain ⟨hprompt, hoffered⟩ := @view_finalizing _ discovered hfinalizing
      rcases h.goesOn with hsome | hmigration
      · rw [hprompt] at hsome
        cases hsome
      · rw [hoffered] at hmigration
        cases hmigration
    obtain ⟨hcancel, hoffered⟩ := @view_unfinished _ discovered hstage
    refine ⟨?_, hstage, ?_⟩
    · intro hphase
      rw [decide_eq_true hphase] at hoffered
      exact hstage (admits_migration_finalizing (h.offers hoffered).1)
    · exact IdentitySetupJournal.admits_cancel.1 ((cancel_accepted hv hj).1 (h.cancels.1 hcancel))
  · rintro ⟨hphase, hstage, hreversible⟩
    obtain ⟨hcancel, hoffered⟩ := @view_unfinished _ discovered hstage
    rw [decide_eq_false hphase] at hoffered
    obtain ⟨action, hprompt, hadmits⟩ := @view_prompt _ _ discovered hv hj hphase hstage
    constructor
    · exact .inl (Option.isSome_iff_exists.2 ⟨action, hprompt⟩)
    · intro action' hprompt'
      rw [hprompt, Option.some.injEq] at hprompt'
      exact hprompt' ▸ hadmits
    · intro hmigration
      rw [hoffered] at hmigration
      cases hmigration
    · exact iff_of_true hcancel ((cancel_accepted hv hj).2 (IdentitySetupJournal.admits_cancel.2 hreversible))
    · rw [hoffered]
      exact iff_of_false nofun fun hmigration => hstage (admits_migration_finalizing hmigration)
    · intro worker worker' event s' hcall
      have hterminal : (ceremonyProgressFromJournal journal).stage.isTerminal = false := by
        cases hstage' : journal.stage with
        | finalizing => exact absurd hstage' hstage
        | awaitingCapture | stamping => simp [ceremonyProgressFromJournal, hstage', IdentityCeremonyStage.isTerminal]
      rw [handleCeremonyProgress, hterminal] at hcall
      cases hcall
      exact ⟨rfl, rfl⟩

end Agreement

namespace Rig

/-- The popup of a ceremony that waits for the mouse to add. -/
theorem offers_adding : OffersAccepted (scripted (unit fun _ => none)) (solo (begun .addMouse))
    ⟨.addMouse, .awaitingCapture, []⟩ (ceremonyView (ceremonyProgressFromJournal ⟨.addMouse, .awaitingCapture, []⟩) []) :=
  (offers_accepted_iff (by decide +kernel) rfl []).2 (by decide)

/-- **Three popups that the manager contradicts**: first-time setup is to be decided before it can be, is shown as done
while it waits for the decision, and a half-stamped mouse can be cancelled. -/
theorem offers_unaccepted :
    (legacyWith ⟨.initialEnrollment, .awaitingCapture, []⟩).validate = .ok () ∧ (legacyWith parked).validate = .ok () ∧
      (persistentWith halfStamped).validate = .ok () ∧
      ¬ OffersAccepted (scripted (unit fun _ => none)) (solo (legacyWith ⟨.initialEnrollment, .awaitingCapture, []⟩))
        ⟨.initialEnrollment, .awaitingCapture, []⟩
        (ceremonyView (ceremonyProgressFromJournal ⟨.initialEnrollment, .awaitingCapture, []⟩) []) ∧
      ¬ OffersAccepted (scripted (unit fun _ => none)) (solo (legacyWith parked)) parked
        (ceremonyView (ceremonyProgressFromJournal parked) []) ∧
      ¬ OffersAccepted (scripted (unit fun _ => none)) (solo (persistentWith halfStamped)) halfStamped
        (ceremonyView (ceremonyProgressFromJournal halfStamped) []) := by
  refine ⟨by decide +kernel, by decide +kernel, by decide +kernel, fun h => ?_, fun h => ?_, fun h => ?_⟩
  · exact absurd (h.offers (by decide)).1 (by decide)
  · exact absurd h.goesOn (by decide)
  · obtain ⟨progress, s', hcall⟩ := h.cancels.1 (by decide)
    obtain ⟨journal, hj, hadmits, -⟩ := cancel_ok hcall
    cases hj
    exact absurd hadmits (by decide +kernel)

end Rig
end AttackSharkX3
