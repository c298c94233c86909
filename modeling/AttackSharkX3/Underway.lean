import AttackSharkX3.Rig
import AttackSharkX3.Steps
import AttackSharkX3.Surface
/-!
# Underway — a ceremony taken up from its journal

A process may stop anywhere in a ceremony, and the next one goes on from the journal.  The journal has the kind from the
start, and the target only once a mouse was captured for it.
-/
namespace AttackSharkX3

open Effects (Fallible)
open Script

variable {script : Script} {s s' : Solo} {kind : IdentityCeremonyKind} {target : Option DeviceId}
  {journal : IdentitySetupJournal}

/-! ## What the store keeps -/

/-- A transaction that begins nothing keeps the kind of the journal it leaves. -/
theorem JournalStep.phase {t : Txn} {state state' : StateFile} (h : JournalStep t state state')
    (ht : ∀ phase, t ≠ .beginCeremony phase) {journal' : IdentitySetupJournal}
    (hj' : state'.identitySetup = some journal') :
    ∃ journal, state.identitySetup = some journal ∧ journal'.phase = journal.phase := by
  cases h with
  | same keeps => exact ⟨journal', keeps ▸ hj', rfl⟩
  | begun heq becomes => exact absurd heq (ht _)
  | pushed _ was _ becomes | reserved _ was _ becomes | marked _ was _ becomes | finished _ was _ becomes
  | associated _ was _ _ becomes =>
    rw [becomes] at hj'
    cases hj'
    exact ⟨_, was, rfl⟩
  | finalized _ _ _ _ becomes | cancelled _ becomes =>
    rw [becomes] at hj'
    cases hj'

/-- What the store of a ceremony on its way keeps. -/
structure KeepsKind (kind : IdentityCeremonyKind) (state : StateFile) : Prop where
  valid : state.validate = .ok ()
  phase : ∀ journal, state.identitySetup = some journal → journal.phase = kind.phase

theorem KeepsKind.commit {state : StateFile} {t : Txn} (hk : KeepsKind kind state) (ht : ∀ phase, t ≠ .beginCeremony phase) :
    KeepsKind kind (commitReliably t state).2 := by
  have hcommit := commits_reliably t state
  refine ⟨hcommit.valid hk.valid, fun journal' hj' => ?_⟩
  obtain ⟨journal, hj, hphase⟩ := hcommit.journalStep.phase ht hj'
  rw [hphase, hk.phase journal hj]

/-- An ordinary transaction leaves the journal. -/
theorem setup_of_ordinary {t : Txn} (ht : t.isOrdinary = true) (state : StateFile) :
    (commitReliably t state).2.identitySetup = state.identitySetup := by
  rcases (commits_reliably t state).cases with h | ⟨h, -⟩
  · rw [h]
  · rw [h]
    exact KeepsJournal.ordinary ht state

/-! ## What the worker reads off the journal -/

namespace IdentitySetupJournal

/-- The next action is given the target of the ceremony. -/
def needsTarget (journal : IdentitySetupJournal) : Bool :=
  (journal.phase = .restore && journal.admits .reconnected) || (journal.phase = .bleAssociation && journal.admits .associate)

end IdentitySetupJournal

theorem kind_of_phase (kind : IdentityCeremonyKind) : kind.phase.kind = kind := by
  cases kind <;> rfl

/-- The worker reads the kind and the last subject's mouse off the journal. -/
theorem emitCurrentCeremony_call (hj : s.store.identitySetup = some journal) (worker : CeremonyWorker) :
    script.call (emitCurrentCeremony worker) s =
      some (.ok (worker.resume (ceremonyProgressFromJournal journal),
        some (.progress (ceremonyView (ceremonyProgressFromJournal journal) worker.discovered))), s.next) := by
  obtain ⟨⟨version, next, selected, devices, mode, setup, mapping⟩, cache, turn⟩ := s
  obtain rfl : setup = some journal := hj
  rfl

theorem needsTarget_iff (hv : s.store.validate = .ok ()) (hj : s.store.identitySetup = some journal) :
    journal.needsTarget = true ↔
      (journal.phase = .restore ∨ journal.phase = .bleAssociation) ∧ journal.stage = .awaitingCapture := by
  have hempty (hphase : journal.phase ≠ .initialEnrollment) (hstage : journal.stage = .awaitingCapture) :
      journal.subjects = [] :=
    ((IdentitySetupJournal.validateStage_awaiting hstage).1 (StateFile.valid_stage hv hj)).2 hphase
  constructor
  · intro h
    simp only [IdentitySetupJournal.needsTarget, IdentitySetupJournal.admits, Bool.or_eq_true, Bool.and_eq_true,
      decide_eq_true_eq] at h
    rcases h with ⟨hphase, hstage, -⟩ | ⟨hphase, ⟨-, hstage⟩, -⟩
    · exact ⟨.inl hphase, hstage⟩
    · exact ⟨.inr hphase, hstage⟩
  · rintro ⟨hphase | hphase, hstage⟩
    · simp [IdentitySetupJournal.needsTarget, IdentitySetupJournal.admits, hphase, hstage,
        hempty (by rw [hphase]; decide) hstage]
    · simp [IdentitySetupJournal.needsTarget, IdentitySetupJournal.admits, hphase, hstage,
        hempty (by rw [hphase]; decide) hstage]

/-! ## The run -/

section Calls

variable [Crc32fast]

/-- **A ceremony on its way**: begun with this kind and target, and not ended since.  Every action and every scan may be
stopped after any operation, and the process with it. -/
inductive Underway (script : Script) (kind : IdentityCeremonyKind) (target : Option DeviceId) : Solo → Prop where
  | begun {s s' : Solo} {progress : IdentityCeremonyProgress} (valid : s.store.validate = .ok ())
      (began : script.call (beginIdentityCeremony kind target) s = some (.ok progress, s')) :
      Underway script kind target s'
  | acted {s : Solo} (before : Underway script kind target s) (action : IdentityCeremonyAction)
      (endpoint : Option DeviceEndpoint) (given : Option DeviceId) (n : Nat)
      (inFlight : (script.stop n (identityCeremonyAction action endpoint given) s).store.identitySetup.isSome = true) :
      Underway script kind target (script.stop n (identityCeremonyAction action endpoint given) s)
  | scanned {s : Solo} (before : Underway script kind target s) (selection : TransportSelection) (n : Nat) :
      Underway script kind target (script.stop n (discover selection) s)
  | restarted {s : Solo} (before : Underway script kind target s) :
      Underway script kind target { s with cache := fun _ => none }

/-- **A ceremony on its way has a journal of its kind.** -/
theorem Underway.keeps (h : Underway script kind target s) : KeepsKind kind s.store ∧
    s.store.identitySetup.isSome = true ∧ (kind.phase = .restore ∨ kind.phase = .bleAssociation → target.isSome = true) := by
  induction h with
  | begun valid began =>
    obtain ⟨-, hvalid, hstore, htarget⟩ := begin_ok began
    have hj := congrArg StateFile.identitySetup hstore
    refine ⟨⟨hvalid, fun journal hjournal => ?_⟩, by rw [hj]; rfl, htarget⟩
    rw [hj] at hjournal
    cases hjournal
    rfl
  | @acted s before action endpoint given n inFlight ih =>
    obtain ⟨hkeeps, hsome, htarget⟩ := ih
    refine ⟨?_, inFlight, htarget⟩
    by_cases hbegin : ∃ kind, action = .begin kind
    · obtain ⟨kind', rfl⟩ := hbegin
      obtain ⟨journal, hj⟩ := Option.isSome_iff_exists.1 hsome
      have hstore : (script.stop n (identityCeremonyAction (.begin kind') endpoint given) s).store = s.store :=
        begin_refused hj n
      rw [hstore]
      exact hkeeps
    · have hcommits := commits_action (fun kind' heq => hbegin ⟨kind', heq⟩) endpoint given
      exact stop_keeps hcommits (fun _ _ ht hk => hk.commit ht) n hkeeps
  | scanned before selection n ih =>
    obtain ⟨hkeeps, hsome, htarget⟩ := ih
    refine ⟨?_, ?_, htarget⟩
    · refine stop_keeps (commits_discover selection) (fun t state ht hk => hk.commit fun phase heq => ?_) n hkeeps
      rw [heq] at ht
      cases ht
    · refine stop_keeps (P := fun state => state.identitySetup.isSome = true) (commits_discover selection) ?_ n hsome
      intro t state ht hs
      rw [setup_of_ordinary ht]
      exact hs
  | restarted before ih => exact ih

/-- **A ceremony is taken up as it was left**: the worker knows its kind, and its target where the next action needs it,
and the next mouse or endpoint presented is taken as it would have been. -/
structure TakesUp (script : Script) (kind : IdentityCeremonyKind) (target : Option DeviceId) (s : Solo)
    (journal : IdentitySetupJournal) (worker : CeremonyWorker) : Prop where
  kind_eq : worker.kind = some kind
  target_eq : journal.needsTarget = true → worker.target = target
  same : ∀ action endpoint, action = .reconnected ∨ action = .associate → journal.admits action = true →
    script.call (identityCeremonyAction action (some endpoint) (actionTarget worker none)) s =
      script.call (identityCeremonyAction action (some endpoint) target) s

/-- Only a restore looks at the target of a presented mouse. -/
theorem reconnected_congr (hj : s.store.identitySetup = some journal) (hphase : journal.phase ≠ .restore)
    (endpoint : DeviceEndpoint) (given given' : Option DeviceId) :
    script.call (ceremonyReconnected endpoint given) s = script.call (ceremonyReconnected endpoint given') s := by
  refine Fallible.exec_bind_congr fun state s₁ hload => ?_
  obtain ⟨rfl, rfl⟩ := of_call_load hload
  refine Fallible.exec_bind_congr fun journal' s₂ hjournal => ?_
  obtain ⟨hj', rfl⟩ := of_call_ofOption hjournal
  obtain rfl : journal = journal' := by
    rw [hj, Option.some.injEq] at hj'
    exact hj'
  refine Fallible.exec_bind_congr fun _ _ _ => Fallible.exec_bind_congr fun _ _ _ => ?_
  refine Fallible.exec_bind_congr fun session _ _ => Fallible.exec_bind_congr fun read _ _ => ?_
  refine Fallible.exec_bind_congr fun adopted _ _ => ?_
  have htarget : restoreTarget s.store journal.phase given = restoreTarget s.store journal.phase given' := by
    rw [restoreTarget, restoreTarget, if_neg hphase, if_neg hphase]
  rw [htarget]

/-- **A ceremony is taken up as it was left** unless it is a restore or an association that awaits its mouse. -/
theorem takes_up_iff (h : Underway script kind target s) (hj : s.store.identitySetup = some journal)
    (worker : CeremonyWorker) :
    ∃ worker' event s', script.call (emitCurrentCeremony worker) s = some (.ok (worker', event), s') ∧
      (TakesUp script kind target s' journal worker' ↔
        ¬ ((kind = .restore ∨ kind = .bleAssociation) ∧ journal.stage = .awaitingCapture)) := by
  obtain ⟨hkeeps, -, htarget⟩ := h.keeps
  have hphase := hkeeps.phase journal hj
  have hneeds : journal.needsTarget = true ↔
      (kind = .restore ∨ kind = .bleAssociation) ∧ journal.stage = .awaitingCapture := by
    rw [needsTarget_iff hkeeps.valid hj, hphase]
    cases kind <;> simp [IdentityCeremonyKind.phase]
  refine ⟨_, _, _, emitCurrentCeremony_call hj worker, ?_⟩
  rw [← hneeds]
  constructor
  · intro htakes hneeded
    obtain ⟨hkind, hstage⟩ := (needsTarget_iff hkeeps.valid hj).1 hneeded
    have hempty : journal.subjects = [] := by
      refine ((IdentitySetupJournal.validateStage_awaiting hstage).1 (StateFile.valid_stage hkeeps.valid hj)).2 ?_
      rcases hkind with hkind | hkind <;> rw [hkind] <;> nofun
    -- without a subject the report names no mouse
    have hnone : none = target := by
      rw [← htakes.target_eq hneeded]
      simp [CeremonyWorker.resume, ceremonyProgressFromJournal, hempty]
    rw [hphase] at hkind
    have hsome := htarget hkind
    rw [← hnone] at hsome
    cases hsome
  · intro hneeded
    refine ⟨?_, fun hneeded' => absurd hneeded' hneeded, ?_⟩
    · show some journal.phase.kind = some kind
      rw [hphase, kind_of_phase]
    · rintro action endpoint (rfl | rfl) hadmits
      · refine reconnected_congr (s := s.next) hj (fun hrestore => hneeded ?_) endpoint _ _
        simp [IdentitySetupJournal.needsTarget, hrestore, hadmits]
      · refine absurd ?_ hneeded
        have hble : journal.phase = .bleAssociation := by
          by_contra hother
          exact IdentitySetupJournal.admits_associate.1 hadmits (.inl hother)
        simp [IdentitySetupJournal.needsTarget, hble, hadmits]

end Calls

namespace Rig

/-- A ceremony that adds a mouse is taken up. -/
theorem takes_up_adding : ∃ s journal worker, Underway (scripted (unit fun _ => none)) .addMouse none s ∧
    TakesUp (scripted (unit fun _ => none)) .addMouse none s.next journal worker := by
  obtain ⟨progress, s, hbegin, htest⟩ := called (scripted (unit fun _ => none)) (beginIdentityCeremony .addMouse none)
    (solo (saved [])) (fun _ s => s.store.identitySetup = some ⟨.addMouse, .awaitingCapture, []⟩) (by decide +kernel)
  have hunderway := Underway.begun (by decide +kernel) hbegin
  obtain ⟨worker, event, s', hemit, hiff⟩ := takes_up_iff hunderway (of_decide_eq_true htest) ⟨none, none, none, []⟩
  rw [emitCurrentCeremony_call (of_decide_eq_true htest)] at hemit
  cases hemit
  exact ⟨s, _, _, hunderway, hiff.2 (by simp)⟩

/-- **The target of a restore is lost** if the process restarts before the mouse is presented. -/
theorem forgets_restored_mouse : ∃ s journal worker, Underway (scripted (unit fun _ => none)) .restore (some mouse1) s ∧
    (scripted (unit fun _ => none)).call (emitCurrentCeremony ⟨none, none, none, []⟩) s = some (.ok worker, s.next) ∧
    ¬ TakesUp (scripted (unit fun _ => none)) .restore (some mouse1) s.next journal worker.1 ∧
    s.store.identitySetup = some journal := by
  obtain ⟨progress, s, hbegin, htest⟩ := called (scripted (unit fun _ => none))
    (beginIdentityCeremony .restore (some mouse1)) (solo (saved [(mouse1, token 1, wired "old")]))
    (fun _ s => s.store.identitySetup = some ⟨.restore, .awaitingCapture, []⟩) (by decide +kernel)
  have hj := of_decide_eq_true htest
  refine ⟨{ s with cache := fun _ => none }, _, _, .restarted (.begun (by decide +kernel) hbegin),
    emitCurrentCeremony_call (s := { s with cache := fun _ => none }) hj _, ?_, hj⟩
  intro htakes
  have hnone : none = some mouse1 := htakes.target_eq rfl
  cases hnone

end Rig
end AttackSharkX3
