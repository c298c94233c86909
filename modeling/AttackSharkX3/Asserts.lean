import AttackSharkX3.Rig
import AttackSharkX3.Steps
/-!
# Asserts — where an action meets a failed assertion

An action has a result unless one of its assertions fails.  Two can: an association that is shown a mouse with a token,
and an adoption that is shown a mouse without one.
-/
namespace AttackSharkX3

open Effects (Prog Fallible)
open Effects.Fallible (Total)
open Script

variable {α β : Type} {script : Script} {s s' : Solo}

/-! ## Parts that always have a result -/

theorem Script.total {x : Manager α} (hx : Fallible.Only (Op.among fun _ => True) x) : Total script.answer x :=
  hx.total fun _ _ ho => answer_ne_none _ _ ho.2

theorem total_quiet {x : Manager α} (hx : Fallible.Only Op.quiet x) : Total script.answer x := total (among_of_quiet hx)
theorem total_load : Total script.answer Manager.load := total among_load
theorem total_commit (t : Txn) : Total script.answer (Manager.commit t) := total (among_commit trivial)

/-- An assertion that holds goes on. -/
theorem expect_bind_eq_none {site : String} {x : Option α} {f : α → Manager β} :
    script.call (Manager.expect site x >>= f) s = none ↔ ∀ a, x = some a → script.call (f a) s = none := by
  cases x with
  | none => exact ⟨fun _ _ h => (nomatch h), fun _ => rfl⟩
  | some a =>
    constructor
    · rintro h _ ⟨⟩
      exact h
    · exact fun h => h a rfl

/-! ## Begin -/

theorem refuseConnected_ne_none {state : StateFile} {phase : IdentitySetupPhase} {target : Option DeviceId}
    (h : phase = .restore → ∃ targetId device, target = some targetId ∧ state.devices[targetId]? = some device) :
    script.call (refuseConnected state phase target) s ≠ none := by
  by_cases hphase : phase = .restore
  · obtain ⟨targetId, device, htarget, hdevice⟩ := h hphase
    rw [refuseConnected, if_pos hphase]
    intro hnone
    have hnone := expect_bind_eq_none.1 (expect_bind_eq_none.1 hnone targetId htarget) device hdevice
    exact total (.bind (among_of_quiet quiet_list) fun _ => .bind (among_of_quiet quiet_list) fun _ => .ensure) s
      hnone
  · rw [refuseConnected, if_neg hphase]
    exact total .pure s

theorem begin_ne_none (kind : IdentityCeremonyKind) (target : Option DeviceId) :
    script.call (beginIdentityCeremony kind target) s ≠ none := by
  intro h
  obtain ⟨state, s₁, -, h₁⟩ := total_load.bind_eq_none.1 h
  obtain ⟨_, s₂, -, h₂⟩ := (total (by split; exact .throw; exact .pure)).bind_eq_none.1 h₁
  obtain ⟨_, s₃, -, h₃⟩ := (total (.ite .ensure .ensure)).bind_eq_none.1 h₂
  obtain ⟨_, s₄, htarget, h₄⟩ := (total_quiet quiet_requireTarget).bind_eq_none.1 h₃
  rcases Fallible.exec_bind_eq_none.1 h₄ with hnone | ⟨_, s₅, -, h₅⟩
  · exact refuseConnected_ne_none (fun hphase => of_requireTarget htarget (.inl hphase)) hnone
  obtain ⟨_, s₆, hcommit, h₆⟩ := (total_commit _).bind_eq_none.1 h₅
  obtain ⟨state', s₇, hload, h₇⟩ := total_load.bind_eq_none.1 h₆
  obtain ⟨rfl, rfl⟩ := of_call_load hload
  obtain ⟨rfl, -, -⟩ := of_call_commit hcommit
  cases h₇

/-! ## Stamp -/

theorem stamp_ne_none [Crc32fast] (hv : s.store.validate = .ok ()) : script.call ceremonyStamp s ≠ none := by
  intro h
  obtain ⟨state, s₁, hload, h₁⟩ := total_load.bind_eq_none.1 h
  obtain ⟨rfl, rfl⟩ := of_call_load hload
  obtain ⟨journal, s₂, hjournal, h₂⟩ := (total .ofOption).bind_eq_none.1 h₁
  obtain ⟨hj, rfl⟩ := of_call_ofOption hjournal
  obtain ⟨_, s₃, hguard, h₃⟩ := (total .ensure).bind_eq_none.1 h₂
  obtain ⟨⟨hstage, -⟩, rfl⟩ := of_call_ensure hguard
  obtain ⟨-, subject, captured, hlast, hcaptured, -⟩ :=
    (IdentitySetupJournal.validateStage_stamping hstage).1 (StateFile.valid_stage hv hj)
  obtain ⟨_, s₄, hreserve, h₄⟩ := (total (among_reserveToken (fun _ => trivial) ..)).bind_eq_none.1 h₃
  obtain ⟨token, hj'⟩ := reserveToken_ok (s := s.next) hj hlast hreserve
  obtain ⟨state', s₅, hload, h₅⟩ := total_load.bind_eq_none.1 h₄
  obtain ⟨rfl, rfl⟩ := of_call_load hload
  obtain ⟨journal', s₆, hjournal, h₆⟩ := (total .ofOption).bind_eq_none.1 h₅
  obtain ⟨hsetup, rfl⟩ := of_call_ofOption hjournal
  obtain rfl : journal.withLast { subject with token := some token } = journal' := by
    rw [hj', Option.some.injEq] at hsetup
    exact hsetup
  have h₇ := expect_bind_eq_none.1 h₆ _ (IdentitySetupJournal.withLast_getLast? ..)
  have h₈ := expect_bind_eq_none.1 (expect_bind_eq_none.1 h₇ token rfl) captured hcaptured
  -- the rest has no assertion
  refine total ?_ _ h₈
  refine .bind (among_of_quiet quiet_open) fun _ => .bind (among_stampProfiles (fun _ => trivial) ..) fun _ => ?_
  refine .bind (among_restoreMetadata ..) fun _ => .bind (among_commit trivial) fun _ => .bind among_load fun state => ?_
  split <;> exact .pure

theorem adopt_ne_none [Crc32fast] (hv : s.store.validate = .ok ()) : script.call ceremonyAdopt s ≠ none := by
  intro h
  obtain ⟨state, s₁, hload, h₁⟩ := total_load.bind_eq_none.1 h
  obtain ⟨rfl, rfl⟩ := of_call_load hload
  obtain ⟨journal, s₂, hjournal, h₂⟩ := (total .ofOption).bind_eq_none.1 h₁
  obtain ⟨hj, rfl⟩ := of_call_ofOption hjournal
  obtain ⟨_, s₃, hguard, h₃⟩ := (total .ensure).bind_eq_none.1 h₂
  obtain ⟨-, rfl⟩ := of_call_ensure hguard
  exact stamp_ne_none (s := s.next) hv h₃

/-! ## Reconnected -/

section Reconnected

variable {journal : IdentitySetupJournal} {state : StateFile} {endpoint : DeviceEndpoint}

theorem eligibility_eq_none {decode : WatermarkDecode} : script.call (eligibility state journal endpoint decode) s = none ↔
    journal.phase = .bleAssociation ∧ ∃ token, decode = .valid token ∧ isReservedToken token = false := by
  cases decode with
  | valid token =>
    by_cases hreserved : isReservedToken token = true
    · simp [eligibility, eligibleToken, hreserved, call]
    · cases hphase : journal.phase with
      | bleAssociation =>
        simp only [eligibility, eligibleToken, hreserved, hphase, Bool.false_eq_true, if_false, true_and]
        exact ⟨fun _ => ⟨token, rfl, by simpa using hreserved⟩, fun _ => rfl⟩
      | foreignAdoption =>
        simp only [eligibility, eligibleToken, hreserved, hphase, Bool.false_eq_true, if_false, reduceCtorEq, false_and,
          iff_false]
        exact total (.bind .ensure fun _ => .bind .ensure fun _ => .pure) s
      | initialEnrollment | addMouse | restore => simp [eligibility, eligibleToken, hreserved, hphase, call]
  | unsupportedVersion version => simp [eligibility, call]
  | absent | malformed => simp [eligibility, call]

variable [Crc32fast]

theorem stampPlan_eq_none {phase : IdentitySetupPhase} {adopted : Option PhysicalId} {evidence : CapturedProfileImage} :
    script.call (stampPlan phase adopted evidence) s = none ↔ phase = .foreignAdoption ∧ adopted = none := by
  by_cases hphase : phase = .foreignAdoption
  · rw [stampPlan, if_pos hphase, expect_bind_eq_none]
    constructor
    · intro h
      refine ⟨hphase, ?_⟩
      by_contra hsome
      obtain ⟨token, htoken⟩ := Option.ne_none_iff_exists'.1 hsome
      exact total .ofExcept s (h token htoken)
    · rintro ⟨-, rfl⟩ token htoken
      cases htoken
  · rw [stampPlan, if_neg hphase]
    exact ⟨fun h => absurd h (total .pure s), fun h => absurd h.1 hphase⟩

variable {target : Option DeviceId}

/-- **A mouse that an assertion excludes**: one with an assignable token shown to an association, and a blank one shown to
an adoption. -/
inductive Excluded (script : Script) (s : Solo) (endpoint : DeviceEndpoint) : IdentitySetupPhase → Prop where
  | marked {session : Session} {profile : ProfileId} {token : PhysicalId} {s₁ s₂ : Solo}
      (opened : script.call (Manager.open_ endpoint) s = some (.ok session, s₁))
      (reads : script.call (currentWatermark session) s₁ = some (.ok (profile, .valid token), s₂))
      (assignable : isReservedToken token = false) : Excluded script s endpoint .bleAssociation
  | blank {session : Session} {profile : ProfileId} {decode : WatermarkDecode} {capture : ProfileCapture} {s₁ s₂ s₃ : Solo}
      (opened : script.call (Manager.open_ endpoint) s = some (.ok session, s₁))
      (reads : script.call (currentWatermark session) s₁ = some (.ok (profile, decode), s₂))
      (unmarked : decode = .absent ∨ decode = .malformed)
      (captured : script.call (captureAllProfiles session) s₂ = some (.ok capture, s₃)) :
      Excluded script s endpoint .foreignAdoption

/-- **A presented mouse is met by a failed assertion** only where the ceremony admits it and an assertion excludes it. -/
theorem reconnected_eq_none : script.call (ceremonyReconnected endpoint target) s = none ↔
    ∃ journal, s.store.identitySetup = some journal ∧ journal.admits .reconnected = true ∧
      isUsbTransport endpoint.transport = true ∧ Excluded script s.next endpoint journal.phase := by
  constructor
  · intro h
    obtain ⟨state, s₁, hload, h₁⟩ := total_load.bind_eq_none.1 h
    obtain ⟨rfl, rfl⟩ := of_call_load hload
    obtain ⟨journal, s₂, hjournal, h₂⟩ := (total .ofOption).bind_eq_none.1 h₁
    obtain ⟨hj, rfl⟩ := of_call_ofOption hjournal
    obtain ⟨_, s₃, hguard, h₃⟩ := (total .ensure).bind_eq_none.1 h₂
    obtain ⟨hadmits, rfl⟩ := of_call_requireAwaitingCapture hguard
    obtain ⟨_, s₄, hconnects, h₄⟩ := (total .ensure).bind_eq_none.1 h₃
    obtain ⟨husb, rfl⟩ := of_call_ensure hconnects
    obtain ⟨session, s₅, hopen, h₅⟩ := (total_quiet quiet_open).bind_eq_none.1 h₄
    obtain ⟨⟨profile, decode⟩, s₆, hdecode, h₆⟩ := (total_quiet (quiet_currentWatermark session)).bind_eq_none.1 h₅
    refine ⟨journal, hj, hadmits, husb, ?_⟩
    rcases Fallible.exec_bind_eq_none.1 h₆ with hnone | ⟨adopted, s₇, heligible, h₇⟩
    · obtain ⟨hphase, token, rfl, hassignable⟩ := eligibility_eq_none.1 hnone
      rw [hphase]
      exact .marked hopen hdecode hassignable
    obtain ⟨rfl, hadopted⟩ := eligibility_ok heligible
    obtain ⟨⟨device, old⟩, s₈, htarget, h₈⟩ := (total_quiet quiet_restoreTarget).bind_eq_none.1 h₇
    obtain ⟨rfl, -, -⟩ := restoreTarget_ok htarget
    obtain ⟨capture, s₉, hcapture, h₉⟩ := (total_quiet (quiet_captureAllProfiles session)).bind_eq_none.1 h₈
    obtain ⟨now, s₁₀, -, h₁₀⟩ := (total_quiet quiet_now).bind_eq_none.1 h₉
    rcases Fallible.exec_bind_eq_none.1 h₁₀ with hnone | ⟨plan, s₁₁, -, h₁₁⟩
    · obtain ⟨hphase, rfl⟩ := stampPlan_eq_none.1 hnone
      rcases hadopted with ⟨hunmarked, -⟩ | ⟨_, -, -, hsome, -⟩
      · rw [hphase]
        exact .blank hopen hdecode hunmarked hcapture
      · cases hsome
    obtain ⟨_, s₁₂, hcommit, h₁₂⟩ := (total_commit _).bind_eq_none.1 h₁₁
    obtain ⟨rfl, hanswer, -⟩ := of_call_commit hcommit
    -- the journal that was just stored is there
    split at h₁₂
    · cases h₁₂
    · next hstamping =>
      obtain ⟨state, s₁₃, hload, h₁₃⟩ := total_load.bind_eq_none.1 h₁₂
      obtain ⟨rfl, rfl⟩ := of_call_load hload
      obtain ⟨current, -, -, -, hbecomes⟩ := Txn.journalSubject_ok (Prod.ext hanswer rfl)
      rcases hbecomes with ⟨hall, -⟩ | ⟨-, hstored⟩
      · exact absurd hall hstamping
      · have hleft := congrArg StateFile.identitySetup hstored
        exact absurd (expect_bind_eq_none.1 h₁₃ _ hleft) (total .pure _)
  · rintro ⟨journal, hj, hadmits, husb, hexcluded⟩
    have hjournal : script.call (requireJournal s.store) s.next = some (.ok journal, s.next) := by
      rw [requireJournal, hj]
      rfl
    have hguard : script.call (requireAwaitingCapture journal) s.next = some (.ok (), s.next) := by
      rw [requireAwaitingCapture_eq]
      exact Fallible.exec_ensure_true hadmits _
    refine (Fallible.exec_bind_ok call_load).trans ((Fallible.exec_bind_ok hjournal).trans ?_)
    refine (Fallible.exec_bind_ok hguard).trans ((Fallible.exec_bind_ok (Fallible.exec_ensure_true husb s.next)).trans ?_)
    generalize hphase : journal.phase = phase at hexcluded
    cases hexcluded with
    | marked opened reads assignable =>
      refine (Fallible.exec_bind_ok opened).trans ((Fallible.exec_bind_ok reads).trans ?_)
      exact Fallible.exec_bind_eq_none.2 (.inl (eligibility_eq_none.2 ⟨hphase, _, rfl, assignable⟩))
    | @blank _ _ decode _ _ s₂ _ opened reads unmarked captured =>
      have heligible : script.call (eligibility s.store journal endpoint decode) s₂ = some (.ok none, s₂) := by
        rcases unmarked with rfl | rfl <;> rfl
      have htarget : script.call (restoreTarget s.store .foreignAdoption target) s₂ = some (.ok (none, none), s₂) := rfl
      refine (Fallible.exec_bind_ok opened).trans ((Fallible.exec_bind_ok reads).trans ?_)
      refine (Fallible.exec_bind_ok heligible).trans ((Fallible.exec_bind_ok htarget).trans ?_)
      refine (Fallible.exec_bind_ok captured).trans ((Fallible.exec_bind_ok rfl).trans ?_)
      exact Fallible.exec_bind_eq_none.2 (.inl (stampPlan_eq_none.2 ⟨rfl, rfl⟩))

/-! ## The actions -/

/-- The action a captured mouse goes on with. -/
def IdentitySetupPhase.next : IdentitySetupPhase → IdentityCeremonyAction
  | .foreignAdoption => .adopt
  | _ => .stamp

/-- **The action ends**, and a mouse it accepted is left in a valid state that goes on, or is done. -/
def EndsWell (script : Script) (s : Solo) (action : IdentityCeremonyAction) (endpoint : Option DeviceEndpoint)
    (target : Option DeviceId) : Prop :=
  script.call (identityCeremonyAction action endpoint target) s ≠ none ∧
    (action = .reconnected ∨ action = .capture → ∀ progress s',
      script.call (identityCeremonyAction action endpoint target) s = some (.ok progress, s') →
        s'.store.validate = .ok () ∧
          ((∃ journal, s'.store.identitySetup = some journal ∧ journal.admits journal.phase.next = true) ∨
            (s'.store.identitySetup = none ∧ progress.stage = .complete)))

theorem reconnected_leaves {progress : IdentityCeremonyProgress}
    (h : script.call (ceremonyReconnected endpoint target) s = some (.ok progress, s')) :
    s'.store.validate = .ok () ∧
      ((∃ journal, s'.store.identitySetup = some journal ∧ journal.admits journal.phase.next = true) ∨
        (s'.store.identitySetup = none ∧ progress.stage = .complete)) := by
  obtain ⟨journal, subject, haccepts, hend⟩ := reconnected_ok h
  refine ⟨haccepts.valid, ?_⟩
  rcases haccepts.becomes with ⟨-, -, hnone⟩ | hstored
  · refine .inr ⟨hnone, hend.resolve_right ?_⟩
    rw [hnone]
    nofun
  · have hj : s'.store.identitySetup = some ((journal.push subject).withStage .stamping) := by rw [hstored]
    have hphase := ((IdentitySetupJournal.validateStage_stamping rfl).1 (StateFile.valid_stage haccepts.valid hj)).1
    have hstamp : ((journal.push subject).withStage .stamping).admits .stamp = true :=
      IdentitySetupJournal.admits_stamp.2 ⟨rfl, hphase, by simp [IdentitySetupJournal.push, IdentitySetupJournal.withStage]⟩
    refine .inl ⟨_, hj, ?_⟩
    cases hnext : ((journal.push subject).withStage .stamping).phase with
    | foreignAdoption => exact IdentitySetupJournal.admits_adopt.2 ⟨hnext, hstamp⟩
    | initialEnrollment | addMouse | restore | bleAssociation => exact hstamp

/-- **An action ends well unless it is shown a mouse an assertion excludes.** -/
theorem action_ends_well_iff (hv : s.store.validate = .ok ()) (action : IdentityCeremonyAction)
    (endpoint : Option DeviceEndpoint) (target : Option DeviceId) : EndsWell script s action endpoint target ↔
      ¬ ((action = .reconnected ∨ action = .capture) ∧ ∃ journal shown, s.store.identitySetup = some journal ∧
        endpoint = some shown ∧ journal.admits .reconnected = true ∧ isUsbTransport shown.transport = true ∧
        Excluded script s.next shown journal.phase) := by
  constructor
  · rintro ⟨hends, -⟩ ⟨ha, journal, shown, hj, rfl, hadmits, husb, hexcluded⟩
    have hnone : script.call (ceremonyReconnected shown target) s = none :=
      reconnected_eq_none.2 ⟨journal, hj, hadmits, husb, hexcluded⟩
    rcases ha with rfl | rfl <;> exact hends hnone
  · intro h
    have hpresented (ha : action = .reconnected ∨ action = .capture) (shown : DeviceEndpoint)
        (hendpoint : endpoint = some shown) : script.call (ceremonyReconnected shown target) s ≠ none := by
      intro hnone
      obtain ⟨journal, hj, hadmits, husb, hexcluded⟩ := reconnected_eq_none.1 hnone
      exact h ⟨ha, journal, shown, hj, hendpoint, hadmits, husb, hexcluded⟩
    constructor
    · cases action with
      | begin kind => exact begin_ne_none kind target
      | reconnected | capture =>
        cases endpoint with
        | none => exact Option.some_ne_none _
        | some shown => exact hpresented (by simp) shown rfl
      | stamp => exact stamp_ne_none hv
      | adopt => exact adopt_ne_none hv
      | associate => exact total (.bind .ofOption fun shown => among_associate (fun _ _ => trivial) shown target) s
      | acceptMigration | skipMigration => exact total (among_finalizeMigration (fun _ => trivial) _) s
      | cancel => exact total (among_cancel trivial) s
    · intro ha progress s' hcall
      cases endpoint with
      | none => rcases ha with rfl | rfl <;> cases hcall
      | some shown => rcases ha with rfl | rfl <;> exact reconnected_leaves hcall

end Reconnected

namespace Rig

/-- A mouse without a token is taken by a ceremony that adds it. -/
theorem ends_adding_blank :
    EndsWell (scripted (unit fun _ => none)) (solo (begun .addMouse)) .reconnected (some (wired "a")) none := by
  refine (action_ends_well_iff (by decide +kernel) _ _ _).2 ?_
  rintro ⟨-, journal, shown, hj, -, -, -, hexcluded⟩
  cases hj
  cases hexcluded

/-- **The two failed assertions**: a blank mouse shown to an adoption, and a marked one shown to an association. -/
theorem asserts_on_excluded_mice :
    (begun .foreignAdoption).validate = .ok () ∧ (begun .bleAssociation).validate = .ok () ∧
      ¬ EndsWell (scripted (unit fun _ => none)) (solo (begun .foreignAdoption)) .reconnected (some (wired "a")) none ∧
      ¬ EndsWell (scripted (unit fun _ => some (token 1))) (solo (begun .bleAssociation)) .reconnected (some (wired "a"))
        none := by
  refine ⟨by decide +kernel, by decide +kernel, fun h => h.1 ?_, fun h => h.1 ?_⟩
  · rw [← Option.isNone_iff_eq_none]
    decide +kernel
  · rw [← Option.isNone_iff_eq_none]
    decide +kernel

end Rig
end AttackSharkX3
