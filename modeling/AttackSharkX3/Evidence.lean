import AttackSharkX3.Valid
/-!
# Evidence — what a history of reads, writes, marks and imports leaves of one resource

The validator accepts a resource exactly when its claim is supported by the observation next to it.  Every transition
keeps that, in any order and with clocks that may run backwards, because each one that sets a claim sets or checks what
the claim rests on.
-/
namespace AttackSharkX3

/-- The two marks a verification may leave. -/
inductive PersistenceMark where
  | profileReload
  | powerCycle
deriving DecidableEq

namespace ResourceState

variable {T : Type} {resource : ResourceState T}

theorem supported_recordAckWrite {value : T} {source : DesiredSource} {now : Timestamp} :
    (resource.recordAckWrite value source now).Supported := by
  intro desired hdesired
  cases hdesired
  rfl

theorem supported_setImported {value : T} {now : Timestamp} : (resource.setImported value now).Supported := by
  intro desired hdesired
  cases hdesired
  rfl

theorem supported_invalidatePersistence (h : resource.Supported) : resource.invalidatePersistence.Supported := by
  intro desired hdesired
  obtain ⟨before, hbefore, rfl⟩ := Option.map_eq_some_iff.1 hdesired
  have hsupported := h before hbefore
  cases happlication : before.verification.application with
  | notSent | acknowledged => rfl
  | readbackVerified =>
    simp only [happlication] at hsupported ⊢
    obtain ⟨observed, hobserved, hvalue, hcurrent, -⟩ := hsupported
    exact ⟨observed, hobserved, hvalue, hcurrent, by simp [PersistenceVerification.verifiedAt]⟩
  | mismatch =>
    simp only [happlication] at hsupported ⊢
    obtain ⟨observed, hobserved, hdiffers, -⟩ := hsupported
    exact ⟨observed, hobserved, hdiffers, trivial⟩

/-- **What a persistence claim rests on.** -/
def Persisted (resource : ResourceState T) : Prop :=
  ∀ desired, resource.desired = some desired → desired.verification.persistence ≠ .unknown →
    ∃ observed verifiedAt, resource.observed = some observed ∧
      desired.verification.persistence.verifiedAt = some verifiedAt ∧
      desired.verification.application = .readbackVerified ∧ desired.value = observed.value ∧
      desired.updatedAt.unixSeconds ≤ observed.observedAt.unixSeconds ∧
      observed.observedAt.unixSeconds ≤ verifiedAt.unixSeconds

theorem Supported.persisted (h : resource.Supported) : resource.Persisted := by
  intro desired hdesired hclaim
  have hsupported := h desired hdesired
  cases happlication : desired.verification.application with
  | notSent | acknowledged =>
    simp only [happlication] at hsupported
    exact absurd hsupported hclaim
  | mismatch =>
    simp only [happlication] at hsupported
    obtain ⟨_, _, _, hunknown⟩ := hsupported
    exact absurd hunknown hclaim
  | readbackVerified =>
    simp only [happlication] at hsupported
    obtain ⟨observed, hobserved, hvalue, hcurrent, hafter⟩ := hsupported
    obtain ⟨verifiedAt, hat⟩ : ∃ verifiedAt, desired.verification.persistence.verifiedAt = some verifiedAt := by
      cases hpersistence : desired.verification.persistence with
      | unknown => exact absurd hpersistence hclaim
      | profileReloadVerified at_ | powerCycleVerified at_ => exact ⟨at_, rfl⟩
    exact ⟨observed, verifiedAt, hobserved, hat, rfl, hvalue, hcurrent, hafter verifiedAt hat⟩

end ResourceState

section Transitions

variable {T : Type} [DecidableEq T]

def PersistenceMark.tryMark : PersistenceMark → ResourceState T → Timestamp → ResourceState T × Bool
  | profileReload => ResourceState.tryMarkProfileReloadVerified
  | powerCycle => ResourceState.tryMarkPowerCycleVerified

/-- **One transition of a resource's evidence.** -/
inductive EvidenceStep (T : Type) where
  | recordAckWrite (value : T) (source : DesiredSource) (now : Timestamp)
  | recordReadbackWrite (desiredValue observedValue : T) (source : DesiredSource) (now : Timestamp)
  | reconcileObservation (value : T) (now : Timestamp)
  | tryMarkProfileReloadVerified (verifiedAt : Timestamp)
  | tryMarkPowerCycleVerified (verifiedAt : Timestamp)
  | invalidatePersistence
  | markAllOrInvalidate (verifiedAt : Timestamp) (mark : PersistenceMark)
  | setImported (value : T) (now : Timestamp)

def EvidenceStep.apply (resource : ResourceState T) : EvidenceStep T → ResourceState T
  | recordAckWrite value source now => resource.recordAckWrite value source now
  | recordReadbackWrite desiredValue observedValue source now =>
    resource.recordReadbackWrite desiredValue observedValue source now
  | reconcileObservation value now => resource.reconcileObservation value now
  | tryMarkProfileReloadVerified verifiedAt => (resource.tryMarkProfileReloadVerified verifiedAt).1
  | tryMarkPowerCycleVerified verifiedAt => (resource.tryMarkPowerCycleVerified verifiedAt).1
  | invalidatePersistence => resource.invalidatePersistence
  | markAllOrInvalidate verifiedAt mark => resource.markAllOrInvalidate verifiedAt mark.tryMark
  | setImported value now => resource.setImported value now

namespace ResourceState

variable {resource : ResourceState T}

/-- An application claim that was read off the comparison it reports. -/
theorem supported_compared {desired : DesiredState T} {observed : ObservedState T}
    (hunknown : desired.verification.persistence = .unknown)
    (happlication : desired.verification.application =
      if desired.value = observed.value ∧ desired.updatedAt.unixSeconds ≤ observed.observedAt.unixSeconds then
        .readbackVerified else .mismatch) :
    (⟨some desired, some observed⟩ : ResourceState T).Supported := by
  intro d hd
  obtain rfl : desired = d := Option.some.inj hd
  by_cases hmatch : desired.value = observed.value ∧ desired.updatedAt.unixSeconds ≤ observed.observedAt.unixSeconds
  · rw [if_pos hmatch] at happlication
    rw [happlication]
    refine ⟨observed, rfl, hmatch.1, hmatch.2, ?_⟩
    intro at_ hat
    rw [hunknown] at hat
    cases hat
  · rw [if_neg hmatch] at happlication
    rw [happlication]
    exact ⟨observed, rfl, hmatch, hunknown⟩

theorem supported_recordReadbackWrite (resource : ResourceState T) {desiredValue observedValue : T} {source : DesiredSource} {now : Timestamp} :
    (resource.recordReadbackWrite desiredValue observedValue source now).Supported := by
  unfold recordReadbackWrite
  refine supported_compared rfl ?_
  simp

theorem supported_reconcileObservation {value : T} {now : Timestamp} :
    (resource.reconcileObservation value now).Supported := by
  unfold reconcileObservation
  cases resource.desired with
  | none =>
    refine supported_compared rfl ?_
    simp
  | some desired => exact supported_compared rfl rfl

/-- **What a mark does**: nothing, or the claim, on a current matching readback it does not predate. -/
theorem tryMarkPersistence_cases (resource : ResourceState T) (persistence : PersistenceVerification) :
    resource.tryMarkPersistence persistence = (resource, false) ∨
    ∃ desired observed, resource.desired = some desired ∧ resource.observed = some observed ∧
      desired.verification.application = .readbackVerified ∧ desired.value = observed.value ∧
      desired.updatedAt.unixSeconds ≤ observed.observedAt.unixSeconds ∧
      (∀ at_ ∈ persistence.verifiedAt, observed.observedAt.unixSeconds ≤ at_.unixSeconds) ∧
      resource.tryMarkPersistence persistence = ({ resource with
        desired := some { desired with verification := { desired.verification with persistence } } }, true) := by
  unfold tryMarkPersistence
  cases hdesired : resource.desired with
  | none => exact .inl rfl
  | some desired =>
    cases hobserved : resource.observed with
    | none => exact .inl rfl
    | some observed =>
      simp only
      split
      · exact .inl rfl
      · next happlication =>
        split
        · exact .inl rfl
        · next hvalue =>
          split
          · exact .inl rfl
          · next hstale =>
            split
            · exact .inl rfl
            · next hearly =>
              refine .inr ⟨desired, observed, rfl, rfl, not_not.1 happlication, not_not.1 hvalue, ?_, ?_, rfl⟩
              · omega
              · intro at_ hat
                by_contra hlt
                exact hearly ⟨at_, hat, by omega⟩

theorem supported_tryMarkPersistence (h : resource.Supported) (persistence : PersistenceVerification) :
    (resource.tryMarkPersistence persistence).1.Supported := by
  rcases resource.tryMarkPersistence_cases persistence with
    hsame | ⟨desired, observed, -, hobserved, happlication, hvalue, hcurrent, hafter, hmarked⟩
  · rw [hsame]
    exact h
  · rw [hmarked]
    intro d hd
    cases hd
    simp only [happlication]
    exact ⟨observed, hobserved, hvalue, hcurrent, hafter⟩

theorem supported_tryMark (h : resource.Supported) (mark : PersistenceMark) (verifiedAt : Timestamp) :
    (mark.tryMark resource verifiedAt).1.Supported := by
  cases mark <;> exact supported_tryMarkPersistence h _

theorem supported_markAllOrInvalidate (h : resource.Supported) (verifiedAt : Timestamp) (mark : PersistenceMark) :
    (resource.markAllOrInvalidate verifiedAt mark.tryMark).Supported := by
  have hmarked := supported_tryMark h mark verifiedAt
  unfold markAllOrInvalidate
  split
  · next marked heq =>
    rw [heq] at hmarked
    exact hmarked
  · next unmarked heq =>
    rw [heq] at hmarked
    exact supported_invalidatePersistence hmarked

/-- **Every transition keeps the claim supported.** -/
theorem supported_apply (h : resource.Supported) : ∀ step : EvidenceStep T, (step.apply resource).Supported
  | .recordAckWrite .. => supported_recordAckWrite
  | .recordReadbackWrite .. => supported_recordReadbackWrite resource
  | .reconcileObservation .. => supported_reconcileObservation
  | .tryMarkProfileReloadVerified verifiedAt => supported_tryMark h .profileReload verifiedAt
  | .tryMarkPowerCycleVerified verifiedAt => supported_tryMark h .powerCycle verifiedAt
  | .invalidatePersistence => supported_invalidatePersistence h
  | .markAllOrInvalidate verifiedAt mark => supported_markAllOrInvalidate h verifiedAt mark
  | .setImported .. => supported_setImported

theorem supported_run (h : resource.Supported) (steps : List (EvidenceStep T)) :
    (steps.foldl EvidenceStep.apply resource).Supported := by
  induction steps generalizing resource with
  | nil => exact h
  | cons step rest ih => exact ih (supported_apply h step)

end ResourceState

/-- **The validator accepts a resource after any transitions**, and a persistence claim left on it rests on a matching
readback no older than the value and no younger than the claim. -/
theorem evidence_run {resource : ResourceState T} {ctx : String} (h : validateResourceState resource ctx = .ok ())
    (steps : List (EvidenceStep T)) :
    (∀ ctx', validateResourceState (steps.foldl EvidenceStep.apply resource) ctx' = .ok ()) ∧
      (steps.foldl EvidenceStep.apply resource).Persisted := by
  have hsupported := ResourceState.supported_run (validateResourceState_ok.1 h) steps
  exact ⟨fun _ => validateResourceState_ok.2 hsupported, hsupported.persisted⟩

end Transitions

/-- A rate read back, marked at a later instant, and read again before that instant. -/
theorem evidence_run_rate :
    (∀ ctx', validateResourceState ([.recordReadbackWrite .hz500 .hz500 .userWrite ⟨20⟩,
        .tryMarkPowerCycleVerified ⟨30⟩, .reconcileObservation .hz500 ⟨10⟩].foldl EvidenceStep.apply
          (.empty : ResourceState PollingRate)) ctx' = .ok ()) ∧
      ([.recordReadbackWrite .hz500 .hz500 .userWrite ⟨20⟩, .tryMarkPowerCycleVerified ⟨30⟩,
        .reconcileObservation .hz500 ⟨10⟩].foldl EvidenceStep.apply
          (.empty : ResourceState PollingRate)).Persisted :=
  evidence_run (show validateResourceState _ "pollingRate" = .ok () from rfl) _

end AttackSharkX3
