import AttackSharkX3.Journal
import AttackSharkX3.Stamp
/-!
# Subjects — one subject of a ceremony across a commit

A commit changes at most the last subject of a journal, by reserving its token or by marking one of its profiles.  Where
a subject of the journal comes from, and where it goes, is read off `JournalStep` once.
-/
namespace AttackSharkX3

open Effects (Prog)
open Effects.Prog (History)

/-- **What a transaction may make of the last subject.** -/
inductive SubjectStep (t : Txn) (subject : IdentitySetupSubject) : IdentitySetupSubject → Prop where
  | same : SubjectStep t subject subject
  | reserved {token} (ht : t = .reserveToken token) : SubjectStep t subject { subject with token := some token }
  | marked {profile} (ht : t.marks = some profile) : SubjectStep t subject (subject.mark profile)

namespace SubjectStep

variable {t : Txn} {subject subject' : IdentitySetupSubject}

/-- The end of a stamping call, which may mark one last profile. -/
theorem finish {phase : IdentitySetupPhase} {awaitSecond : Bool} (pendingLast : Option ProfileId) :
    SubjectStep (.finishStamping phase awaitSecond pendingLast) subject (pendingLast.elim subject subject.mark) := by
  cases pendingLast with
  | none => exact .same
  | some profile => exact .marked rfl

theorem endpoint (h : SubjectStep t subject subject') : subject'.endpoint = subject.endpoint := by
  cases h <;> rfl

theorem captured (h : SubjectStep t subject subject') : subject'.captured = subject.captured := by
  cases h <;> rfl

theorem capturedDpi (h : SubjectStep t subject subject') (p : ProfileId) :
    subject'.capturedDpi p = subject.capturedDpi p := by
  unfold IdentitySetupSubject.capturedDpi
  rw [h.captured]

end SubjectStep

namespace IdentitySetupSubject

variable {subject : IdentitySetupSubject} {p q : ProfileId}

@[simp] theorem mark_token : (subject.mark p).token = subject.token := rfl
@[simp] theorem mark_endpoint : (subject.mark p).endpoint = subject.endpoint := rfl
@[simp] theorem mark_captured : (subject.mark p).captured = subject.captured := rfl
@[simp] theorem mark_capturedDpi : (subject.mark p).capturedDpi q = subject.capturedDpi q := rfl

@[simp] theorem isStamped_mark : (subject.mark p).isStamped p = true := by
  simp [isStamped, mark]

theorem isStamped_mark_of_ne (h : p ≠ q) : (subject.mark p).isStamped q = subject.isStamped q := by
  unfold isStamped mark
  dsimp only
  rw [BTreeMap.get_insert_of_ne _ h]

/-- Only the marked profile is newly stamped. -/
theorem of_isStamped_mark (h : (subject.mark p).isStamped q = true) : p = q ∨ subject.isStamped q = true := by
  by_cases hpq : p = q
  · exact .inl hpq
  · exact .inr (by rwa [isStamped_mark_of_ne hpq] at h)

theorem isStamped_mark_mono (h : subject.isStamped q = true) : (subject.mark p).isStamped q = true := by
  by_cases hpq : p = q
  · rw [hpq]
    exact isStamped_mark
  · rw [isStamped_mark_of_ne hpq, h]

end IdentitySetupSubject

theorem SubjectStep.not_stamped {t : Txn} {subject subject' : IdentitySetupSubject} (h : SubjectStep t subject subject')
    {p : ProfileId} (hp : subject'.isStamped p = false) : subject.isStamped p = false := by
  cases h with
  | same => exact hp
  | reserved _ => exact hp
  | marked _ =>
    refine Bool.eq_false_iff.2 fun hs => ?_
    rw [IdentitySetupSubject.isStamped_mark_mono hs] at hp
    cases hp

namespace IdentitySetupJournal

variable {journal : IdentitySetupJournal} {last subject x : IdentitySetupSubject} {k : Nat}

/-- A subject of the journal is still there once the last one is replaced, unless it is that one. -/
theorem withLast_getElem? (hlast : journal.subjects.getLast? = some last) (hk : journal.subjects[k]? = some subject) :
    (journal.withLast x).subjects[k]? = some subject ∨ (subject = last ∧ (journal.withLast x).subjects[k]? = some x) := by
  obtain ⟨init, hinit⟩ := List.getLast?_eq_some_iff.1 hlast
  unfold withLast
  rw [hinit] at hk ⊢
  rw [List.dropLast_concat]
  rcases Nat.lt_trichotomy k init.length with hlt | heq | hgt
  · rw [List.getElem?_append_left hlt] at hk
    exact .inl (by rw [List.getElem?_append_left hlt, hk])
  · subst heq
    rw [List.getElem?_concat_length, Option.some.injEq] at hk
    exact .inr ⟨hk.symm, List.getElem?_concat_length⟩
  · rw [List.getElem?_eq_none (by simp; omega)] at hk
    cases hk

theorem mem_withLast (h : subject ∈ (journal.withLast x).subjects) : subject ∈ journal.subjects ∨ subject = x := by
  rcases List.mem_append.1 h with h | h
  · exact .inl (List.dropLast_subset _ h)
  · exact .inr (List.mem_singleton.1 h)

end IdentitySetupJournal

/-- The journal is removed, by a transaction that may: a finalization, or a cancellation. -/
inductive Removes (t : Txn) (state state' : StateFile) (journal : IdentitySetupJournal) : Prop where
  | finalized {final} (skip : Bool) (final_ : Finalizes t journal final)
      (ran : (finalizeCeremony skip).apply { state with identitySetup := some final } = (.ok (), state'))
  | cancelled (ht : t = .cancelCeremony)

/-- **Where a subject goes**: it stays at its place, changed only if it is the last, unless its journal is removed or
replaced. -/
theorem JournalStep.subject {t : Txn} {state state' : StateFile} (h : JournalStep t state state')
    {journal : IdentitySetupJournal} (hj : state.identitySetup = some journal) {k : Nat} {subject : IdentitySetupSubject}
    (hk : journal.subjects[k]? = some subject) :
    (∃ journal' subject', state'.identitySetup = some journal' ∧ journal'.subjects[k]? = some subject' ∧
      (subject' = subject ∨ (journal.subjects.getLast? = some subject ∧ SubjectStep t subject subject'))) ∨
      (∃ phase, t = .beginCeremony phase) ∨ (state'.identitySetup = none ∧ Removes t state state' journal) := by
  have pushed : ∀ new stage, state'.identitySetup = some ((journal.push new).withStage stage) →
      ∃ journal' subject', state'.identitySetup = some journal' ∧ journal'.subjects[k]? = some subject' ∧
        (subject' = subject ∨ (journal.subjects.getLast? = some subject ∧ SubjectStep t subject subject')) :=
    fun new stage hbecomes => ⟨_, subject, hbecomes, List.getElem?_append_left (List.getElem?_eq_some_iff.1 hk).1 ▸ hk,
      .inl rfl⟩
  have changed : ∀ last x stage, journal.subjects.getLast? = some last → SubjectStep t last x →
      state'.identitySetup = some ((journal.withLast x).withStage stage) →
      ∃ journal' subject', state'.identitySetup = some journal' ∧ journal'.subjects[k]? = some subject' ∧
        (subject' = subject ∨ (journal.subjects.getLast? = some subject ∧ SubjectStep t subject subject')) := by
    intro last x stage hlast hstep hbecomes
    rcases IdentitySetupJournal.withLast_getElem? (x := x) hlast hk with hsame | ⟨rfl, hx⟩
    · exact ⟨_, subject, hbecomes, hsame, .inl rfl⟩
    · exact ⟨_, x, hbecomes, hx, .inr ⟨hlast, hstep⟩⟩
  cases h with
  | same keeps => exact .inl ⟨journal, subject, by rw [keeps, hj], hk, .inl rfl⟩
  | begun ht _ => exact .inr (.inl ⟨_, ht⟩)
  | pushed ht was awaiting becomes =>
    cases hj.symm.trans was
    exact .inl (pushed _ _ becomes)
  | reserved ht was last becomes =>
    cases hj.symm.trans was
    exact .inl (changed _ _ _ last (.reserved ht) becomes)
  | marked ht was last becomes =>
    cases hj.symm.trans was
    exact .inl (changed _ _ _ last (.marked (ht ▸ rfl)) becomes)
  | finished ht was last becomes =>
    cases hj.symm.trans was
    exact .inl (changed _ _ _ last (ht ▸ .finish _) becomes)
  | associated ht was phase empty becomes =>
    cases hj.symm.trans was
    exact .inl (pushed _ _ becomes)
  | finalized skip was final_ ran becomes =>
    cases hj.symm.trans was
    exact .inr (.inr ⟨becomes, .finalized skip final_ ran⟩)
  | cancelled ht becomes => exact .inr (.inr ⟨becomes, .cancelled ht⟩)

/-- **Where a subject comes from.** -/
theorem JournalStep.origin {t : Txn} {state state' : StateFile} (h : JournalStep t state state')
    {journal' : IdentitySetupJournal} (hj : state'.identitySetup = some journal') {subject' : IdentitySetupSubject}
    (hmem : subject' ∈ journal'.subjects) :
    (∃ journal, state.identitySetup = some journal ∧ subject' ∈ journal.subjects) ∨
      (∃ journal subject, state.identitySetup = some journal ∧ journal.subjects.getLast? = some subject ∧
        SubjectStep t subject subject') ∨
      (∃ phase allValid, t = .pushSubject phase subject' allValid) ∨
      ∃ endpoint device, t = .associate endpoint device ∧ subject' = ⟨endpoint, some device, none, none, none, ∅⟩ := by
  cases h with
  | same keeps => exact .inl ⟨journal', by rw [← keeps, hj], hmem⟩
  | begun _ becomes =>
    cases hj.symm.trans becomes
    exact absurd hmem List.not_mem_nil
  | pushed ht was _ becomes =>
    cases hj.symm.trans becomes
    rcases List.mem_append.1 hmem with hmem | hmem
    · exact .inl ⟨_, was, hmem⟩
    · cases List.mem_singleton.1 hmem
      exact .inr (.inr (.inl ⟨_, _, ht⟩))
  | reserved ht was last becomes =>
    cases hj.symm.trans becomes
    rcases IdentitySetupJournal.mem_withLast hmem with hmem | rfl
    · exact .inl ⟨_, was, hmem⟩
    · exact .inr (.inl ⟨_, _, was, last, .reserved ht⟩)
  | marked ht was last becomes =>
    cases hj.symm.trans becomes
    rcases IdentitySetupJournal.mem_withLast hmem with hmem | rfl
    · exact .inl ⟨_, was, hmem⟩
    · exact .inr (.inl ⟨_, _, was, last, .marked (ht ▸ rfl)⟩)
  | finished ht was last becomes =>
    cases hj.symm.trans becomes
    rcases IdentitySetupJournal.mem_withLast hmem with hmem | rfl
    · exact .inl ⟨_, was, hmem⟩
    · exact .inr (.inl ⟨_, _, was, last, ht ▸ .finish _⟩)
  | associated ht was _ _ becomes =>
    cases hj.symm.trans becomes
    rcases List.mem_append.1 hmem with hmem | hmem
    · exact .inl ⟨_, was, hmem⟩
    · cases List.mem_singleton.1 hmem
      exact .inr (.inr (.inr ⟨_, _, ht, rfl⟩))
  | finalized _ _ _ _ becomes =>
    rw [hj] at becomes
    cases becomes
  | cancelled _ becomes =>
    rw [hj] at becomes
    cases becomes

/-- Ordinary transactions mark nothing. -/
theorem Txn.marks_ordinary {t : Txn} (h : t.isOrdinary = true) : t.marks = none := by
  cases t with
  | markStamped | finishStamping => cases h
  | _ => rfl

/-! ## Stamped profiles of a journal -/

theorem SubjectStep.stamped {t : Txn} {subject subject' : IdentitySetupSubject} (h : SubjectStep t subject subject')
    {p : ProfileId} (hp : subject.isStamped p = true) : subject'.isStamped p = true := by
  cases h with
  | same => exact hp
  | reserved _ => exact hp
  | marked _ => exact IdentitySetupSubject.isStamped_mark_mono hp

theorem IdentitySetupJournal.irreversible_iff {journal : IdentitySetupJournal} :
    journal.irreversible = true ↔ ∃ subject ∈ journal.subjects, ∃ p, subject.isStamped p = true := by
  unfold irreversible IdentitySetupSubject.isStamped
  simp only [List.any_eq_true, decide_eq_true_eq]
  refine exists_congr fun subject => and_congr_right fun _ => ⟨?_, ?_⟩
  · rintro ⟨progress, hmem, rfl⟩
    exact BTreeMap.mem_values.1 hmem
  · rintro ⟨p, hp⟩
    exact ⟨_, BTreeMap.mem_values.2 ⟨p, hp⟩, rfl⟩

/-- A ceremony with a stamped profile keeps one, while its journal lasts. -/
theorem JournalStep.irreversible {t : Txn} {state state' : StateFile} (h : JournalStep t state state')
    (hbegin : ∀ phase, t ≠ .beginCeremony phase) {journal journal' : IdentitySetupJournal}
    (hj : state.identitySetup = some journal) (hj' : state'.identitySetup = some journal')
    (hirr : journal.irreversible = true) : journal'.irreversible = true := by
  obtain ⟨subject, hmem, p, hp⟩ := IdentitySetupJournal.irreversible_iff.1 hirr
  obtain ⟨k, hk⟩ := List.mem_iff_getElem?.1 hmem
  rcases h.subject hj hk with ⟨journal'', subject', hj'', hk', hsubject⟩ | ⟨phase, ht⟩ | ⟨hnone, -⟩
  · cases hj'.symm.trans hj''
    refine IdentitySetupJournal.irreversible_iff.2 ⟨subject', List.mem_of_getElem? hk', p, ?_⟩
    rcases hsubject with rfl | ⟨-, hchange⟩
    · exact hp
    · exact hchange.stamped hp
  · exact absurd ht (hbegin phase)
  · rw [hj'] at hnone
    cases hnone

/-- Only a beginning makes a journal where there was none. -/
theorem JournalStep.was {t : Txn} {state state' : StateFile} (h : JournalStep t state state')
    (hbegin : ∀ phase, t ≠ .beginCeremony phase) {journal' : IdentitySetupJournal}
    (hj' : state'.identitySetup = some journal') : ∃ journal, state.identitySetup = some journal := by
  cases h with
  | same keeps => exact ⟨journal', by rw [← keeps, hj']⟩
  | begun ht _ => exact absurd ht (hbegin _)
  | pushed _ was _ _ | reserved _ was _ _ | marked _ was _ _ | finished _ was _ _ | associated _ was _ _ _
  | finalized _ was _ _ _ => exact ⟨_, was⟩
  | cancelled _ becomes =>
    rw [hj'] at becomes
    cases becomes

/-- **A mark is made to a plan**, for a profile stamped under the plan's token. -/
theorem MayCommit.marks [Crc32fast] {h : History Backend} {t : Txn} (hmay : MayCommit h t) {p : ProfileId}
    (ht : t.marks = some p) :
    ∃ (plan : StampPlan) (marks : List ProfileId), plan.At marks h ∧ p ∈ plan.pending ∧ plan.Stamped h p := by
  cases t with
  | markStamped profile =>
    cases ht
    obtain ⟨plan, marks, ha, hp, hs⟩ := hmay
    exact ⟨plan, marks, ha, hp, hs⟩
  | finishStamping phase awaitSecond pendingLast =>
    change pendingLast = some p at ht
    obtain ⟨plan, hd, -, -, hlast⟩ := hmay
    obtain ⟨marks, ha, -⟩ := hd.at_
    rw [ht] at hlast
    exact ⟨plan, marks, ha, List.mem_of_getLast? hlast.symm, hd.last p hlast.symm⟩
  | _ => cases ht

end AttackSharkX3
