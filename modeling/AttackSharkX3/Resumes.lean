import AttackSharkX3.Finalized
import AttackSharkX3.Rig
import AttackSharkX3.Sole
/-!
# Resumes — stamping across interruptions

A stamping call of a sole client may end anywhere: the journal it leaves is orderly, and whatever call comes next goes on
from there.  Each move keeps the reserved token, marks only what it confirmed, writes only what is unmarked, and a move
that finishes the ceremony finds everything stamped.
-/
namespace AttackSharkX3

open Effects (Prog Move Machine)
open Effects.Prog (History)
open Effects.Machine (Config Step Reaches running history)

/-- **What holds of every journal**: a mouse alone except in first-time setup, and a token for every mouse but the one at
hand. -/
structure Orderly (journal : IdentitySetupJournal) : Prop where
  alone : journal.phase ≠ .initialEnrollment → journal.subjects.length ≤ 1
  tokens : journal.phase ≠ .bleAssociation → journal.stage ≠ .stamping → ∀ subject ∈ journal.subjects, subject.token ≠ none
  others : journal.phase ≠ .bleAssociation → ∀ subject ∈ journal.subjects.dropLast, subject.token ≠ none

/-- The journal of the state, if there is one, is orderly. -/
def OrderlyState (state : StateFile) : Prop := ∀ journal, state.identitySetup = some journal → Orderly journal

/-- The journal a transaction finalizes is one it could have left. -/
theorem Finalizes.step {t : Txn} {state : StateFile} {current final : IdentitySetupJournal}
    (h : Finalizes t current final) (was : state.identitySetup = some current) :
    JournalStep t state { state with identitySetup := some final } := by
  cases h with
  | pushed ht awaiting => exact .pushed ht was awaiting rfl
  | finished ht enrolls last => exact .finished ht was last rfl
  | migrated ht => exact .same was.symm
  | associated ht phase empty => exact .associated ht was phase empty rfl

namespace Orderly

variable {journal : IdentitySetupJournal}

/-- The last subject replaced by one that has a token if its stage needs one. -/
theorem withLast (ho : Orderly journal) {last subject : IdentitySetupSubject} {stage : IdentitySetupStage}
    (hlast : journal.subjects.getLast? = some last)
    (htoken : journal.phase ≠ .bleAssociation → stage ≠ .stamping → subject.token ≠ none) :
    Orderly ((journal.withLast subject).withStage stage) := by
  obtain ⟨init, hinit⟩ := List.getLast?_eq_some_iff.1 hlast
  refine ⟨fun hne => ?_, fun hble hstage s hs => ?_, fun hble s hs => ho.others hble s ?_⟩
  · have := ho.alone hne
    simpa [IdentitySetupJournal.withLast, IdentitySetupJournal.withStage, hinit] using this
  · rcases List.mem_append.1 hs with hs | hs
    · exact ho.others hble s hs
    · rw [List.mem_singleton.1 hs]
      exact htoken hble hstage
  · simpa [IdentitySetupJournal.withLast, IdentitySetupJournal.withStage] using hs

/-- One more subject. -/
theorem push (ho : Orderly journal) (awaiting : journal.stage = .awaitingCapture) {subject : IdentitySetupSubject}
    {stage : IdentitySetupStage} (alone : journal.phase ≠ .initialEnrollment → journal.subjects = [])
    (htoken : journal.phase ≠ .bleAssociation → stage ≠ .stamping → subject.token ≠ none) :
    Orderly ((journal.push subject).withStage stage) := by
  have before : journal.phase ≠ .bleAssociation → ∀ s ∈ journal.subjects, s.token ≠ none := fun hble =>
    ho.tokens hble (by rw [awaiting]; exact IdentitySetupStage.noConfusion)
  refine ⟨fun hne => ?_, fun hble hstage s hs => ?_, fun hble s hs => before hble s ?_⟩
  · simp [IdentitySetupJournal.push, IdentitySetupJournal.withStage, alone hne]
  · rcases List.mem_append.1 hs with hs | hs
    · exact before hble s hs
    · rw [List.mem_singleton.1 hs]
      exact htoken hble hstage
  · simpa [IdentitySetupJournal.push, IdentitySetupJournal.withStage] using hs

end Orderly

namespace StampPlan

/-- The last subject of a store that stands at a plan. -/
theorem Stands.last {plan : StampPlan} {marks : List ProfileId} {store : StateFile} (hs : plan.Stands marks store)
    {journal : IdentitySetupJournal} {subject : IdentitySetupSubject} (hj : store.identitySetup = some journal)
    (hlast : journal.subjects.getLast? = some subject) : subject = plan.current marks := by
  cases hj.symm.trans hs.journal
  rw [IdentitySetupJournal.withLast_getLast?, Option.some.injEq] at hlast
  exact hlast.symm

end StampPlan

section Watermarks

variable [Crc32fast]

variable {h : History Backend} {t : Txn} {state state' : StateFile}

/-- **Every commit of a sole client leaves an orderly journal.** -/
theorem OrderlyState.step (ho : OrderlyState state) (hk : Knows h state) (hmay : MayCommit h t ∨ t.isOrdinary = true)
    (hstep : JournalStep t state state') : OrderlyState state' := by
  intro journal hj
  cases hstep with
  | same keeps => exact ho journal (by rw [← keeps, hj])
  | begun ht becomes =>
    cases hj.symm.trans becomes
    exact ⟨fun _ => Nat.zero_le _, fun _ _ s hs => absurd hs List.not_mem_nil, fun _ s hs => absurd hs List.not_mem_nil⟩
  | @pushed current subject allValid ht was awaiting becomes =>
    subst ht
    cases hj.symm.trans becomes
    rcases hmay with ⟨state₀, journal₀, -, hs, hj₀, hpresented, -⟩ | hordinary
    · rw [hk _ _ hs, replay_nil, hj₀, Option.some.injEq] at was
      subst was
      refine (ho journal₀ (by rw [hk _ _ hs, replay_nil, hj₀])).push awaiting hpresented.alone fun _ hstage => ?_
      cases allValid with
      | false => exact absurd rfl hstage
      | true =>
        obtain ⟨token, htoken, -⟩ := hpresented.adopted (hpresented.all.1 rfl).1
        rw [htoken]
        exact Option.some_ne_none _
    · cases hordinary
  | reserved ht was last becomes =>
    cases hj.symm.trans becomes
    exact (ho _ was).withLast last fun _ _ => Option.some_ne_none _
  | marked ht was last becomes =>
    cases hj.symm.trans becomes
    have htoken := fun hble hstage => (ho _ was).tokens hble hstage _ (List.mem_of_getLast? last)
    exact (ho _ was).withLast last htoken
  | @finished current subject phase awaitSecond pendingLast ht was last becomes =>
    subst ht
    cases hj.symm.trans becomes
    rcases hmay with ⟨plan, hd, -⟩ | hordinary
    · obtain ⟨marks, ha, -⟩ := hd.at_
      have hsubject := (ha.stands hk).last was last
      refine (ho _ was).withLast last fun _ _ => ?_
      have htoken : subject.token ≠ none := by
        rw [hsubject, StampPlan.current_token, plan.reserved]
        exact Option.some_ne_none _
      cases pendingLast with
      | none => exact htoken
      | some p => exact htoken
    · cases hordinary
  | associated ht was phase empty becomes =>
    cases hj.symm.trans becomes
    refine ⟨fun _ => ?_, fun hble => absurd phase hble, fun hble => absurd phase hble⟩
    simp [IdentitySetupJournal.push, IdentitySetupJournal.withStage, empty]
  | finalized skip was final_ ran becomes =>
    rw [hj] at becomes
    cases becomes
  | cancelled ht becomes =>
    rw [hj] at becomes
    cases becomes

/-- A finished ceremony was past its last stamp. -/
theorem final_stage (hk : Knows h state) (hmay : MayCommit h t) {current final : IdentitySetupJournal}
    (hj : state.identitySetup = some current) (hf : Finalizes t current final) : final.stage = .finalizing := by
  cases hf with
  | migrated ht =>
    subst ht
    obtain ⟨state₀, journal, -, hs, hj₀, -, hstage, -⟩ := hmay
    rw [hk _ _ hs, replay_nil, hj₀, Option.some.injEq] at hj
    rw [← hj, hstage]
  | _ => rfl

/-- **Every captured profile of a finished ceremony is stamped.** -/
theorem final_stamped (ho : OrderlyState state) (hk : Knows h state) (hmay : MayCommit h t)
    {current final : IdentitySetupJournal} (hj : state.identitySetup = some current) (hf : Finalizes t current final)
    (hphase : final.phase ≠ .bleAssociation) {subject : IdentitySetupSubject} (hmem : subject ∈ final.subjects)
    {captured : CapturedProfileImage} (hcaptured : subject.captured = some captured) {p : ProfileId}
    {profile : ProfileState} (hp : captured.profiles[p]? = some profile) : subject.isStamped p = true := by
  cases hf with
  | @pushed pushed ht awaiting =>
    subst ht
    obtain ⟨state₀, journal, -, hs, hj₀, hpresented, -⟩ := hmay
    rw [hk _ _ hs, replay_nil, hj₀, Option.some.injEq] at hj
    subst hj
    obtain ⟨hadoption, hfull⟩ := hpresented.all.1 rfl
    have hempty := hpresented.alone (by rw [hadoption]; exact IdentitySetupPhase.noConfusion)
    have hsubject : subject = pushed := by
      simpa [IdentitySetupJournal.push, IdentitySetupJournal.withStage, hempty] using hmem
    rw [hsubject] at hcaptured ⊢
    exact IdentitySetupSubject.isStamped_of_isFullyStamped hfull hcaptured hp
  | @finished last phase pendingLast ht enrolls hlast =>
    subst ht
    obtain ⟨plan, hd, hphase', -, hpending⟩ := hmay
    obtain ⟨marks, ha, hmarked⟩ := hd.at_
    have hstands := ha.stands hk
    have hcurrent := hstands.last hj hlast
    have hfound : current.phase = phase := by
      cases hj.symm.trans hstands.journal
      rw [hphase', ← hstands.phase, IdentitySetupJournal.withLast_phase]
    -- The mouse of the plan is alone.
    have hsubject : subject = pendingLast.elim last last.mark := by
      have hlen := (ho _ hj).alone (by rw [hfound]; exact enrolls)
      obtain ⟨init, hinit⟩ := List.getLast?_eq_some_iff.1 hlast
      have hnil : init = [] := by simpa [hinit] using hlen
      simpa [IdentitySetupJournal.withLast, IdentitySetupJournal.withStage, hinit, hnil] using hmem
    have hwas : p ∈ marks ∨ plan.subject.isStamped p = true ∨ pendingLast = some p := by
      have himage : plan.captured = captured := by
        have : subject.captured = plan.subject.captured := by
          rw [hsubject, hcurrent]
          cases pendingLast <;> simp
        rw [hcaptured, plan.image, Option.some.injEq] at this
        exact this.symm
      rcases plan.pending_or_stamped (himage ▸ hp) with hpend | hs
      · rcases hmarked p hpend with hm | hl
        · exact .inl hm
        · exact .inr (.inr (hpending.trans hl))
      · exact .inr (.inl hs)
    have hstamped : p ∈ marks ∨ plan.subject.isStamped p = true → last.isStamped p = true := fun h => by
      rw [hcurrent]
      exact (StampPlan.isStamped_current marks).2 h
    rw [hsubject]
    cases hpl : pendingLast with
    | none =>
      rw [hpl] at hwas
      exact hstamped (hwas.imp_right fun h => h.resolve_right (Option.some_ne_none _).symm)
    | some q =>
      rcases hwas with hm | hs | hq
      · exact IdentitySetupSubject.isStamped_mark_mono (hstamped (.inl hm))
      · exact IdentitySetupSubject.isStamped_mark_mono (hstamped (.inr hs))
      · cases hpl.symm.trans hq
        exact IdentitySetupSubject.isStamped_mark
  | migrated ht =>
    subst ht
    obtain ⟨state₀, journal, -, hs, hj₀, -, -, hfull⟩ := hmay
    rw [hk _ _ hs, replay_nil, hj₀, Option.some.injEq] at hj
    subst hj
    exact IdentitySetupSubject.isStamped_of_isFullyStamped (hfull subject hmem) hcaptured hp
  | associated ht phase empty => exact absurd phase hphase

/-! ## One move -/

variable {μ : Type} [DecidableEq μ] {H : Hardware} {owner : Unit → μ} {w : World H Unit μ}

/-- A move leaves the journal, or finishes the ceremony with it. -/
def Leaves (c : Config (machine H owner)) (m : Move Backend Unit Call Outcome H.Env) (c' : Config (machine H owner))
    (journal' : IdentitySetupJournal) : Prop :=
  c'.world.store.identitySetup = some journal' ∨ ∃ t r journal skip, m = .op () (.commit t) r ∧
    c.world.store.identitySetup = some journal ∧ Finalizes t journal journal' ∧
    (finalizeCeremony skip).apply { c.world.store with identitySetup := some journal' } = (.ok (), c'.world.store)

/-- **What a move of a resumed ceremony may do.** -/
structure ResumesSafely (c : Config (machine H owner)) (m : Move Backend Unit Call Outcome H.Env)
    (c' : Config (machine H owner)) : Prop where
  token_kept : TokensKept c m c'
  /-- A newly marked profile was written with its captured image under the token, and read back. -/
  confirmed : ∀ (journal journal' : IdentitySetupJournal) (k : Nat) (subject subject' : IdentitySetupSubject)
    (p : ProfileId), c.world.store.identitySetup = some journal → journal.subjects[k]? = some subject →
      Leaves c m c' journal' → journal'.subjects[k]? = some subject' → subject.isStamped p = false →
      subject'.isStamped p = true → ∃ token dpi, subject'.token = some token ∧ subject'.capturedDpi p = some dpi ∧
        Confirmed (history () c.log) subject'.endpoint p (withPhysicalWatermark dpi (some token)) token
  /-- A ceremony writes the captured image of an unmarked profile of the last subject, under the token. -/
  unmarked : ∀ endpoint image verification r call, m = .op () (.session endpoint (.writeDpi image verification)) r →
    running () c.log = some call → call.isCeremony = true →
      ∃ (journal : IdentitySetupJournal) (subject : IdentitySetupSubject) (p : ProfileId) (token : PhysicalId) (dpi : DpiState),
        c.world.store.identitySetup = some journal ∧ journal.subjects.getLast? = some subject ∧
        subject.token = some token ∧ endpoint = subject.endpoint ∧ targetProfile (history () c.log) = some p ∧
        subject.capturedDpi p = some dpi ∧ image = withPhysicalWatermark dpi (some token) ∧ subject.isStamped p = false
  /-- A finished ceremony made a mouse of every subject, under its token, with every captured profile stamped. -/
  finished : ∀ t r journal final skip, m = .op () (.commit t) r → c.world.store.identitySetup = some journal →
    Finalizes t journal final →
    (finalizeCeremony skip).apply { c.world.store with identitySetup := some final } = (.ok (), c'.world.store) →
    final.phase ≠ .bleAssociation → ∀ subject ∈ final.subjects, subject.token ≠ none ∧ Made c'.world.store subject ∧
      ∀ captured, subject.captured = some captured → ∀ (p : ProfileId) (profile : ProfileState),
        captured.profiles[p]? = some profile → subject.isStamped p = true

theorem orderly_reaches (hw : w.store.identitySetup = none) {ok} {c : Config (machine H owner)}
    (run : Reaches (machine H owner) ok (.idle w) c) : OrderlyState c.world.store := by
  induction run with
  | refl =>
    intro journal hj
    rw [show (Config.idle w : Config (machine H owner)).world = w from rfl, hw] at hj
    cases hj
  | step before _ next ih =>
    rcases store_of_step next.moves with hs | ⟨⟨⟩, t, r, rfl, hc⟩
    · rw [hs]
      exact ih
    · exact ih.step (sole_store before) (commits_of_run before next () t r rfl) hc.journalStep

/-- A newly marked profile of a subject, in any journal the transaction may leave. -/
theorem newly_marked (hk : Knows h state) (hmay : MayCommit h t ∨ t.isOrdinary = true)
    (hstep : JournalStep t state state') {journal journal' : IdentitySetupJournal} {k : Nat}
    {subject subject' : IdentitySetupSubject} {p : ProfileId} (hj : state.identitySetup = some journal)
    (hk₀ : journal.subjects[k]? = some subject) (hj' : state'.identitySetup = some journal')
    (hk' : journal'.subjects[k]? = some subject') (hwas : subject.isStamped p = false)
    (his : subject'.isStamped p = true) : ∃ token dpi, subject'.token = some token ∧ subject'.capturedDpi p = some dpi ∧
      Confirmed h subject'.endpoint p (withPhysicalWatermark dpi (some token)) token := by
  have unchanged : subject'.isStamped p = subject.isStamped p → False := fun heq => by
    rw [hwas, his] at heq
    cases heq
  rcases hstep.subject hj hk₀ with ⟨journal'', subject'', hj'', hk'', hsubject⟩ | ⟨phase, rfl⟩ | ⟨hnone, -⟩
  · cases hj'.symm.trans hj''
    cases hk'.symm.trans hk''
    rcases hsubject with rfl | ⟨hlast, hchange⟩
    · exact (unchanged rfl).elim
    · cases hchange with
      | same => exact (unchanged rfl).elim
      | reserved _ => exact (unchanged rfl).elim
      | @marked q ht =>
        rcases IdentitySetupSubject.of_isStamped_mark his with rfl | hs
        · rcases hmay with hmay | hordinary
          · obtain ⟨plan, marks, ha, -, dpi, hdpi, hconfirmed⟩ := hmay.marks ht
            have hcurrent := (ha.stands hk).last hj hlast
            subst hcurrent
            exact ⟨plan.token, dpi, by simp [plan.reserved], by simpa using hdpi, by simpa using hconfirmed⟩
          · rw [Txn.marks_ordinary hordinary] at ht
            cases ht
        · exact (unchanged (by rw [his, hs])).elim
  · rcases hmay with ⟨state₀, -, hs, hnone, -⟩ | hordinary
    · rw [hk _ _ hs, replay_nil, hnone] at hj
      cases hj
    · cases hordinary
  · rw [hj'] at hnone
    cases hnone

/-- **Stamping resumes safely**: with one client, whatever fails and wherever its calls stop, each move of a run that
began without a ceremony keeps the reserved token, marks what it confirmed, writes what is unmarked, and finishes a
ceremony only when everything is stamped. -/
theorem stamping_resumes_safely (hw : w.store.identitySetup = none) {ok} {c c' : Config (machine H owner)} {m}
    (run : Reaches (machine H owner) ok (.idle w) c) (next : Step (machine H owner) c m c') : ResumesSafely c m c' where
  token_kept := tokensKept_step (sole_unchallenged run next) next
  confirmed journal journal' k subject subject' p hj hk hleaves hk' hwas his := by
    have hknows := sole_store run
    rcases hleaves with hj' | ⟨t, r, current, skip, rfl, hcurrent, hf, -⟩
    · rcases store_of_step next.moves with hs | ⟨⟨⟩, t, r, rfl, hc⟩
      · rw [hs, hj] at hj'
        cases hj'
        rw [hk] at hk'
        cases hk'
        rw [hwas] at his
        cases his
      · exact newly_marked hknows (commits_of_run run next () t r rfl) hc.journalStep hj hk hj' hk' hwas his
    · exact newly_marked hknows (commits_of_run run next () t r rfl) (hf.step hcurrent) hj hk rfl hk' hwas his
  unmarked endpoint image verification r call hm hrunning hceremony := by
    subst hm
    obtain ⟨call', hcall', hrule⟩ := run.issued Call.keeps next
    cases hrunning.symm.trans hcall'
    have hwrites : ceremonyRule (history () c.log) (.session endpoint (.writeDpi image verification)) := by
      cases call with
      | ceremony => exact hrule
      | _ => cases hceremony
    obtain ⟨plan, marks, p, hplan⟩ := hwrites
    have hs := hplan.at_.stands (sole_store run)
    obtain ⟨dpi, hdpi, himage⟩ := hplan.image_eq
    refine ⟨_, plan.current marks, p, plan.token, dpi, hs.journal, IdentitySetupJournal.withLast_getLast? .., ?_, ?_,
      hplan.target, ?_, himage, ?_⟩
    · rw [StampPlan.current_token, plan.reserved]
    · rw [StampPlan.current_endpoint, hplan.endpoint_eq]
    · rw [StampPlan.current_capturedDpi, hdpi]
    · refine Bool.eq_false_iff.2 fun hstamped => ?_
      rcases (StampPlan.isStamped_current marks).1 hstamped with hmark | hwas
      · exact hplan.unmarked hmark
      · rw [StampPlan.not_stamped_of_pending hplan.pend] at hwas
        cases hwas
  finished t r journal final skip hm hj hf hran hphase subject hmem := by
    subst hm
    have ho := orderly_reaches hw run
    have hknows := sole_store run
    have hmay : MayCommit (history () c.log) t := by
      rcases commits_of_run run next () t r rfl with hmay | hordinary
      · exact hmay
      · cases hf with
        | pushed ht _ | finished ht _ _ | migrated ht | associated ht _ _ => rw [ht] at hordinary; cases hordinary
    have horderly : Orderly final := ho.step hknows (.inl hmay) (hf.step hj) final rfl
    refine ⟨horderly.tokens hphase ?_ subject hmem, ?_, fun captured hcaptured p profile hp => ?_⟩
    · rw [final_stage hknows hmay hj hf]
      exact IdentitySetupStage.noConfusion
    · exact finalizeCeremony_made rfl hran hphase horderly.alone hmem
    · exact final_stamped ho hknows hmay hj hf hphase hmem hcaptured hp

end Watermarks

end AttackSharkX3

namespace AttackSharkX3.Rig

open Effects.Machine (Step Reaches)

/-- A stamping call is stopped after two marks, and the next one finishes. -/
theorem resumes_stopped_stamping : ∃ c c' r,
    Reaches (machine (mice Unit) id) (fun _ _ => True) (.idle (alone fun _ => none)) c ∧
    Step (machine (mice Unit) id) c (.op () (.commit (.finishStamping .addMouse false (some .MAX_ID))) r) c' ∧
    ResumesSafely c (.op () (.commit (.finishStamping .addMouse false (some .MAX_ID))) r) c' := by
  obtain ⟨c, run, htest⟩ := drawingOne.played id (alone fun _ => none)
    [.enter () addMouse, .finish (), .enter () presentWired, .finish (), .enter () stamp,
      .goOn () (· = .commit (.markStamped ⟨2, by decide⟩)), .goOn () Op.writesDpi, .stop (), .enter () stamp,
      .goOn () finishesStamping]
    (fun c => c.next () = some (.commit (.finishStamping .addMouse false (some .MAX_ID)))) (by decide +kernel)
  obtain ⟨r, c', next, -⟩ := drawingOne.commit_step (of_decide_eq_true htest)
  exact ⟨c, c', r, run, next, stamping_resumes_safely rfl run next⟩

end AttackSharkX3.Rig
