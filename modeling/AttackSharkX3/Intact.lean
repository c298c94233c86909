import AttackSharkX3.Tokens
/-!
# Intact — the markers a ceremony writes over

What a ceremony writes over is what it captured, and whether it may was decided when the mouse was presented.  While a
mouse presented for a fresh token carries no intact marker on any captured profile, none is ever written over.
-/
namespace AttackSharkX3

open Effects (Prog Move Machine)
open Effects.Prog (History)
open Effects.Machine (Config Step Reaches running history)

variable [Crc32fast]

/-- No identity is lost by writing over the tail. -/
def Blank (dpi : DpiState) : Prop := dpi.physicalId = .absent ∨ dpi.physicalId = .malformed

instance (dpi : DpiState) : Decidable (Blank dpi) := inferInstanceAs (Decidable (_ ∨ _))

/-- Every captured profile of a journal that is still to be stamped is blank. -/
def BlankState (state : StateFile) : Prop :=
  ∀ journal, state.identitySetup = some journal → ∀ subject ∈ journal.subjects, ∀ p dpi,
    subject.capturedDpi p = some dpi → subject.isStamped p = false → Blank dpi

variable {ι μ : Type} [DecidableEq ι] [DecidableEq μ] {H : Hardware} {owner : ι → μ}

/-- The move presents no mouse for a fresh token that carries an intact marker on a captured profile. -/
def PresentsBlank (_c : Config (machine H owner)) (m : Move Backend ι Call Outcome H.Env) : Prop :=
  ∀ i phase subject allValid r, m = .op i (.commit (.pushSubject phase subject allValid)) r →
    phase ≠ .foreignAdoption → ∀ p dpi, subject.capturedDpi p = some dpi → Blank dpi

/-- The move, if it is a DPI write of a ceremony, is for a profile whose captured tail is no other identity. -/
def WritesOverBlank (c : Config (machine H owner)) (m : Move Backend ι Call Outcome H.Env) : Prop :=
  ∀ i endpoint image verification r call, m = .op i (.session endpoint (.writeDpi image verification)) r →
    running i c.log = some call → call.isCeremony = true →
    ∃ (state : StateFile) (journal : IdentitySetupJournal) (subject : IdentitySetupSubject) (p : ProfileId)
      (dpi : DpiState) (token : PhysicalId),
      lastLoad (history i c.log) = some state ∧ state.identitySetup = some journal ∧
      journal.subjects.getLast? = some subject ∧ subject.token = some token ∧
      targetProfile (history i c.log) = some p ∧ subject.capturedDpi p = some dpi ∧
      image = withPhysicalWatermark dpi (some token) ∧
      (dpi.physicalId = .absent ∨ dpi.physicalId = .malformed ∨ dpi.physicalId = .valid token)

/-- **A commit leaves the captured profiles blank**, as long as what it presents is. -/
theorem BlankState.step {state state' : StateFile} {t : Txn} (hb : BlankState state) (hstep : JournalStep t state state')
    (presents : ∀ phase subject allValid, t = .pushSubject phase subject allValid → ∀ p dpi,
      subject.capturedDpi p = some dpi → subject.isStamped p = false → Blank dpi) : BlankState state' := by
  intro journal' hj' subject' hmem p dpi hdpi hp
  rcases hstep.origin hj' hmem with ⟨journal, hj, hmem⟩ | ⟨journal, subject, hj, hlast, hchange⟩ |
    ⟨phase, allValid, ht⟩ | ⟨endpoint, device, -, rfl⟩
  · exact hb journal hj subject' hmem p dpi hdpi hp
  · rw [hchange.capturedDpi] at hdpi
    exact hb journal hj subject (List.mem_of_getLast? hlast) p dpi hdpi (hchange.not_stamped hp)
  · exact presents phase subject' allValid ht p dpi hdpi hp
  · cases hdpi

/-- What a client may present is blank, if it meets the condition; an adoption's subject always is. -/
theorem PresentsBlank.presents {c : Config (machine H owner)} {i : ι} {t : Txn} {r}
    (meets : PresentsBlank c (.op i (.commit t) r)) {h : History Backend} (hmay : MayCommit h t ∨ t.isOrdinary = true)
    (phase : IdentitySetupPhase) (subject : IdentitySetupSubject) (allValid : Bool)
    (ht : t = .pushSubject phase subject allValid) (p : ProfileId) (dpi : DpiState)
    (hdpi : subject.capturedDpi p = some dpi) (hp : subject.isStamped p = false) : Blank dpi := by
  subst ht
  by_cases hphase : phase = .foreignAdoption
  · rcases hmay with ⟨state, journal, -, -, -, hpresented, -⟩ | hordinary
    · obtain ⟨token, -, hall⟩ := hpresented.adopted hphase
      rcases hall p dpi hdpi with ⟨hs, -⟩ | habsent
      · rw [hp] at hs
        cases hs
      · exact .inl habsent
    · cases hordinary
  · exact meets i phase subject allValid r rfl hphase p dpi hdpi

/-- **The store, and what every client loaded last, are blank.** -/
structure AllBlank (c : Config (machine H owner)) : Prop where
  store : BlankState c.world.store
  loaded : ∀ i state, lastLoad (history i c.log) = some state → BlankState state

theorem AllBlank.reaches {w : World H ι μ} (hw : w.store.identitySetup = none) {c : Config (machine H owner)}
    (run : Reaches (machine H owner) PresentsBlank (.idle w) c) : AllBlank c := by
  induction run with
  | refl =>
    refine ⟨fun journal hj => ?_, fun i state hl => ?_⟩
    · rw [show (Config.idle w : Config (machine H owner)).world = w from rfl, hw] at hj
      cases hj
    · cases hl
  | @step c c' m before meets next ih =>
    refine ⟨?_, fun i state hl => ?_⟩
    · rcases store_of_step next.moves with hs | ⟨i, t, r, rfl, hc⟩
      · rw [hs]
        exact ih.store
      · exact ih.store.step hc.journalStep (meets.presents (commits_of_run before next i t r rfl))
    · rcases next.client i with ⟨o, r, rfl, hh, -⟩ | ⟨hh, -⟩ | hh
      · rw [hh] at hl
        rcases lastLoad_op next.moves hl with rfl | hl
        · exact ih.store
        · exact ih.loaded i state hl
      · rw [hh] at hl
        exact ih.loaded i state hl
      · rw [hh] at hl
        cases hl

/-- **A ceremony writes over no intact marker**, in every run, of any number of clients, that presents no mouse for a
fresh token with one on a captured profile. -/
theorem ceremony_writes_over_blank {w : World H ι μ} (hw : w.store.identitySetup = none)
    {c c' : Config (machine H owner)} {m} (run : Reaches (machine H owner) PresentsBlank (.idle w) c)
    (next : Step (machine H owner) c m c') : WritesOverBlank c m := by
  intro i endpoint image verification r call hm hrunning hceremony
  subst hm
  obtain ⟨call', hcall', hrule⟩ := run.issued Call.keeps next
  cases hrunning.symm.trans hcall'
  have hwrites : ceremonyRule (history i c.log) (.session endpoint (.writeDpi image verification)) := by
    cases call with
    | ceremony => exact hrule
    | _ => cases hceremony
  obtain ⟨plan, marks, p, hplan⟩ := hwrites
  obtain ⟨dpi, hdpi, himage⟩ := hplan.image_eq
  have hblank := (AllBlank.reaches hw run).loaded i _ hplan.at_.loaded plan.journal plan.inState plan.subject
    (List.mem_of_getLast? plan.last) p dpi hdpi (StampPlan.not_stamped_of_pending hplan.pend)
  refine ⟨_, _, _, p, dpi, plan.token, hplan.at_.loaded, plan.inState, plan.last, plan.reserved, hplan.target, hdpi,
    himage, ?_⟩
  rcases hblank with habsent | hmalformed
  · exact .inl habsent
  · exact .inr (.inl hmalformed)

end AttackSharkX3

namespace AttackSharkX3.Rig

open Effects.Prog (History)
open Effects.Machine (Config Step Reaches running history)

/-- Every captured profile of a presented mouse is blank. -/
def presentsBlank (_ : Config (machine (mice Unit) (id : Unit → Unit)))
    (m : Effects.Move Backend Unit Call Outcome (Hand Unit)) : Bool :=
  match m with
  | .op _ (.commit (.pushSubject _ subject _)) _ =>
    (ProfileId.upTo .MAX_ID).all fun p => (subject.capturedDpi p).all fun dpi => Blank dpi
  | _ => true

theorem presentsBlank_meets (c : Config (machine (mice Unit) (id : Unit → Unit))) (m)
    (h : presentsBlank c m = true) : PresentsBlank c m := by
  rintro i phase subject allValid r rfl - p dpi hdpi
  have hp := List.all_eq_true.1 h p p.mem_upTo
  rw [hdpi] at hp
  exact of_decide_eq_true hp

/-- A blank mouse is stamped profile by profile. -/
theorem writes_over_blank : ∃ c c' r,
    Reaches (machine (mice Unit) id) PresentsBlank (.idle (alone fun _ => none)) c ∧
    Step (machine (mice Unit) id) c
      (.op () (.session (wired "a") (.writeDpi (image (some (token 1)) ⟨2, by decide⟩) .readback)) r) c' ∧
    WritesOverBlank c
      (.op () (.session (wired "a") (.writeDpi (image (some (token 1)) ⟨2, by decide⟩) .readback)) r) := by
  obtain ⟨c, run, htest⟩ := drawingOne.checked id (alone fun _ => none) presentsBlank presentsBlank_meets
    [.enter () addMouse, .finish (), .enter () presentWired, .finish (), .enter () stamp,
      .goOn () (· = .commit (.markStamped first)), .goOn () Op.writesDpi]
    (fun c => c.next () =
        some (.session (wired "a") (.writeDpi (image (some (token 1)) ⟨2, by decide⟩) .readback)) ∧
      (c.world.mice.attached (wired "a").key).isSome = true) (by decide +kernel)
  obtain ⟨hnext, hattached⟩ := of_decide_eq_true htest
  obtain ⟨r, c', next⟩ := drawingOne.session_step hnext hattached
  exact ⟨c, c', r, run, next, ceremony_writes_over_blank rfl run next⟩

/-- What the captured tail of the profile being stamped decodes to, and the token it is to carry. -/
def overwritten (h : History Backend) : Option (WatermarkDecode × Option PhysicalId) := do
  let state ← lastLoad h
  let journal ← state.identitySetup
  let subject ← journal.subjects.getLast?
  let profile ← targetProfile h
  let dpi ← subject.capturedDpi profile
  return (dpi.physicalId, subject.token)

/-- **A marker of another identity is written over**: the current profile is blank, and the second carries a token. -/
theorem writes_over_intact : ∃ c c' m,
    Reaches (machine (mice Unit) id) (fun _ _ => True) (.idle (alone fun p => if p = first then none else some (token 9))) c ∧
    Step (machine (mice Unit) id) c m c' ∧ ¬ WritesOverBlank c m := by
  obtain ⟨c, run, htest⟩ := drawingOne.played id (alone fun p => if p = first then none else some (token 9))
    [.enter () addMouse, .finish (), .enter () presentWired, .finish (), .enter () stamp,
      .goOn () (· = .commit (.markStamped first)), .goOn () Op.writesDpi]
    (fun c => c.next () =
        some (.session (wired "a") (.writeDpi (image (some (token 1)) ⟨2, by decide⟩) .readback)) ∧
      (c.world.mice.attached (wired "a").key).isSome = true ∧ running () c.log = some stamp ∧
      overwritten (history () c.log) = some (.valid (token 9), some (token 1))) (by decide +kernel)
  obtain ⟨hnext, hattached, hrunning, hover⟩ := of_decide_eq_true htest
  obtain ⟨r, c', next⟩ := drawingOne.session_step hnext hattached
  refine ⟨c, c', _, run, next, fun hblank => ?_⟩
  obtain ⟨state, journal, subject, p, dpi, token', hload, hj, hlast, htoken, htarget, hdpi, -, hdecode⟩ :=
    hblank _ _ _ _ _ _ rfl hrunning rfl
  simp [overwritten, hload, hj, hlast, htarget, hdpi, htoken] at hover
  rw [hover.1] at hdecode
  rcases hdecode with h | h | h
  · cases h
  · cases h
  · rw [WatermarkDecode.valid.injEq, hover.2] at h
    exact absurd h (by decide)

end AttackSharkX3.Rig
