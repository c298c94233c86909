import AttackSharkX3.Bench
import AttackSharkX3.Rig
import AttackSharkX3.Sole
/-!
# Cancel — when a ceremony can still be given up

Cancellation looks at the journal's marks only.  A mark follows its write in the same call, so the two agree wherever a
call ends, unless something fails or stops between a first write and its mark, or a mark was made for no write.
-/
namespace AttackSharkX3

open Effects (Prog Fallible Move Machine)
open Effects.Prog (History)
open Effects.Machine (Config Step Reaches running history)

/-! ## Cancellation, undisturbed -/

theorem cancelCeremony_after (state : StateFile) :
    Txn.cancelCeremony.after state = { state with identitySetup := none } := rfl

/-- **An undisturbed cancellation succeeds exactly while nothing is marked.** -/
theorem cancel_succeeds_iff (bench : Bench) (desk : Desk) (hvalid : desk.store.validate = .ok ())
    {journal : IdentitySetupJournal} (hj : desk.store.identitySetup = some journal) :
    (∃ progress desk', bench.call ceremonyCancel desk = some (.ok progress, desk')) ↔ journal.irreversible = false := by
  have hload := bench.call_load desk
  have hjournal : bench.call (requireJournal desk.store) desk = some (.ok journal, desk) := by
    simp only [requireJournal, hj]
    rfl
  unfold ceremonyCancel Bench.call at *
  rw [Fallible.exec_bind_ok hload, Fallible.exec_bind_ok hjournal]
  by_cases hrev : journal.irreversible = false
  · have hcommit : bench.call (Manager.commit .cancelCeremony) desk =
        some (.ok (), { desk with
          store := { desk.store with identitySetup := none }, asked := (desk.store, .cancelCeremony) :: desk.asked }) := by
      have hchanged : Txn.cancelCeremony.after desk.store ≠ desk.store := fun heq => by
        have := congrArg StateFile.identitySetup heq
        rw [cancelCeremony_after, hj] at this
        cases this
      have hv := StateFile.validate_withoutSetup hvalid
      rw [Bench.call_commit, commitReliably, if_neg hchanged, cancelCeremony_after, hv]
      rfl
    unfold Bench.call at hcommit
    rw [Fallible.exec_bind_ok (Fallible.exec_ensure_true hrev desk)]
    exact iff_of_true ⟨_, _, (Fallible.exec_bind_ok hcommit).trans rfl⟩ hrev
  · rw [Fallible.exec_bind_error (Fallible.exec_ensure_false hrev desk)]
    refine iff_of_false ?_ hrev
    rintro ⟨progress, desk', h⟩
    cases h

/-! ## The writes of a ceremony -/

def Op.begins : Op → Bool
  | .commit (.beginCeremony _) => true
  | _ => false

section Watermarks

variable [Crc32fast] {μ : Type} [DecidableEq μ] {H : Hardware} {owner : Unit → μ} {w : World H Unit μ}

/-- **A DPI image was sent since the ceremony began.** -/
def wroteSinceBegin : List (Machine.Entry (machine H owner)) → Bool
  | [] => false
  | ⟨_, .op _ o _⟩ :: log => !o.begins && (o.writesDpi || wroteSinceBegin log)
  | ⟨_, .enter ..⟩ :: log | ⟨_, .leave ..⟩ :: log | ⟨_, .env _⟩ :: log => wroteSinceBegin log

/-- **A steady move**: nothing fails or stops between the first write of a ceremony and its mark, and no mouse is
journalled with a profile marked already. -/
structure Steady (c : Config (machine H owner)) (m : Move Backend Unit Call Outcome H.Env) : Prop where
  ceremony : ∀ call, m = .enter () call → call.isCeremony = true
  unfailing : ∀ journal o r, c.world.store.identitySetup = some journal → journal.irreversible = false →
    m = .op () o r → (o.writesDpi = true ∨ Unmarked (history () c.log)) → ¬ Op.fails (history () c.log) o r
  unstopped : ∀ journal, c.world.store.identitySetup = some journal → journal.irreversible = false →
    m = .leave () none → ¬ Unmarked (history () c.log)
  unmarked : ∀ phase subject allValid r p, m = .op () (.commit (.pushSubject phase subject allValid)) r →
    subject.isStamped p = true → ((Txn.pushSubject phase subject allValid).after c.world.store).identitySetup = none

/-- **The marks agree with the writes**, but for a write on its way to its mark. -/
structure Agrees (c : Config (machine H owner)) : Prop where
  calls : ∀ call, running () c.log = some call → call.isCeremony = true
  logged : wroteDpi (history () c.log) = true → wroteSinceBegin c.log = true
  marked : ∀ journal, c.world.store.identitySetup = some journal → journal.irreversible = true →
    wroteSinceBegin c.log = true
  written : ∀ journal, c.world.store.identitySetup = some journal → wroteSinceBegin c.log = true →
    journal.irreversible = true ∨ Unmarked (history () c.log)

/-! ## One move -/

/-- A mark that is made to the store leaves a marked journal. -/
theorem marks_irreversible {h : History Backend} {state : StateFile} {t : Txn} (hk : Knows h state)
    (hmay : MayCommit h t) {p : ProfileId} (ht : t.marks = some p) {journal' : IdentitySetupJournal}
    (hj' : (t.after state).identitySetup = some journal') : journal'.irreversible = true := by
  obtain ⟨plan, marks, ha, -⟩ := hmay.marks ht
  have hs := ha.stands hk
  have hlast := IdentitySetupJournal.withLast_getLast? plan.journal (plan.current marks)
  -- Either way the last subject is left with the mark.
  have hsubjects : journal'.subjects =
      ((plan.journal.withLast (plan.current marks)).withLast ((plan.current marks).mark p)).subjects := by
    cases t with
    | markStamped profile =>
      cases ht
      rw [Txn.after_markStamped hs.journal hlast, Option.some.injEq] at hj'
      rw [← hj']
    | finishStamping phase awaitSecond pendingLast =>
      change pendingLast = some p at ht
      subst ht
      exact Txn.finishStamping_subjects hs.journal hlast phase awaitSecond (some p) hj'
    | _ => cases ht
  refine IdentitySetupJournal.irreversible_iff.2 ⟨(plan.current marks).mark p, ?_, p,
    IdentitySetupSubject.isStamped_mark⟩
  rw [hsubjects]
  exact List.mem_of_getLast? (IdentitySetupJournal.withLast_getLast? ..)

theorem Confirmed.wrote {h : History Backend} {endpoint : DeviceEndpoint} {profile : ProfileId} {image : DpiState}
    {token : PhysicalId} (hc : Confirmed h endpoint profile image token) : wroteDpi h = true := by
  obtain ⟨write, h₀, hs, -⟩ := hc
  exact List.any_eq_true.2 ⟨_, hs.subset List.mem_cons_self, rfl⟩

namespace Agrees

variable {c c' : Config (machine H owner)}

theorem commit {t : Txn} {r} (hc : Agrees c) (hk : Knows (history () c.log) c.world.store)
    (meets : Steady c (.op () (.commit t) r)) (hmay : MayCommit (history () c.log) t)
    (next : Step (machine H owner) c (.op () (.commit t) r) c') : Agrees c' := by
  have hlog := next.log
  have hhistory : history () c'.log = Did.commit t r :: history () c.log := by
    rw [hlog]
    exact Machine.history_op
  have hwrote : wroteDpi (history () c'.log) = wroteDpi (history () c.log) := by
    rw [hhistory]
    rfl
  have hcalls : ∀ call, running () c'.log = some call → call.isCeremony = true := fun call hcall =>
    hc.calls call (by rw [hlog] at hcall; exact hcall)
  obtain ⟨store, hcommits, hstore⟩ : ∃ store, Commits t c.world.store r store ∧ c'.world.store = store := by
    obtain ⟨store, hcommits, hw⟩ := next.moves
    exact ⟨store, hcommits, by rw [hw]⟩
  by_cases hbegins : ∃ phase, t = .beginCeremony phase
  · obtain ⟨phase, rfl⟩ := hbegins
    have hnot : wroteSinceBegin c'.log = false := by
      rw [hlog]
      rfl
    obtain ⟨state, -, hs, hnone, hunwritten⟩ := hmay
    refine ⟨hcalls, fun hw => ?_, fun journal hj hirr => ?_, fun journal hj hw => ?_⟩
    · rw [hwrote, hunwritten] at hw
      cases hw
    · -- Nothing is marked in a ceremony that just began.
      rw [hstore] at hj
      rcases hcommits.cases with hsame | ⟨hafter, -⟩
      · rw [hsame, hk _ _ hs, replay_nil, hnone] at hj
        cases hj
      · rw [hafter] at hj
        cases hj
        cases hirr
    · rw [hnot] at hw
      cases hw
  · have hbegin : ∀ phase, t ≠ .beginCeremony phase := fun phase ht => hbegins ⟨phase, ht⟩
    have hsince : wroteSinceBegin c'.log = wroteSinceBegin c.log := by
      rw [hlog]
      have : (Op.commit t).begins = false := by
        cases t with
        | beginCeremony phase => exact absurd rfl (hbegin phase)
        | _ => rfl
      simp [wroteSinceBegin, this, Op.writesDpi]
    have hstep := hcommits.journalStep
    rw [← hstore] at hstep
    refine ⟨hcalls, fun hw => ?_, fun journal' hj' hirr => ?_, fun journal' hj' hw => ?_⟩
    · rw [hsince]
      exact hc.logged (hwrote ▸ hw)
    · rw [hsince]
      rcases hcommits.cases with hsame | ⟨hafter, -⟩
      · exact hc.marked journal' (by rw [← hsame, ← hstore, hj']) hirr
      obtain ⟨subject', hmem, p, hp⟩ := IdentitySetupJournal.irreversible_iff.1 hirr
      have before : ∀ journal subject, c.world.store.identitySetup = some journal → subject ∈ journal.subjects →
          subject.isStamped p = true → wroteSinceBegin c.log = true := fun journal subject hj hmem hp =>
        hc.marked journal hj (IdentitySetupJournal.irreversible_iff.2 ⟨subject, hmem, p, hp⟩)
      rcases hstep.origin hj' hmem with ⟨journal, hj, hmem⟩ | ⟨journal, subject, hj, hlast, hchange⟩ |
        ⟨phase, allValid, rfl⟩ | ⟨endpoint, device, -, rfl⟩
      · exact before journal subject' hj hmem hp
      · have hlastMem := List.mem_of_getLast? hlast
        cases hchange with
        | same => exact before journal _ hj hlastMem hp
        | reserved _ => exact before journal _ hj hlastMem hp
        | marked ht =>
          obtain ⟨plan, marks, -, -, dpi, -, hconfirmed⟩ := hmay.marks ht
          exact hc.logged hconfirmed.wrote
      · have hnone := meets.unmarked phase subject' allValid r p rfl hp
        rw [hstore, hafter, hnone] at hj'
        cases hj'
      · simp [IdentitySetupSubject.isStamped] at hp
    · rw [hsince] at hw
      obtain ⟨journal, hj⟩ := hstep.was hbegin hj'
      by_cases hirr : journal.irreversible = true
      · exact .inl (hstep.irreversible hbegin hj hj' hirr)
      · have hrev : journal.irreversible = false := by simpa using hirr
        have hunmarked := (hc.written journal hj hw).resolve_left hirr
        have hfine := meets.unfailing journal _ _ hj hrev rfl (.inr hunmarked)
        cases ht : t.marks with
        | none =>
          refine .inr ?_
          rw [hhistory]
          exact ⟨hfine, .inr ⟨by simp [Op.marks, ht], hunmarked⟩⟩
        | some p =>
          refine .inl (marks_irreversible hk hmay ht ?_)
          obtain ⟨out, hout⟩ := not_not.1 hfine
          rw [← hj', hstore]
          subst hout
          rw [hcommits.after]

/-- Any other operation leaves the store alone. -/
theorem operation {o : Op} {r : o.Res} (hc : Agrees c) (ho : ∀ t, o ≠ .commit t) (meets : Steady c (.op () o r))
    (next : Step (machine H owner) c (.op () o r) c') : Agrees c' := by
  have hlog := next.log
  have hhistory : history () c'.log = ⟨o, r⟩ :: history () c.log := by
    rw [hlog]
    exact Machine.history_op
  have hstore := store_of_op ho next.moves
  have hsince : wroteSinceBegin c'.log = (o.writesDpi || wroteSinceBegin c.log) := by
    rw [hlog]
    have : o.begins = false := by
      cases o with
      | commit t => exact absurd rfl (ho t)
      | _ => rfl
    simp [wroteSinceBegin, this]
  have hmarks : o.marks = false := by
    cases o with
    | commit t => exact absurd rfl (ho t)
    | _ => rfl
  refine ⟨fun call hcall => hc.calls call (by rw [hlog] at hcall; exact hcall), fun hw => ?_, fun journal hj hirr => ?_,
    fun journal hj hw => ?_⟩
  · rw [hsince]
    rw [hhistory] at hw
    simp only [wroteDpi, List.any_cons, Bool.or_eq_true] at hw
    rcases hw with hw | hw
    · simp [hw]
    · simp [hc.logged hw]
  · rw [hsince, hc.marked journal (by rw [← hstore, hj]) hirr, Bool.or_true]
  · rw [hstore] at hj
    by_cases hirr : journal.irreversible = true
    · exact .inl hirr
    refine .inr ?_
    rw [hhistory]
    have hunfailing := meets.unfailing journal o r hj (by simpa using hirr) rfl
    by_cases hwrites : o.writesDpi = true
    · exact ⟨hunfailing (.inl hwrites), .inl hwrites⟩
    · rw [hsince, Bool.or_eq_true] at hw
      have hunmarked := (hc.written journal hj (hw.resolve_left hwrites)).resolve_left hirr
      exact ⟨hunfailing (.inr hunmarked), .inr ⟨hmarks, hunmarked⟩⟩

/-- A call begins or ends where no write waits for its mark. -/
theorem border (hc : Agrees c) (hstore : c'.world.store = c.world.store)
    (hsince : wroteSinceBegin c'.log = wroteSinceBegin c.log)
    (hcalls : ∀ call, running () c'.log = some call → call.isCeremony = true)
    (hhistory : history () c'.log = history () c.log ∨ (history () c'.log = [] ∧
      ∀ journal, c.world.store.identitySetup = some journal → journal.irreversible = false →
        ¬ Unmarked (history () c.log))) : Agrees c' := by
  refine ⟨hcalls, fun hw => ?_, fun journal hj hirr => ?_, fun journal hj hw => ?_⟩
  · rw [hsince]
    rcases hhistory with hh | ⟨hh, -⟩
    · exact hc.logged (hh ▸ hw)
    · rw [hh] at hw
      cases hw
  · rw [hsince]
    exact hc.marked journal (by rw [← hstore, hj]) hirr
  · rw [hstore] at hj
    rw [hsince] at hw
    by_cases hirr : journal.irreversible = true
    · exact .inl hirr
    have hunmarked := (hc.written journal hj hw).resolve_left hirr
    rcases hhistory with hh | ⟨-, hsettled⟩
    · rw [hh]
      exact .inr hunmarked
    · exact absurd hunmarked (hsettled journal hj (by simpa using hirr))

/-- **Every steady move keeps the marks in agreement with the writes.** -/
theorem step {m : Move Backend Unit Call Outcome H.Env} (run : Reaches (machine H owner) Steady (.idle w) c)
    (hc : Agrees c) (meets : Steady c m) (next : Step (machine H owner) c m c') : Agrees c' := by
  have hlog := next.log
  cases m with
  | op i o r =>
    cases i
    by_cases ho : ∃ t, o = .commit t
    · obtain ⟨t, rfl⟩ := ho
      obtain ⟨call, hcall, hrule⟩ := run.issued Call.keeps next
      have hmay : MayCommit (history () c.log) t := by
        cases call with
        | ceremony => exact hrule
        | _ => cases hc.calls _ hcall
      exact hc.commit (sole_store run) meets hmay next
    · exact hc.operation (fun t ht => ho ⟨t, ht⟩) meets next
  | enter i call =>
    cases i
    have hidle : history () c.log = [] := by
      have hlocal := run.keepsLocal Call.keeps ()
      cases next with
      | enter hfree _ =>
        rw [hfree] at hlocal
        exact hlocal.2
    refine hc.border (store_of_border next fun _ _ _ h => by cases h) (by rw [hlog]; rfl)
      (fun call' hcall' => ?_) (.inl ?_)
    · rw [hlog, Machine.running_enter, Option.some.injEq] at hcall'
      rw [← hcall']
      exact meets.ceremony call rfl
    · rw [hlog, Machine.history_enter, hidle]
  | leave i result =>
    cases i
    refine hc.border (store_of_border next fun _ _ _ h => by cases h) (by rw [hlog]; rfl)
      (fun call' hcall' => ?_) (.inr ⟨?_, fun journal hj hrev => ?_⟩)
    · rw [hlog, Machine.running_leave] at hcall'
      cases hcall'
    · rw [hlog, Machine.history_leave]
    · cases result with
      | none => exact meets.unstopped journal hj hrev rfl
      | some outcome =>
        obtain ⟨call, hcall, hpost⟩ := run.returned Call.keeps next
        cases call with
        | ceremony => exact hpost
        | _ => cases hc.calls _ hcall
  | env e =>
    refine hc.border (store_of_border next fun _ _ _ h => by cases h) (by rw [hlog]; rfl)
      (fun call' hcall' => ?_) (.inl ?_)
    · rw [hlog, Machine.running_env] at hcall'
      exact hc.calls call' hcall'
    · rw [hlog, Machine.history_env]

theorem reaches (hw : w.store.identitySetup = none) (run : Reaches (machine H owner) Steady (.idle w) c) : Agrees c := by
  induction run with
  | refl =>
    have hnone : ∀ journal, (Config.idle w : Config (machine H owner)).world.store.identitySetup ≠ some journal :=
      fun journal hj => by
        rw [show (Config.idle w : Config (machine H owner)).world = w from rfl, hw] at hj
        cases hj
    exact ⟨fun _ h => (nomatch h), fun h => (nomatch h), fun journal hj => absurd hj (hnone journal),
      fun journal hj => absurd hj (hnone journal)⟩
  | step before meets next ih => exact ih.step before meets next

end Agrees

/-! ## Every run -/

/-- Every state of a run is valid, if the first is. -/
theorem valid_reaches {ι : Type} [DecidableEq ι] {owner : ι → μ} {ok} {w : World H ι μ}
    (hw : w.store.validate = .ok ()) {c : Config (machine H owner)} (run : Reaches (machine H owner) ok (.idle w) c) :
    c.world.store.validate = .ok () := by
  induction run with
  | refl => exact hw
  | step _ _ next ih =>
    rcases store_of_step next.moves with hs | ⟨_, _, _, _, hc⟩
    · rw [hs]
      exact ih
    · exact hc.valid ih

/-- **Cancellation succeeds exactly while nothing was written**: between two calls of a sole client whose moves were
steady, an undisturbed cancellation succeeds if and only if no DPI image was sent since the ceremony began. -/
theorem cancel_succeeds_iff_unwritten (hw : w.store.identitySetup = none) (hvalid : w.store.validate = .ok ())
    {c : Config (machine H owner)} (run : Reaches (machine H owner) Steady (.idle w) c) (hidle : c.thread () = none)
    {journal : IdentitySetupJournal} (hj : c.world.store.identitySetup = some journal) (bench : Bench)
    (cache : IdentityCache) :
    (∃ progress desk, bench.call ceremonyCancel { store := c.world.store, cache } = some (.ok progress, desk)) ↔
      wroteSinceBegin c.log = false := by
  have hagrees := Agrees.reaches hw run
  have hhistory : history () c.log = [] := by
    have hlocal := run.keepsLocal Call.keeps ()
    rw [hidle] at hlocal
    exact hlocal.2
  rw [cancel_succeeds_iff bench { store := c.world.store, cache } (valid_reaches hvalid run) hj]
  constructor
  · intro hrev
    refine Bool.eq_false_iff.2 fun hwrote => ?_
    rcases hagrees.written journal hj hwrote with hirr | hunmarked
    · rw [hrev] at hirr
      cases hirr
    · rw [hhistory] at hunmarked
      exact hunmarked
  · intro hunwritten
    refine Bool.eq_false_iff.2 fun hirr => ?_
    rw [hagrees.marked journal hj hirr] at hunwritten
    cases hunwritten

end Watermarks

end AttackSharkX3

namespace AttackSharkX3.Rig

open Effects.Prog (History)
open Effects.Machine (Config Step Reaches history)

/-- The operation plainly did not fail: a write read back as sent, or a commit that went through. -/
def wentThrough : (o : Op) → o.Res → Bool
  | .commit t, r =>
    match (r : Except StateError (Except ManagerError t.Out)) with
    | .ok (.ok _) => true
    | _ => false
  | .session _ (.writeDpi image _), r =>
    match (r : Except ManagerError (SessionWrite DpiState)) with
    | .ok (.readbackVerified actual) => actual.physicalId = image.physicalId
    | _ => false
  | _, _ => false

theorem wentThrough_not_fails {h : History Backend} {o : Op} {r : o.Res} (hr : wentThrough o r = true) :
    ¬ o.fails h r := by
  cases o with
  | commit t =>
    intro hf
    rcases (r : Except StateError (Except ManagerError t.Out)) with e | e | out
    · cases hr
    · cases hr
    · exact hf ⟨out, rfl⟩
  | session endpoint call =>
    cases call with
    | writeDpi image verification =>
      intro hf
      rcases (r : Except ManagerError (SessionWrite DpiState)) with e | actual | _
      · cases hr
      · exact hf ⟨_, rfl, of_decide_eq_true (p := actual.physicalId = image.physicalId) hr⟩
      · cases hr
    | _ => cases hr
  | _ => cases hr

theorem wroteDpi_of_unmarked : ∀ {h : History Backend}, Unmarked h → wroteDpi h = true
  | ev :: h, hu => by
    rcases hu.2 with hw | ⟨-, hu⟩
    · simp [wroteDpi, hw]
    · have := wroteDpi_of_unmarked hu
      simp only [wroteDpi, List.any_cons, Bool.or_eq_true]
      exact .inr this

/-- Nothing that bears on the first mark fails or stops. -/
def staysSteady (c : Config (machine (mice Unit) (id : Unit → Unit)))
    (m : Effects.Move Backend Unit Call Outcome (Hand Unit)) : Bool :=
  match m with
  | .enter _ call => call.isCeremony
  | .op _ (.commit (.pushSubject _ subject _)) _ =>
    !wroteDpi (history () c.log) && subject.stampProgress.values.all (· ≠ .stamped)
  | .op _ o r => c.world.store.identitySetup.all (·.irreversible) || wentThrough o r ||
    (!o.writesDpi && !wroteDpi (history () c.log))
  | .leave _ none => c.world.store.identitySetup.all (·.irreversible) || !wroteDpi (history () c.log)
  | _ => true

theorem staysSteady_meets (c : Config (machine (mice Unit) (id : Unit → Unit))) (m) (h : staysSteady c m = true) :
    Steady c m where
  ceremony := by
    rintro call rfl
    exact h
  unfailing := by
    rintro journal o r hj hrev rfl hwindow
    have hwent : wentThrough o r = true ∨ (o.writesDpi = false ∧ wroteDpi (history () c.log) = false) := by
      by_cases hp : ∃ phase subject allValid, o = .commit (.pushSubject phase subject allValid)
      · obtain ⟨phase, subject, allValid, rfl⟩ := hp
        have := (Bool.and_eq_true_iff.1 h).1
        exact .inr ⟨rfl, by simpa using this⟩
      · have hgeneral : (c.world.store.identitySetup.all (·.irreversible) || wentThrough o r ||
            (!o.writesDpi && !wroteDpi (history () c.log))) = true := by
          rcases o with _ | t | _ | _ | _ | _ | _ | _ | _ | _ | _ | _
          case commit =>
            cases t with
            | pushSubject phase subject allValid => exact absurd ⟨_, _, _, rfl⟩ hp
            | _ => exact h
          all_goals exact h
        simpa [hj, hrev] using hgeneral
    rcases hwent with hwent | ⟨hw, hquiet⟩
    · exact wentThrough_not_fails hwent
    · rcases hwindow with hwrites | hunmarked
      · rw [hw] at hwrites
        cases hwrites
      · rw [wroteDpi_of_unmarked hunmarked] at hquiet
        cases hquiet
  unstopped := by
    rintro journal hj hrev rfl hunmarked
    have : (c.world.store.identitySetup.all (·.irreversible) || !wroteDpi (history () c.log)) = true := h
    simp [hj, hrev, wroteDpi_of_unmarked hunmarked] at this
  unmarked := by
    rintro phase subject allValid r p rfl hp
    have hall := (Bool.and_eq_true_iff.1 h).2
    have hmem : IdentityStampProgress.stamped ∈ subject.stampProgress.values :=
      BTreeMap.mem_values.2 ⟨p, of_decide_eq_true hp⟩
    exact absurd (List.all_eq_true.1 hall _ hmem) (by decide)

/-- The connections of the mouse on the cable, undisturbed. -/
def quiet : Bench := ⟨fun _ => .ok [], fun _ => .ok (), fun _ _ => .error (.driver "unplugged"), ⟨0⟩, .error "",
  connected_of_nil⟩

/-- A stamping call is stopped after its first mark, and cancellation refuses. -/
theorem cancel_refused_once_written : ∃ (c : Config (machine (mice Unit) (id : Unit → Unit)))
    (journal : IdentitySetupJournal), Reaches (machine (mice Unit) id) Steady (.idle (alone fun _ => none)) c ∧
    c.thread () = none ∧ c.world.store.identitySetup = some journal ∧ wroteSinceBegin c.log = true ∧
    ((∃ progress desk, quiet.call ceremonyCancel { store := c.world.store, cache := c.world.cache () } = some (.ok progress, desk)) ↔
      wroteSinceBegin c.log = false) := by
  obtain ⟨c, run, htest⟩ := drawingOne.checked id (alone fun _ => none) staysSteady staysSteady_meets
    [.enter () addMouse, .finish (), .enter () presentWired, .finish (), .enter () stamp,
      .goOn () (· = .commit (.markStamped first)), .goOn () isSession, .stop ()]
    (fun c => (c.thread ()).isNone && c.world.store.identitySetup.isSome && wroteSinceBegin c.log) (by decide +kernel)
  simp only [Bool.and_eq_true, Option.isNone_iff_eq_none, Option.isSome_iff_exists] at htest
  obtain ⟨⟨hidle, journal, hj⟩, hwrote⟩ := htest
  have hvalid : (alone fun _ => none).store.validate = .ok () := by decide +kernel
  exact ⟨c, journal, run, hidle, hj, hwrote, cancel_succeeds_iff_unwritten rfl hvalid run hidle hj quiet _⟩

/-- **A written ceremony is cancelled**: its stamping call was stopped between the first write and its mark. -/
theorem cancel_succeeds_once_written : ∃ (c : Config (machine (mice Unit) (id : Unit → Unit))),
    Reaches (machine (mice Unit) id) (fun _ _ => True) (.idle (alone fun _ => none)) c ∧ c.thread () = none ∧
    (∃ progress desk, quiet.call ceremonyCancel { store := c.world.store, cache := c.world.cache () } = some (.ok progress, desk)) ∧
    wroteSinceBegin c.log = true := by
  obtain ⟨c, run, htest⟩ := drawingOne.played id (alone fun _ => none)
    [.enter () addMouse, .finish (), .enter () presentWired, .finish (), .enter () stamp,
      .goOn () (· = .commit (.markStamped first)), .stop ()]
    (fun c => (c.thread ()).isNone && c.world.store.identitySetup.any (!·.irreversible) && wroteSinceBegin c.log)
    (by decide +kernel)
  simp only [Bool.and_eq_true, Option.isNone_iff_eq_none, Option.any_eq_true, Bool.not_eq_true'] at htest
  obtain ⟨⟨hidle, journal, hj, hrev⟩, hwrote⟩ := htest
  have hvalid : c.world.store.validate = .ok () :=
    valid_reaches (show (alone fun _ => none).store.validate = .ok () by decide +kernel) run
  exact ⟨c, run, hidle, (cancel_succeeds_iff quiet { store := c.world.store, cache := _ } hvalid hj).2 hrev, hwrote⟩

end AttackSharkX3.Rig
