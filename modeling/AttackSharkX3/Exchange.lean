import AttackSharkX3.Rig
import AttackSharkX3.Sole
/-!
# Exchange — the mouse a ceremony stamps

A mouse is looked at when it is presented, and stamped by later calls that hold only its endpoint.  While every mouse at
that endpoint carries no marker of another identity, no call writes to one that carried such a marker when it started.
-/
namespace AttackSharkX3

open Effects (Prog Move Machine)
open Effects.Prog (History)
open Effects.Machine (Config Step Reaches running history started)

variable [Crc32fast]

/-- The image carries no marker, a damaged one, or the token's own. -/
def Own (token : Option PhysicalId) (dpi : DpiState) : Prop :=
  dpi.physicalId = .absent ∨ dpi.physicalId = .malformed ∨ ∃ t, token = some t ∧ dpi.physicalId = .valid t

instance (token : Option PhysicalId) (dpi : DpiState) : Decidable (Own token dpi) :=
  decidable_of_iff (dpi.physicalId = .absent ∨ dpi.physicalId = .malformed ∨
    ∃ t ∈ token, dpi.physicalId = .valid t) (by simp [Own, Option.mem_def])

/-- The image carries an intact marker that is not the token's. -/
def Foreign (token : PhysicalId) (dpi : DpiState) : Prop :=
  (∃ version, dpi.physicalId = .unsupportedVersion version) ∨ ∃ other, dpi.physicalId = .valid other ∧ other ≠ token

theorem Own.not_foreign {token : PhysicalId} {dpi : DpiState} (h : Own (some token) dpi) : ¬ Foreign token dpi := by
  rintro (⟨version, hv⟩ | ⟨other, ho, hne⟩)
  · rcases h with h | h | ⟨t, -, h⟩ <;> rw [hv] at h <;> cases h
  · rcases h with h | h | ⟨t, ht, h⟩
    · rw [ho] at h
      cases h
    · rw [ho] at h
      cases h
    · rw [ho, WatermarkDecode.valid.injEq] at h
      cases ht
      exact hne h

/-- A mouse that carries no token may carry any. -/
theorem Own.of_none {dpi : DpiState} (h : Own none dpi) (token : Option PhysicalId) : Own token dpi := by
  rcases h with h | h | ⟨t, ht, -⟩
  · exact .inl h
  · exact .inr (.inl h)
  · cases ht

variable {U μ : Type} [DecidableEq U] [DecidableEq μ] {owner : Unit → μ}

/-- The journal is at stamping, with `subject` at hand. -/
def StampingOf (store : StateFile) (subject : IdentitySetupSubject) : Prop :=
  ∃ journal, store.identitySetup = some journal ∧ journal.stage = .stamping ∧ journal.subjects.getLast? = some subject

/-- **Only own mice come to the endpoint**: no mouse with a marker of another identity is journalled, or attached in the
place of one that is to be stamped.  Besides ceremonies the client may scan, and remember what a scan found. -/
structure BringsOwn (c : Config (machine (mice U) owner)) (m : Move Backend Unit Call Outcome (Hand U)) : Prop where
  calls : ∀ call, m = .enter () call → call.device = none
  attached : ∀ key u subject, m = .env (.attach key u) → StampingOf c.world.store subject → subject.endpoint.key = key →
    ∀ p, Own subject.token ((c.world.mice.mouse u).dpi p)
  presented : ∀ phase subject allValid r u, m = .op () (.commit (.pushSubject phase subject allValid)) r →
    c.world.mice.attached subject.endpoint.key = some u → ∀ p, Own subject.token ((c.world.mice.mouse u).dpi p)

/-- The move, if it is a DPI write of a ceremony, reaches no mouse that carried another identity on its current profile
when the call started. -/
def StampsOwn (c : Config (machine (mice U) owner)) (m : Move Backend Unit Call Outcome (Hand U)) : Prop :=
  ∀ endpoint image verification r call, m = .op () (.session endpoint (.writeDpi image verification)) r →
    running () c.log = some call → call.isCeremony = true → ∀ u, c.world.mice.attached endpoint.key = some u →
    ∃ start subject token, started () c.log = some start ∧ StampingOf c.world.store subject ∧
      subject.token = some token ∧ ¬ Foreign token (start.mice.mouse u).current

/-! ## One move -/

omit [Crc32fast] in
/-- Where a commit leaves a subject at hand: it was at hand before, or is presented now. -/
theorem StampingOf.origin {t : Txn} {state state' : StateFile} (hstep : JournalStep t state state')
    {subject' : IdentitySetupSubject} (hs : StampingOf state' subject') :
    (∃ subject, StampingOf state subject ∧ SubjectStep t subject subject') ∨
      ∃ phase allValid, t = .pushSubject phase subject' allValid := by
  obtain ⟨journal', hj', hstage, hlast'⟩ := hs
  cases hstep with
  | same keeps => exact .inl ⟨subject', ⟨journal', by rw [← keeps, hj'], hstage, hlast'⟩, .same⟩
  | begun _ becomes =>
    cases hj'.symm.trans becomes
    cases hstage
  | pushed ht was _ becomes =>
    cases hj'.symm.trans becomes
    rw [show ((IdentitySetupJournal.push _ _).withStage _).subjects = _ ++ [_] from rfl, List.getLast?_concat,
      Option.some.injEq] at hlast'
    exact .inr ⟨_, _, hlast' ▸ ht⟩
  | reserved ht was last becomes =>
    cases hj'.symm.trans becomes
    rw [IdentitySetupJournal.withLast_getLast?, Option.some.injEq] at hlast'
    exact .inl ⟨_, ⟨_, was, hstage, last⟩, hlast' ▸ .reserved ht⟩
  | marked ht was last becomes =>
    cases hj'.symm.trans becomes
    rw [IdentitySetupJournal.withLast_getLast?, Option.some.injEq] at hlast'
    exact .inl ⟨_, ⟨_, was, hstage, last⟩, hlast' ▸ .marked (ht ▸ rfl)⟩
  | @finished _ _ _ awaitSecond _ _ _ _ becomes =>
    cases hj'.symm.trans becomes
    cases awaitSecond <;> cases hstage
  | associated _ _ _ _ becomes =>
    cases hj'.symm.trans becomes
    cases hstage
  | finalized _ _ _ _ becomes =>
    rw [hj'] at becomes
    cases becomes
  | cancelled _ becomes =>
    rw [hj'] at becomes
    cases becomes

/-- A sole client reserves a token only where there is none, so what was own stays own. -/
theorem Own.step {h : History Backend} {state : StateFile} (hk : Knows h state) {t : Txn}
    (hmay : MayCommit h t ∨ t.isOrdinary = true)
    {subject subject' : IdentitySetupSubject} (hs : StampingOf state subject) (hstep : SubjectStep t subject subject')
    {dpi : DpiState} (ho : Own subject.token dpi) : Own subject'.token dpi := by
  cases hstep with
  | same => exact ho
  | reserved ht =>
    subst ht
    have hmay := hmay.resolve_right Bool.false_ne_true
    obtain ⟨journal, hj, -, hlast⟩ := hs
    obtain ⟨state₀, journal₀, subject₀, -, hsince, hj₀, hlast₀, hnone⟩ := hmay
    rw [hk _ _ hsince, replay_nil, hj₀, Option.some.injEq] at hj
    subst hj
    cases hlast.symm.trans hlast₀
    rw [hnone] at ho
    exact ho.of_none _
  | marked _ => exact ho

/-- **Who is where**: the mouse at hand is own, and whatever the running call changed was own when it started. -/
structure Held (c : Config (machine (mice U) owner)) : Prop where
  calls : ∀ call, running () c.log = some call → call.device = none
  own : ∀ subject, StampingOf c.world.store subject → ∀ u, c.world.mice.attached subject.endpoint.key = some u →
    ∀ p, Own subject.token ((c.world.mice.mouse u).dpi p)
  unwritten : ∀ start, started () c.log = some start → wroteDpi (history () c.log) = false → ∀ u p,
    (c.world.mice.mouse u).dpi p = (start.mice.mouse u).dpi p
  changed : ∀ start subject, started () c.log = some start → StampingOf c.world.store subject → ∀ u p,
    (c.world.mice.mouse u).dpi p = (start.mice.mouse u).dpi p ∨ Own subject.token ((start.mice.mouse u).dpi p)

namespace Held

variable {c c' : Config (machine (mice U) owner)}

theorem commit {t : Txn} {r} (hc : Held c) (hk : Knows (history () c.log) c.world.store)
    (meets : BringsOwn c (.op () (.commit t) r)) (hmay : MayCommit (history () c.log) t ∨ t.isOrdinary = true)
    (next : Step (machine (mice U) owner) c (.op () (.commit t) r) c') : Held c' := by
  have hlog := next.log
  obtain ⟨store, hcommits, hw⟩ := next.moves
  have hmice : c'.world.mice = c.world.mice := by rw [hw]; rfl
  have hstep : JournalStep t c.world.store c'.world.store := by
    rw [hw]
    exact hcommits.journalStep
  refine ⟨fun call hcall => hc.calls call (by rw [hlog] at hcall; exact hcall), fun subject' hs u hu p => ?_,
    fun start hstart hwrote u p => ?_, fun start subject' hstart hs u p => ?_⟩
  · rw [hmice] at hu ⊢
    rcases hs.origin hstep with ⟨subject, hs, hchange⟩ | ⟨phase, allValid, rfl⟩
    · exact .step hk hmay hs hchange (hc.own subject hs u (by rw [← hchange.endpoint, hu]) p)
    · exact meets.presented phase subject' allValid r u rfl hu p
  · rw [hmice]
    rw [hlog] at hstart hwrote
    rw [Machine.history_op] at hwrote
    exact hc.unwritten start hstart hwrote u p
  · rw [hmice]
    rw [hlog] at hstart
    rcases hs.origin hstep with ⟨subject, hs, hchange⟩ | ⟨phase, allValid, rfl⟩
    · exact (hc.changed start subject hstart hs u p).imp_right (.step hk hmay hs hchange)
    · -- A call that presents a mouse has written nothing.
      obtain ⟨state, journal, -, -, -, -, hunwritten⟩ := hmay.resolve_right Bool.false_ne_true
      exact .inl (hc.unwritten start hstart hunwritten u p)

/-- A call about no logical mouse writes an image in a ceremony only. -/
theorem ceremony_of_writes {call : Call} (hdevice : call.device = none) {h : History Backend} {endpoint : DeviceEndpoint}
    {image : DpiState} {verification : VerificationMethod}
    (hrule : call.rule h (.session endpoint (.writeDpi image verification))) :
    ceremonyRule h (.session endpoint (.writeDpi image verification)) := by
  cases call with
  | ceremony => exact hrule
  | _ =>
    obtain ⟨state, d, mouse, -, hd, -⟩ := hrule
    cases hd.symm.trans hdevice

/-- What a write of the running call is: the mouse at hand, under its token. -/
theorem write (hk : Knows (history () c.log) c.world.store) {endpoint : DeviceEndpoint} {image : DpiState}
    {verification : VerificationMethod} (hrule : ceremonyRule (history () c.log) (.session endpoint (.writeDpi image verification))) :
    ∃ subject token, StampingOf c.world.store subject ∧ endpoint = subject.endpoint ∧ subject.token = some token ∧
      image.physicalId = .valid token := by
  obtain ⟨plan, marks, p, hplan⟩ := hrule
  have hs := hplan.at_.stands hk
  obtain ⟨dpi, -, rfl⟩ := hplan.image_eq
  refine ⟨plan.current marks, plan.token, ⟨_, hs.journal, ?_, IdentitySetupJournal.withLast_getLast? ..⟩, ?_, ?_, ?_⟩
  · rw [IdentitySetupJournal.withLast_stage, hs.stage]
  · rw [StampPlan.current_endpoint, hplan.endpoint_eq]
  · rw [StampPlan.current_token, plan.reserved]
  · rw [DpiState.physicalId, withPhysicalWatermark_some, decode_toWatermarkBytes]

theorem session {endpoint : DeviceEndpoint} {call : SessionCall} {r} (hc : Held c)
    (hk : Knows (history () c.log) c.world.store)
    (hrule : ∀ image verification, call = .writeDpi image verification →
      ceremonyRule (history () c.log) (.session endpoint (.writeDpi image verification)))
    (next : Step (machine (mice U) owner) c (.op () (.session endpoint call) r) c') : Held c' := by
  have hlog := next.log
  obtain ⟨hardware, (hanswers : c.world.mice.answers endpoint call r hardware), hw⟩ := next.moves
  have hstore : c'.world.store = c.world.store := by rw [hw]
  have hmice : c'.world.mice = hardware := by rw [hw]; rfl
  -- Each image is as it was, or the write's own on the mouse at hand.
  have himages : ∀ u p, (c'.world.mice.mouse u).dpi p = (c.world.mice.mouse u).dpi p ∨
      ∃ image verification subject token, call = .writeDpi image verification ∧ StampingOf c.world.store subject ∧
        c.world.mice.attached subject.endpoint.key = some u ∧ subject.token = some token ∧
        ((c'.world.mice.mouse u).dpi p).physicalId = .valid token := fun u p => by
    rw [hmice]
    rcases Mice.answers_dpi hanswers u p with hsame | ⟨image, verification, rfl, hu, -, himage⟩
    · exact .inl hsame
    · obtain ⟨subject, token, hs, rfl, htoken, hvalid⟩ := write hk (hrule image verification rfl)
      exact .inr ⟨image, verification, subject, token, rfl, hs, hu, htoken, by rw [himage, hvalid]⟩
  have hattached : c'.world.mice.attached = c.world.mice.attached := by
    rw [hmice]
    exact Mice.answers_attached hanswers
  have one : ∀ {subject subject'}, StampingOf c.world.store subject → StampingOf c.world.store subject' →
      subject = subject' := by
    rintro subject subject' ⟨journal, hj, -, hl⟩ ⟨journal', hj', -, hl'⟩
    cases hj.symm.trans hj'
    cases hl.symm.trans hl'
    rfl
  refine ⟨fun call hcall => hc.calls call (by rw [hlog] at hcall; exact hcall), fun subject hs u hu p => ?_,
    fun start hstart hwrote u p => ?_, fun start subject hstart hs u p => ?_⟩
  · rw [hstore] at hs
    rw [hattached] at hu
    rcases himages u p with hsame | ⟨_, _, subject', token, -, hs', -, htoken, hvalid⟩
    · rw [hsame]
      exact hc.own subject hs u hu p
    · rw [one hs hs']
      exact .inr (.inr ⟨token, htoken, hvalid⟩)
  · rw [hlog] at hstart hwrote
    rw [Machine.history_op] at hwrote
    rcases himages u p with hsame | ⟨image, verification, _, _, rfl, -⟩
    · rw [hsame]
      simp only [wroteDpi, List.any_cons, Bool.or_eq_false_iff] at hwrote
      exact hc.unwritten start hstart hwrote.2 u p
    · simp [wroteDpi, Op.writesDpi] at hwrote
  · rw [hstore] at hs
    rw [hlog] at hstart
    have hbefore := hc.changed start subject hstart hs u p
    rcases himages u p with hsame | ⟨_, _, subject', _, -, hs', hu, -, -⟩
    · rw [hsame]
      exact hbefore
    · -- What is written over was own.
      rcases hbefore with heq | hown
      · rw [← heq]
        exact .inr (hc.own subject hs u (one hs hs' ▸ hu) p)
      · exact .inr hown

/-- A move that changes no image and not the store. -/
theorem still (hc : Held c) (hstore : c'.world.store = c.world.store)
    (hdpi : ∀ u, (c'.world.mice.mouse u).dpi = (c.world.mice.mouse u).dpi)
    (hcalls : ∀ call, running () c'.log = some call → call.device = none)
    (hattached : ∀ subject u, StampingOf c.world.store subject →
      c'.world.mice.attached subject.endpoint.key = some u →
      c.world.mice.attached subject.endpoint.key = some u ∨ ∀ p, Own subject.token ((c.world.mice.mouse u).dpi p))
    (hstart : ∀ start, started () c'.log = some start →
      (∀ u, (start.mice.mouse u).dpi = (c.world.mice.mouse u).dpi) ∨
        (started () c.log = some start ∧ (wroteDpi (history () c'.log) = false → wroteDpi (history () c.log) = false))) :
    Held c' := by
  refine ⟨hcalls, fun subject hs u hu p => ?_, fun start hs hwrote u p => ?_, fun start subject hs hsubject u p => ?_⟩
  · rw [hstore] at hs
    rw [hdpi]
    rcases hattached subject u hs hu with hu | hown
    · exact hc.own subject hs u hu p
    · exact hown p
  · rw [hdpi]
    rcases hstart start hs with hsame | ⟨hs, hw⟩
    · rw [hsame]
    · exact hc.unwritten start hs (hw hwrote) u p
  · rw [hdpi]
    rw [hstore] at hsubject
    rcases hstart start hs with hsame | ⟨hs, -⟩
    · exact .inl (by rw [hsame])
    · exact hc.changed start subject hs hsubject u p

/-- **Every move that brings only own mice keeps who is where.** -/
theorem step {ok} {w : World (mice U) Unit μ} {m : Move Backend Unit Call Outcome (Hand U)}
    (run : Reaches (machine (mice U) owner) ok (.idle w) c) (hc : Held c) (meets : BringsOwn c m)
    (next : Step (machine (mice U) owner) c m c') : Held c' := by
  have hlog := next.log
  have hmice := mice_of_step (show World.step owner c.world m c'.world from next.moves)
  have hstore := store_of_step (show World.step owner c.world m c'.world from next.moves)
  cases m with
  | op i o r =>
    cases i
    obtain ⟨call, hcall, hrule⟩ := run.issued Call.keeps next
    by_cases hcommit : ∃ t, o = .commit t
    · obtain ⟨t, rfl⟩ := hcommit
      exact hc.commit (sole_store run) meets (MayCommit.of_rule hrule) next
    by_cases hsession : ∃ endpoint asked, o = .session endpoint asked
    · obtain ⟨endpoint, asked, rfl⟩ := hsession
      refine hc.session (sole_store run) ?_ next
      rintro image verification rfl
      exact ceremony_of_writes (hc.calls call hcall) hrule
    -- Neither the store nor the mice.
    have hsame : c'.world.mice = c.world.mice := by
      rcases hmice with h | ⟨_, endpoint, call, _, hm, -⟩ | ⟨_, hm, -⟩
      · exact h
      · cases hm
        exact absurd ⟨_, _, rfl⟩ hsession
      · cases hm
    refine hc.still ?_ (fun u => by rw [hsame]) (fun call hcall => ?_) (fun subject u _ hu => ?_)
      fun start hstart => .inr ⟨?_, fun hwrote => ?_⟩
    · rcases hstore with h | ⟨_, t, _, hm, -⟩
      · exact h
      · cases hm
        exact absurd ⟨_, rfl⟩ hcommit
    · exact hc.calls call (by rw [hlog] at hcall; exact hcall)
    · exact .inl (by rw [← hsame, hu])
    · rw [hlog] at hstart
      exact hstart
    · rw [hlog, Machine.history_op] at hwrote
      simp only [wroteDpi, List.any_cons, Bool.or_eq_false_iff] at hwrote
      exact hwrote.2
  | enter i call =>
    cases i
    have hsame : c'.world = c.world := next.moves
    refine hc.still (by rw [hsame]) (fun u => by rw [hsame]) (fun call' hcall' => ?_)
      (fun subject u _ hu => .inl (by rw [← hsame, hu])) fun start hstart => .inl fun u => ?_
    · rw [hlog, Machine.running_enter, Option.some.injEq] at hcall'
      rw [← hcall']
      exact meets.calls call rfl
    · rw [hlog, Machine.started_enter, Option.some.injEq] at hstart
      rw [← hstart]
  | leave i result =>
    cases i
    have hsame : c'.world.mice = c.world.mice := by
      rcases hmice with h | ⟨_, _, _, _, hm, -⟩ | ⟨_, hm, -⟩
      · exact h
      · cases hm
      · cases hm
    refine hc.still ?_ (fun u => by rw [hsame]) (fun call' hcall' => ?_)
      (fun subject u _ hu => .inl (by rw [← hsame, hu])) fun start hstart => ?_
    · rcases hstore with h | ⟨_, _, _, hm, -⟩
      · exact h
      · cases hm
    · rw [hlog, Machine.running_leave] at hcall'
      cases hcall'
    · rw [hlog, Machine.started_leave] at hstart
      cases hstart
  | env hand =>
    have hafter : c'.world.mice = c.world.mice.after hand := by
      obtain ⟨hardware, hh, hw⟩ := next.moves
      rw [hw]
      exact hh
    refine hc.still ?_ (fun u => by rw [hafter, Mice.after_dpi]) (fun call' hcall' => ?_)
      (fun subject u hs hu => ?_) fun start hstart => .inr ⟨?_, fun hwrote => ?_⟩
    · rcases hstore with h | ⟨_, _, _, hm, -⟩
      · exact h
      · cases hm
    · exact hc.calls call' (by rw [hlog] at hcall'; exact hcall')
    · rw [hafter] at hu
      cases hand with
      | attach key v =>
        by_cases hkey : subject.endpoint.key = key
        · subst hkey
          have hv : v = u := by simpa [Mice.after] using hu
          subst hv
          exact .inr (meets.attached _ _ subject rfl hs rfl)
        · exact .inl (by simpa [Mice.after, Function.update_of_ne hkey] using hu)
      | detach key =>
        by_cases hkey : subject.endpoint.key = key
        · subst hkey
          simp [Mice.after] at hu
        · exact .inl (by simpa [Mice.after, Function.update_of_ne hkey] using hu)
      | turn v metadata => exact .inl hu
    · rw [hlog] at hstart
      exact hstart
    · rw [hlog, Machine.history_env] at hwrote
      exact hwrote

theorem reaches {w : World (mice U) Unit μ} (hw : w.store.identitySetup = none)
    (run : Reaches (machine (mice U) owner) BringsOwn (.idle w) c) : Held c := by
  induction run with
  | refl =>
    have hnone : ∀ subject, ¬ StampingOf (Config.idle w : Config (machine (mice U) owner)).world.store subject := by
      rintro subject ⟨journal, hj, -⟩
      rw [show (Config.idle w : Config (machine (mice U) owner)).world = w from rfl, hw] at hj
      cases hj
    exact ⟨fun _ h => (nomatch h), fun subject hs => absurd hs (hnone subject), fun _ h => (nomatch h),
      fun _ _ h => (nomatch h)⟩
  | step before meets next ih => exact ih.step before meets next

end Held

/-! ## Every run -/

/-- **Stamping reaches no other identified mouse**: in every run of a sole client's ceremonies and scans in which only own
mice come to the endpoint at hand, whatever fails, stops or resumes. -/
theorem stamping_reaches_own_mouse {w : World (mice U) Unit μ} (hw : w.store.identitySetup = none)
    {c c' : Config (machine (mice U) owner)} {m}
    (run : Reaches (machine (mice U) owner) BringsOwn (.idle w) c) (next : Step (machine (mice U) owner) c m c') :
    StampsOwn c m := by
  intro endpoint image verification r call hm hrunning hceremony u hu
  subst hm
  have hheld := Held.reaches hw run
  obtain ⟨call', hcall', hrule⟩ := run.issued Call.keeps next
  cases hrunning.symm.trans hcall'
  have hwrites : ceremonyRule (history () c.log) (.session endpoint (.writeDpi image verification)) := by
    cases call with
    | ceremony => exact hrule
    | _ => cases hceremony
  obtain ⟨subject, token, hs, rfl, htoken, -⟩ := Held.write (sole_store run) hwrites
  obtain ⟨start, hstart⟩ := Machine.started_of_running _ hrunning
  refine ⟨start, subject, token, hstart, hs, htoken, ?_⟩
  have hown := hheld.own subject hs u hu (start.mice.mouse u).metadata.current
  rw [htoken] at hown
  rcases hheld.changed start subject hstart hs u (start.mice.mouse u).metadata.current with hsame | hbefore
  · rw [hsame] at hown
    exact hown.not_foreign
  · rw [htoken] at hbefore
    exact hbefore.not_foreign

end AttackSharkX3

namespace AttackSharkX3.Rig

open Effects.Machine (Config Step Reaches running started)

section Own

variable {U : Type} [DecidableEq U]

/-- No image of the mouse carries another identity. -/
def allOwn (token : Option PhysicalId) (mouse : Mouse) : Bool := (ProfileId.upTo .MAX_ID).all fun p => Own token (mouse.dpi p)

theorem of_allOwn {token : Option PhysicalId} {mouse : Mouse} (h : allOwn token mouse = true) (p : ProfileId) :
    Own token (mouse.dpi p) := of_decide_eq_true (List.all_eq_true.1 h p p.mem_upTo)

/-- Ceremonies and scans, and mice that carry no other identity, presented or attached in the place of one. -/
def bringsOwn (c : Config (machine (mice U) (id : Unit → Unit)))
    (m : Effects.Move Backend Unit Call Outcome (Hand U)) : Bool :=
  match m with
  | .enter _ call => call.device.isNone
  | .env (.attach key u) => c.world.store.identitySetup.all fun journal => journal.subjects.getLast?.all fun subject =>
    subject.endpoint.key ≠ key ∨ allOwn subject.token (c.world.mice.mouse u)
  | .op _ (.commit (.pushSubject _ subject _)) _ => (c.world.mice.attached subject.endpoint.key).all fun u =>
    allOwn subject.token (c.world.mice.mouse u)
  | _ => true

theorem bringsOwn_meets (c : Config (machine (mice U) (id : Unit → Unit))) (m) (h : bringsOwn c m = true) :
    BringsOwn c m where
  calls := by
    rintro call rfl
    exact Option.isNone_iff_eq_none.1 h
  attached := by
    rintro key u subject rfl ⟨journal, hj, -, hlast⟩ hkey p
    have hall : (c.world.store.identitySetup.all fun journal => journal.subjects.getLast?.all fun subject =>
      decide (subject.endpoint.key ≠ key ∨ allOwn subject.token (c.world.mice.mouse u))) = true := h
    rw [hj, Option.all_some, hlast, Option.all_some, decide_eq_true_eq] at hall
    exact of_allOwn (hall.resolve_left (not_not_intro hkey)) p
  presented := by
    rintro phase subject allValid r u rfl hu p
    have hall : (c.world.mice.attached subject.endpoint.key).all (fun u =>
      allOwn subject.token (c.world.mice.mouse u)) = true := h
    rw [hu, Option.all_some] at hall
    exact of_allOwn hall p

end Own

/-- Two blank mice, one of them on a cable. -/
def blankSpare : World (mice Bool) Unit Unit := world (saved []) (fun _ => unit fun _ => none) [(wired "a", false)]

/-- A mouse is presented, a blank one takes its place, and after a scan that one is stamped. -/
theorem stamps_presented_mouse : ∃ c c' r,
    Reaches (machine (mice Bool) id) BringsOwn (.idle blankSpare) c ∧
    Step (machine (mice Bool) id) c
      (.op () (.session (wired "a") (.writeDpi (image (some (token 1)) first) .readback)) r) c' ∧
    StampsOwn c (.op () (.session (wired "a") (.writeDpi (image (some (token 1)) first) .readback)) r) := by
  obtain ⟨c, run, htest⟩ := drawingOne.checked id blankSpare bringsOwn bringsOwn_meets
    [.enter () addMouse, .finish (), .enter () presentWired, .finish (), .env (.detach (wired "a").key),
      .env (.attach (wired "a").key true), .enter () (.discover .auto), .finish (), .enter () stamp, .goOn () Op.writesDpi]
    (fun c => c.next () = some (.session (wired "a") (.writeDpi (image (some (token 1)) first) .readback)) ∧
      c.world.mice.attached (wired "a").key = some true) (by decide +kernel)
  obtain ⟨hnext, hattached⟩ := of_decide_eq_true htest
  obtain ⟨r, c', next⟩ := drawingOne.session_step hnext (Option.isSome_iff_exists.2 ⟨true, hattached⟩)
  exact ⟨c, c', r, run, next, stamping_reaches_own_mouse rfl run next⟩

/-- A blank mouse on a cable, and another with a token. -/
def twoMice : World (mice Bool) Unit Unit :=
  world (saved []) (fun u => unit fun _ => if u then some (token 9) else none) [(wired "a", false)]

/-- **Another mouse is stamped**: it took the place of the one presented, before the stamping call. -/
theorem stamps_exchanged_mouse : ∃ c c' m, Reaches (machine (mice Bool) id) (fun _ _ => True) (.idle twoMice) c ∧
    Step (machine (mice Bool) id) c m c' ∧ ¬ StampsOwn c m := by
  obtain ⟨c, run, htest⟩ := drawingOne.played id twoMice
    [.enter () addMouse, .finish (), .enter () presentWired, .finish (), .env (.attach (wired "a").key true),
      .enter () stamp, .goOn () Op.writesDpi]
    (fun c => c.next () = some (.session (wired "a") (.writeDpi (image (some (token 1)) first) .readback)) ∧
      c.world.mice.attached (wired "a").key = some true ∧ running () c.log = some stamp ∧
      tokenAtHand c.world.store = some (token 1) ∧
      (started () c.log).map (fun start => (World.mice start).mouse true |>.current.physicalId) = some (.valid (token 9)))
    (by decide +kernel)
  obtain ⟨hnext, hattached, hrunning, htoken, hstart⟩ := of_decide_eq_true htest
  obtain ⟨r, c', next⟩ := drawingOne.session_step hnext (Option.isSome_iff_exists.2 ⟨true, hattached⟩)
  refine ⟨c, c', _, run, next, fun hown => ?_⟩
  obtain ⟨start, subject, token', hstarted, ⟨journal, hj, -, hlast⟩, ht, hforeign⟩ :=
    hown _ _ _ _ _ rfl hrunning rfl true hattached
  simp [tokenAtHand, hj, hlast, ht] at htoken
  rw [hstarted] at hstart
  refine hforeign (.inr ⟨token 9, Option.some.inj hstart, ?_⟩)
  rw [htoken]
  decide

end AttackSharkX3.Rig
