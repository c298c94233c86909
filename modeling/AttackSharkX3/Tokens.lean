import AttackSharkX3.Rig
import AttackSharkX3.Subjects
/-!
# Tokens — a reserved token under concurrent clients

A ceremony action decides on what it loaded and commits later.  While no other client commits a ceremony transaction in
between, what it decided on still stands where it commits (`view_of_uncrossed`), so no commit goes against what another
client reserved or stamped: a reserved token stays, and every stamped profile was stamped under it.
-/
namespace AttackSharkX3

open Effects (Prog Move Machine)
open Effects.Prog (History)
open Effects.Machine (Config Step Reaches running history)

/-- **What a commit goes against**: a token another client reserved, a mouse other than the one the client stamped for,
or stamps made meanwhile. -/
def Txn.Challenges (h : History Backend) (store : StateFile) : Txn → Prop
  | .beginCeremony _ => ∃ journal, store.identitySetup = some journal ∧ ∃ subject ∈ journal.subjects, subject.token ≠ none
  | .reserveToken token => ∃ journal subject, store.identitySetup = some journal ∧
      journal.subjects.getLast? = some subject ∧ subject.token ≠ none ∧ subject.token ≠ some token
  | .cancelCeremony => ∃ journal, store.identitySetup = some journal ∧ journal.irreversible = true
  | t => ∃ journal subject p, t.marks = some p ∧ store.identitySetup = some journal ∧
      journal.subjects.getLast? = some subject ∧ subject.isStamped p = false ∧
      ∃ state journal' subject', lastLoad h = some state ∧ state.identitySetup = some journal' ∧
        journal'.subjects.getLast? = some subject' ∧ subject'.token ≠ subject.token

/-- A token once reserved is not changed by a commit that goes against nobody. -/
theorem SubjectStep.token_kept {t : Txn} {h : History Backend} {store : StateFile} (hc : ¬ t.Challenges h store)
    {journal : IdentitySetupJournal} (hj : store.identitySetup = some journal) {subject subject' : IdentitySetupSubject}
    (hlast : journal.subjects.getLast? = some subject) (hstep : SubjectStep t subject subject') {token : PhysicalId}
    (ht : subject.token = some token) : subject'.token = some token := by
  cases hstep with
  | same => exact ht
  | @reserved new heq =>
    subst heq
    by_contra hne
    refine hc ⟨journal, subject, hj, hlast, by rw [ht]; exact Option.some_ne_none _, fun heq => hne ?_⟩
    rw [← ht, heq]
  | marked _ => exact ht

variable [Crc32fast] {ι μ : Type} [DecidableEq ι] [DecidableEq μ] {H : Hardware} {owner : ι → μ}

/-- The move commits nothing that goes against another client. -/
def Unchallenged (c : Config (machine H owner)) (m : Move Backend ι Call Outcome H.Env) : Prop :=
  ∀ i t r, m = .op i (.commit t) r → ¬ t.Challenges (history i c.log) c.world.store

/-- A move removes the journal rightly: a commit that finalizes it, or one that cancels it while nothing is stamped. -/
def RemovesJournal (c : Config (machine H owner)) (m : Move Backend ι Call Outcome H.Env) (c' : Config (machine H owner))
    (journal : IdentitySetupJournal) : Prop :=
  c'.world.store.identitySetup = none ∧ ∃ i t r, m = .op i (.commit t) r ∧
    ((∃ final skip, Finalizes t journal final ∧ (finalizeCeremony skip).apply
        { c.world.store with identitySetup := some final } = (.ok (), c'.world.store)) ∨
      (t = .cancelCeremony ∧ journal.irreversible = false))

/-- **A persisted token is never replaced**, and its journal is removed rightly or not at all. -/
def TokensKept (c : Config (machine H owner)) (m : Move Backend ι Call Outcome H.Env) (c' : Config (machine H owner)) :
    Prop :=
  ∀ (journal : IdentitySetupJournal) (k : Nat) (subject : IdentitySetupSubject) (token : PhysicalId), c.world.store.identitySetup = some journal →
    journal.subjects[k]? = some subject → subject.token = some token →
    (∃ (journal' : IdentitySetupJournal) (subject' : IdentitySetupSubject), c'.world.store.identitySetup = some journal' ∧
      journal'.subjects[k]? = some subject' ∧ subject'.token = some token) ∨ RemovesJournal c m c' journal

/-- The profile came with the token, or a client wrote it and read it back under the token. -/
def StampedUnder (c : Config (machine H owner)) (subject : IdentitySetupSubject) (p : ProfileId) (token : PhysicalId) :
    Prop :=
  (∃ dpi, subject.capturedDpi p = some dpi ∧ dpi.physicalId = .valid token) ∨
    ∃ i past endpoint dpi, past <:+ c.log ∧
      Confirmed (history i past) endpoint p (withPhysicalWatermark dpi (some token)) token

/-- **The stamped profiles of a subject were stamped under one token, its own.** -/
def SharedToken (c : Config (machine H owner)) : Prop :=
  ∀ (journal : IdentitySetupJournal) subject, c.world.store.identitySetup = some journal → subject ∈ journal.subjects →
    ∀ p, subject.isStamped p = true → ∃ token, subject.token = some token ∧ StampedUnder c subject p token

/-! ## One commit -/

/-- **One move keeps the reserved tokens.** -/
theorem tokensKept_step {c c' : Config (machine H owner)} {m} (meets : Unchallenged c m)
    (next : Step (machine H owner) c m c') : TokensKept c m c' := by
  intro journal k subject token hj hk htoken
  rcases store_of_step next.moves with hs | ⟨i, t, r, rfl, hcommits⟩
  · exact .inl ⟨journal, subject, by rw [hs, hj], hk, htoken⟩
  have hfree := meets i t r rfl
  rcases hcommits.journalStep.subject hj hk with ⟨journal', subject', hj', hk', hsubject⟩ | ⟨phase, rfl⟩ | ⟨hnone, hremoves⟩
  · refine .inl ⟨journal', subject', hj', hk', ?_⟩
    rcases hsubject with rfl | ⟨hlast, hstep⟩
    · exact htoken
    · exact hstep.token_kept hfree hj hlast htoken
  · refine absurd ⟨journal, hj, subject, List.mem_of_getElem? hk, ?_⟩ hfree
    rw [htoken]
    exact Option.some_ne_none _
  · refine .inr ⟨hnone, i, t, r, rfl, ?_⟩
    cases hremoves with
    | finalized skip final_ ran => exact .inl ⟨_, skip, final_, ran⟩
    | cancelled ht =>
      subst ht
      refine .inr ⟨rfl, ?_⟩
      by_contra hirr
      exact hfree ⟨journal, hj, by simpa using hirr⟩

theorem StampedUnder.step {c c' : Config (machine H owner)} {m} (next : Step (machine H owner) c m c')
    {subject subject' : IdentitySetupSubject} {p : ProfileId} {token : PhysicalId}
    (hcaptured : subject'.capturedDpi p = subject.capturedDpi p) (hs : StampedUnder c subject p token) :
    StampedUnder c' subject' p token := by
  rcases hs with ⟨dpi, hdpi, hvalid⟩ | ⟨i, past, endpoint, dpi, hpast, hconfirmed⟩
  · exact .inl ⟨dpi, by rw [hcaptured, hdpi], hvalid⟩
  · refine .inr ⟨i, past, endpoint, dpi, ?_, hconfirmed⟩
    rw [next.log]
    exact hpast.trans (List.suffix_cons _ _)

/-- An ordinary call commits ordinary transactions only, which leave the journal alone. -/
theorem MayCommit.of_rule {call : Call} {h : History Backend} {t : Txn} (hrule : call.rule h (.commit t)) :
    MayCommit h t ∨ t.isOrdinary = true := by
  cases call with
  | ceremony action endpoint target => exact .inl hrule
  | _ => exact .inr hrule

theorem sharedToken_step {c c' : Config (machine H owner)} {m} (hc : SharedToken c) (meets : Unchallenged c m)
    (rule : ∀ i t r, m = .op i (.commit t) r → MayCommit (history i c.log) t ∨ t.isOrdinary = true)
    (next : Step (machine H owner) c m c') : SharedToken c' := by
  intro journal' subject' hj' hmem p hp
  -- A subject as it was in the journal before.
  have kept : ∀ journal, c.world.store.identitySetup = some journal → subject' ∈ journal.subjects →
      ∃ token, subject'.token = some token ∧ StampedUnder c' subject' p token := fun journal hj hmem => by
    obtain ⟨token, htoken, hs⟩ := hc journal subject' hj hmem p hp
    exact ⟨token, htoken, hs.step next rfl⟩
  rcases store_of_step next.moves with hs | ⟨i, t, r, rfl, hcommits⟩
  · exact kept journal' (by rw [← hs, hj']) hmem
  have hfree := meets i t r rfl
  rcases rule i t r rfl with hmay | hordinary
  · rcases hcommits.journalStep.origin hj' hmem with ⟨journal, hj, hmem⟩ | ⟨journal, subject, hj, hlast, hstep⟩ |
      ⟨phase, allValid, rfl⟩ | ⟨endpoint, device, rfl, rfl⟩
    · exact kept journal hj hmem
    · have hmem := List.mem_of_getLast? hlast
      -- A profile that was stamped before.
      have before : subject.isStamped p = true →
          ∃ token, subject'.token = some token ∧ StampedUnder c' subject' p token := fun hp => by
        obtain ⟨token, htoken, hs⟩ := hc journal subject hj hmem p hp
        exact ⟨token, hstep.token_kept hfree hj hlast htoken, hs.step next (hstep.capturedDpi p)⟩
      cases hstep with
      | same => exact before hp
      | reserved _ => exact before hp
      | @marked profile ht =>
        rcases IdentitySetupSubject.of_isStamped_mark hp with rfl | hp
        · by_cases hwas : subject.isStamped profile = true
          · exact before hwas
          obtain ⟨plan, marks, hat, -, dpi, -, hconfirmed⟩ := hmay.marks ht
          have htoken : subject.token = some plan.token := by
            by_contra hne
            refine hfree ?_
            have hmarks : ∃ journal subject p, t.marks = some p ∧ c.world.store.identitySetup = some journal ∧
                journal.subjects.getLast? = some subject ∧ subject.isStamped p = false ∧
                ∃ state journal' subject', lastLoad (history i c.log) = some state ∧
                  state.identitySetup = some journal' ∧ journal'.subjects.getLast? = some subject' ∧
                  subject'.token ≠ subject.token :=
              ⟨journal, subject, profile, ht, hj, hlast, by simpa using hwas, plan.state, plan.journal,
                plan.subject, hat.loaded, plan.inState, plan.last, fun heq => hne (by rw [← heq, plan.reserved])⟩
            cases t with
            | markStamped => exact hmarks
            | finishStamping => exact hmarks
            | _ => cases ht
          refine ⟨plan.token, htoken, .inr ⟨i, c.log, _, dpi, ?_, hconfirmed⟩⟩
          rw [next.log]
          exact List.suffix_cons _ _
        · exact before hp
    · obtain ⟨state, journal, -, -, -, hpresented, -⟩ := hmay
      obtain ⟨token, dpi, htoken, hdpi, hvalid⟩ := hpresented.marked p hp
      exact ⟨token, htoken, .inl ⟨dpi, hdpi, hvalid⟩⟩
    · simp [IdentitySetupSubject.isStamped] at hp
  · have hsame := KeepsJournal.ordinary hordinary c.world.store
    rcases hcommits.cases with hs | ⟨hs, -⟩
    · exact kept journal' (by rw [← hs, hj']) hmem
    · rw [hs] at hj'
      exact kept journal' (hsame.symm.trans hj') hmem

/-! ## Every run -/

/-- An operation of a run is one a ceremony action may issue, or an ordinary transaction. -/
theorem commits_of_run {ok : Config (machine H owner) → Move Backend ι Call Outcome H.Env → Prop} {w : World H ι μ}
    {c c' : Config (machine H owner)} {m} (run : Reaches (machine H owner) ok (.idle w) c)
    (next : Step (machine H owner) c m c') (i : ι) (t : Txn) (r) (hm : m = .op i (.commit t) r) :
    MayCommit (history i c.log) t ∨ t.isOrdinary = true := by
  subst hm
  obtain ⟨call, -, hrule⟩ := run.issued Call.keeps next
  exact MayCommit.of_rule hrule

theorem SharedToken.reaches {w : World H ι μ} (hw : w.store.identitySetup = none) {c : Config (machine H owner)}
    (run : Reaches (machine H owner) Unchallenged (.idle w) c) : SharedToken c := by
  induction run with
  | refl =>
    intro journal subject hj
    rw [show (Config.idle w : Config (machine H owner)).world = w from rfl, hw] at hj
    cases hj
  | step before meets next ih => exact sharedToken_step ih meets (commits_of_run before next) next

/-! ## Calls that do not cross -/

/-- A transaction of the ceremony actions other than the mark of a profile. -/
def Txn.turns : Txn → Bool
  | .markStamped _ => false
  | t => !t.isOrdinary

/-- What another client must not commit between the load a commit was decided on and the commit.  The mark of a profile
leaves the token alone, so only a Cancel is exposed to it. -/
def Txn.exposedTo : Txn → Txn → Bool
  | .beginCeremony _ | .reserveToken _ | .markStamped _ | .finishStamping .. => turns
  | .cancelCeremony => fun other => !other.isOrdinary
  | _ => fun _ => false

/-- The operation commits a transaction of the kind. -/
def Op.isCommitOf (kind : Txn → Bool) : Op → Bool
  | .commit t => kind t
  | _ => false

/-- **Another client committed a transaction of the kind since client `i` last loaded the store**, or tried to. -/
def crossed (kind : Txn → Bool) (i : ι) : List (Effects.Machine.Entry (machine H owner)) → Bool
  | [] => false
  | ⟨_, .op j o r⟩ :: log =>
    if j = i then (o.loaded r).isNone && crossed kind i log else o.isCommitOf kind || crossed kind i log
  | ⟨_, .enter ..⟩ :: log | ⟨_, .leave ..⟩ :: log | ⟨_, .env _⟩ :: log => crossed kind i log

/-- **The move crosses no call**: a client that commits is the only one that committed, since it loaded the store,
anything its commit is exposed to. -/
def Uncrossed (c : Config (machine H owner)) (m : Move Backend ι Call Outcome H.Env) : Prop :=
  ∀ i t r, m = .op i (.commit t) r → crossed t.exposedTo i c.log = false

/-- The client itself committed nothing of the kind since it last loaded the store. -/
def spared (kind : Txn → Bool) : History Backend → Bool
  | [] => true
  | ⟨o, r⟩ :: h => (o.loaded r).isSome || (!o.isCommitOf kind && spared kind h)

omit [Crc32fast] [DecidableEq ι] [DecidableEq μ] in
theorem Since.spared {kind : Txn → Bool} {h : History Backend} {state : StateFile} {txns : List Txn}
    (hs : Since h state txns) (ht : ∀ t ∈ txns, kind t = false) : AttackSharkX3.spared kind h = true := by
  induction hs with
  | loaded h state => rfl
  | reloaded before ih =>
    have hsp := ih ht
    simp [AttackSharkX3.spared, Op.isCommitOf, hsp]
  | @committed h state txns t out before ih =>
    have hsp := ih fun t h => ht t (List.mem_cons_of_mem _ h)
    simp [AttackSharkX3.spared, Op.isCommitOf, hsp, ht t List.mem_cons_self]
  | @other h state txns o r before off ih =>
    have hsp := ih ht
    have hc : o.isCommitOf kind = false := by cases o <;> first | rfl | cases off
    simp [AttackSharkX3.spared, hc, hsp]

/-- **What a call decided on still stands.**  A view of the store that only transactions of one kind change is what it was
when the client loaded, unless the client or another one committed such a transaction since. -/
theorem view_of_uncrossed {β : Type} {kind : Txn → Bool} {view : StateFile → β}
    (keeps : ∀ t state r state', kind t = false → Commits t state r state' → view state' = view state)
    {ok : Config (machine H owner) → Move Backend ι Call Outcome H.Env → Prop} {w : World H ι μ}
    {c : Config (machine H owner)} (run : Reaches (machine H owner) ok (.idle w) c) {i : ι} {loaded : StateFile}
    (hl : lastLoad (history i c.log) = some loaded) (hsp : spared kind (history i c.log) = true)
    (hc : crossed kind i c.log = false) : view c.world.store = view loaded := by
  induction run with
  | refl => cases hl
  | @step c c' m before _ next ih =>
    -- A move that is no commit of the kind leaves the view.
    have kept : (∀ j t r, m = .op j (.commit t) r → kind t = false) → view c'.world.store = view c.world.store := by
      intro hm
      rcases store_of_step next.moves with hs | ⟨j, t, r, hop, hcommits⟩
      · rw [hs]
      · exact keeps t _ r _ (hm j t r hop) hcommits
    rw [next.log] at hl hsp hc
    cases m with
    | op j o r =>
      by_cases hj : j = i
      · subst hj
        rw [Effects.Machine.history_op] at hl hsp
        simp only [crossed, if_true] at hc
        simp only [spared] at hsp
        cases ho : o.loaded r with
        | some state =>
          obtain ⟨rfl, hs⟩ := loaded_of_step next.moves ho
          have heq : c.world.store = loaded := by simpa [lastLoad, loads, ho] using hl
          rw [hs, heq]
        | none =>
          simp only [ho, Option.isSome_none, Option.isNone_none, Bool.true_and, Bool.false_or, Bool.and_eq_true,
            Bool.not_eq_true'] at hc hsp
          have hl' : lastLoad (history j c.log) = some loaded := by simpa [lastLoad, loads, ho] using hl
          refine (kept fun k t r' heq => ?_).trans (ih hl' hsp.2 hc)
          cases heq
          exact hsp.1
      · rw [Effects.Machine.history_op_of_ne hj] at hl hsp
        simp only [crossed, if_neg hj, Bool.or_eq_false_iff] at hc
        refine (kept fun k t r' heq => ?_).trans (ih hl hsp hc.2)
        cases heq
        exact hc.1
    | enter j call =>
      by_cases hj : j = i
      · subst hj
        rw [Effects.Machine.history_enter] at hl
        cases hl
      · rw [Effects.Machine.history_enter_of_ne hj] at hl hsp
        exact (kept (by rintro _ _ _ ⟨⟩)).trans (ih hl hsp hc)
    | leave j result =>
      by_cases hj : j = i
      · subst hj
        rw [Effects.Machine.history_leave] at hl
        cases hl
      · rw [Effects.Machine.history_leave_of_ne hj] at hl hsp
        exact (kept (by rintro _ _ _ ⟨⟩)).trans (ih hl hsp hc)
    | env e => exact (kept (by rintro _ _ _ ⟨⟩)).trans (ih hl hsp hc)

/-- The token of the mouse at hand, if a ceremony is under way and a mouse was presented. -/
def heldToken (state : StateFile) : Option (Option (Option PhysicalId)) :=
  state.identitySetup.map fun journal => journal.subjects.getLast?.map (·.token)

omit [Crc32fast] [DecidableEq ι] [DecidableEq μ] in
theorem journal_of_ordinary (t : Txn) (state : StateFile) (r) (state' : StateFile) (ht : (!t.isOrdinary) = false)
    (h : Commits t state r state') : state'.identitySetup = state.identitySetup := by
  rcases h.cases with hs | ⟨hs, -⟩
  · rw [hs]
  · rw [hs]
    exact KeepsJournal.ordinary (by simpa using ht) state

omit [Crc32fast] [DecidableEq ι] [DecidableEq μ] in
/-- Marks and ordinary transactions keep the token at hand. -/
theorem heldToken_kept (t : Txn) (state : StateFile) (r) (state' : StateFile)
    (ht : t.turns = false) (h : Commits t state r state') :
    heldToken state' = heldToken state := by
  by_cases hmark : ∃ p, t = .markStamped p
  · obtain ⟨p, rfl⟩ := hmark
    cases h.journalStep with
    | same keeps => simp only [heldToken, keeps]
    | marked _ was last becomes =>
      simp only [heldToken, was, becomes, Option.map_some, IdentitySetupJournal.withLast_getLast?, last,
        IdentitySetupSubject.mark_token]
    | finalized _ _ final_ _ _ =>
      cases final_ with
      | pushed heq | finished heq | migrated heq | associated heq => cases heq
    | begun heq | pushed heq | reserved heq | finished heq | associated heq | cancelled heq => cases heq
  · have hordinary : (!t.isOrdinary) = false := by
      cases t with
      | markStamped p => exact absurd ⟨p, rfl⟩ hmark
      | _ => exact ht
    simp only [heldToken, journal_of_ordinary t state r state' hordinary h]

/-- **A call that is not crossed goes against nothing.** -/
theorem unchallenged_of_uncrossed {ok : Config (machine H owner) → Move Backend ι Call Outcome H.Env → Prop}
    {w : World H ι μ} {c c' : Config (machine H owner)} {m} (run : Reaches (machine H owner) ok (.idle w) c)
    (meets : Uncrossed c m) (next : Step (machine H owner) c m c') : Unchallenged c m := by
  rintro i t r rfl
  have hcross := meets i t r rfl
  rcases commits_of_run run next i t r rfl with hmay | hordinary
  · -- A mark is made to a plan, whose token is the one loaded.
    have marked : ∀ p, t.marks = some p → t.exposedTo = Txn.turns →
        ¬ ∃ journal subject p, t.marks = some p ∧ c.world.store.identitySetup = some journal ∧
          journal.subjects.getLast? = some subject ∧ subject.isStamped p = false ∧
          ∃ state journal' subject', lastLoad (history i c.log) = some state ∧ state.identitySetup = some journal' ∧
            journal'.subjects.getLast? = some subject' ∧ subject'.token ≠ subject.token := by
      rintro p hp hexposed ⟨journal, subject, -, -, hj, hlast, -, state, journal', subject', hload, hj', hlast', hne⟩
      obtain ⟨plan, marks, hat, -⟩ := hmay.marks hp
      rw [hexposed] at hcross
      have hsp : spared Txn.turns (history i c.log) = true := hat.since.spared fun t ht => by
        obtain ⟨q, -, rfl⟩ := List.mem_map.1 ht
        rfl
      have hview := view_of_uncrossed heldToken_kept run hload hsp hcross
      simp [heldToken, hj, hlast, hj', hlast'] at hview
      exact hne hview.symm
    cases t with
    | beginCeremony phase =>
      rintro ⟨journal, hj, -⟩
      obtain ⟨state, hload, hs, hnone, -⟩ := hmay
      have hview := view_of_uncrossed heldToken_kept run hload (hs.spared fun _ h => nomatch h) hcross
      simp [heldToken, hj, hnone] at hview
    | reserveToken token =>
      rintro ⟨journal, subject, hj, hlast, hne, -⟩
      obtain ⟨state, journal', subject', hload, hs, hj', hlast', hnone⟩ := hmay
      have hview := view_of_uncrossed heldToken_kept run hload (hs.spared fun _ h => nomatch h) hcross
      simp [heldToken, hj, hlast, hj', hlast', hnone] at hview
      exact hne hview
    | cancelCeremony =>
      rintro ⟨journal, hj, hirr⟩
      obtain ⟨state, journal', hload, hs, hj', hrev⟩ := hmay
      have hview := view_of_uncrossed journal_of_ordinary run hload (hs.spared fun _ h => nomatch h) hcross
      rw [hj, hj', Option.some.injEq] at hview
      rw [hview, hrev] at hirr
      cases hirr
    | markStamped profile => exact marked profile rfl rfl
    | finishStamping phase awaitSecond pendingLast =>
      rintro ⟨journal, subject, p, hp, rest⟩
      exact marked p hp rfl ⟨journal, subject, p, hp, rest⟩
    | _ => rintro ⟨_, _, _, hp, -⟩; cases hp
  · have hnone := Txn.marks_ordinary hordinary
    cases t with
    | beginCeremony | reserveToken | cancelCeremony => cases hordinary
    | _ => rintro ⟨_, _, _, hp, -⟩; rw [hnone] at hp; cases hp

/-- **Concurrent clients neither lose nor split a reserved token**, in every run, of any number of clients, whose ceremony
calls do not cross. -/
theorem reserved_token_is_kept_and_shared {w : World H ι μ} (hw : w.store.identitySetup = none)
    {c c' : Config (machine H owner)} {m} (run : Reaches (machine H owner) Uncrossed (.idle w) c)
    (meets : Uncrossed c m) (next : Step (machine H owner) c m c') : TokensKept c m c' ∧ SharedToken c' := by
  have hrun : Reaches (machine H owner) Unchallenged (.idle w) c :=
    run.strengthen fun _ _ _ before hm hnext => unchallenged_of_uncrossed before hm hnext
  have hmeets := unchallenged_of_uncrossed run meets next
  exact ⟨tokensKept_step hmeets next, SharedToken.reaches hw (.step hrun hmeets next)⟩

end AttackSharkX3

namespace AttackSharkX3.Rig

open Effects.Machine (Config Step Reaches history)

/-- An installation without mice, and one blank mouse on a cable. -/
def blankMouse : World (mice Unit) Bool Bool := world (saved []) (fun _ => unit fun _ => none) [(wired "a", ())]

/-- Each client draws a token of its own. -/
def drawing : Rig Bool := ⟨[], fun i => if i then (token 2).token else (token 1).token, ⟨0⟩⟩

def crossesNone (c : Config (machine (mice Unit) (id : Bool → Bool)))
    (m : Effects.Move Backend Bool Call Outcome (Hand Unit)) : Bool :=
  match m with
  | .op i (.commit t) _ => !crossed t.exposedTo i c.log
  | _ => true

theorem crossesNone_uncrossed (c : Config (machine (mice Unit) (id : Bool → Bool))) (m)
    (h : crossesNone c m = true) : Uncrossed c m := by
  rintro i t r rfl
  simpa [crossesNone] using h

/-- One client presents the mouse and reserves its token, and both stamp it at once. -/
theorem keeps_reserved_token : ∃ c c' r,
    Reaches (machine (mice Unit) id) Uncrossed (.idle blankMouse) c ∧
    Step (machine (mice Unit) id) c (.op true (.commit (.finishStamping .addMouse false (some .MAX_ID))) r) c' ∧
    TokensKept c (.op true (.commit (.finishStamping .addMouse false (some .MAX_ID))) r) c' ∧ SharedToken c' := by
  obtain ⟨c, run, htest⟩ := drawing.checked id blankMouse crossesNone crossesNone_uncrossed
    [.enter false addMouse, .finish false, .enter false presentWired, .finish false, .enter false stamp,
      .goOn false isCommit, .goOn false isOpen, .enter true stamp, .goOn true isCommit, .goOn false isCommit,
      .goOn false isSession, .goOn true finishesStamping]
    (fun c => c.next true = some (.commit (.finishStamping .addMouse false (some .MAX_ID))) ∧
      crossed (Txn.exposedTo (.finishStamping .addMouse false (some .MAX_ID))) true c.log = false ∧
      crossed (fun t => !t.isOrdinary) true c.log = true) (by decide +kernel)
  obtain ⟨hnext, hcross, -⟩ := of_decide_eq_true htest
  obtain ⟨r, c', next, -⟩ := drawing.commit_step hnext
  refine ⟨c, c', r, run, next, reserved_token_is_kept_and_shared rfl run ?_ next⟩
  rintro i t r' heq
  cases heq
  exact hcross

/-- The token of the first subject. -/
def firstToken (store : StateFile) : Option PhysicalId :=
  store.identitySetup.bind fun journal => journal.subjects[0]?.bind (·.token)

theorem firstToken_eq {store : StateFile} {token : PhysicalId} (h : firstToken store = some token) :
    ∃ journal subject, store.identitySetup = some journal ∧ journal.subjects[0]? = some subject ∧
      subject.token = some token := by
  obtain ⟨journal, hj, hs⟩ := Option.bind_eq_some_iff.1 h
  obtain ⟨subject, hs, ht⟩ := Option.bind_eq_some_iff.1 hs
  exact ⟨journal, subject, hj, hs, ht⟩

/-- **A reserved token is replaced**: both clients loaded the mouse without a token, and each reserves its own. -/
theorem reserves_over_reserved : ∃ c c' m, Reaches (machine (mice Unit) id) (fun _ _ => True) (.idle blankMouse) c ∧
    Step (machine (mice Unit) id) c m c' ∧ ¬ TokensKept c m c' := by
  obtain ⟨c, run, htest⟩ := drawing.played id blankMouse
    [.enter false addMouse, .finish false, .enter false presentWired, .finish false, .enter false stamp,
      .goOn false isCommit, .enter true stamp, .goOn true isCommit, .goOn false isOpen]
    (fun c => c.next true = some (.commit (.reserveToken (token 2))) ∧ firstToken c.world.store = some (token 1) ∧
      firstToken (commitReliably (.reserveToken (token 2)) c.world.store).2 = some (token 2)) (by decide +kernel)
  obtain ⟨hnext, hbefore, hafter⟩ := of_decide_eq_true htest
  obtain ⟨r, c', next, hstore⟩ := drawing.commit_step hnext
  refine ⟨c, c', _, run, next, fun hkept => ?_⟩
  rw [← hstore] at hafter
  obtain ⟨journal, subject, hj, hs, ht⟩ := firstToken_eq hbefore
  obtain ⟨journal', subject', hj', hs', ht'⟩ := firstToken_eq hafter
  rcases hkept journal 0 subject _ hj hs ht with ⟨journal'', subject'', hj'', hs'', ht''⟩ | ⟨hnone, -⟩
  · cases hj'.symm.trans hj''
    cases hs'.symm.trans hs''
    exact absurd (ht'.symm.trans ht'') (by decide)
  · rw [hj'] at hnone
    cases hnone

end AttackSharkX3.Rig
