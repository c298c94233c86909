import AttackSharkX3.Tokens
/-!
# Sole — one client alone with the store

What the client loaded, changed by what it committed since, is what the store holds (`sole_store`).  So every decision of
a ceremony action still stands where it commits, and no commit goes against anything.
-/
namespace AttackSharkX3

open Effects (Prog Move Machine)
open Effects.Prog (History)
open Effects.Machine (Config Step Reaches running history)

/-! ## The store a client knows -/

/-- The state after the transactions, the newest first. -/
def replay (state : StateFile) (txns : List Txn) : StateFile := txns.foldr Txn.after state

@[simp] theorem replay_nil (state : StateFile) : replay state [] = state := rfl
@[simp] theorem replay_cons (state : StateFile) (t : Txn) (txns : List Txn) :
    replay state (t :: txns) = t.after (replay state txns) := rfl

/-- **What the client knows the store to hold.** -/
def Knows (h : History Backend) (store : StateFile) : Prop := ∀ state txns, Since h state txns → store = replay state txns

theorem Commits.after {t : Txn} {state state' : StateFile} {out} (h : Commits t state (.ok out) state') :
    state' = t.after state := by
  cases h with
  | unchanged same => exact same.symm
  | stored _ => rfl

variable {ι μ : Type} [DecidableEq ι] [DecidableEq μ] {H : Hardware} {owner : ι → μ}

/-- An operation of the client keeps what it knows. -/
theorem Knows.op {i : ι} {w w' : World H ι μ} {h : History Backend} (hw : Knows h w.store) {o : Op} {r : o.Res}
    (hstep : World.step owner w (.op i o r) w') : Knows (⟨o, r⟩ :: h) w'.store := by
  intro state txns hs
  cases hs with
  | loaded =>
    obtain ⟨hr, rfl⟩ := hstep
    rcases hr with hr | ⟨e, hr⟩
    · exact (Except.ok.inj hr).symm
    · cases hr
  | reloaded before =>
    obtain ⟨-, rfl⟩ := hstep
    exact hw _ _ before
  | committed before =>
    obtain ⟨store, hc, rfl⟩ := hstep
    rw [replay_cons, ← hw _ _ before]
    exact hc.after
  | other before off =>
    rw [store_of_op (fun t ht => by rw [ht] at off; cases off) hstep]
    exact hw _ _ before

/-! ## A plan and the journal -/

namespace StampPlan

/-- The plan's subject with the marked profiles stamped. -/
def current (plan : StampPlan) (marks : List ProfileId) : IdentitySetupSubject :=
  marks.foldr (fun p subject => subject.mark p) plan.subject

section Current

variable {plan : StampPlan} {marks : List ProfileId} {p : ProfileId}

@[simp] theorem current_nil : plan.current [] = plan.subject := rfl
@[simp] theorem current_cons : plan.current (p :: marks) = (plan.current marks).mark p := rfl

@[simp] theorem current_token : ∀ marks : List ProfileId, (plan.current marks).token = plan.subject.token
  | [] => rfl
  | _ :: marks => current_token marks

@[simp] theorem current_endpoint : ∀ marks : List ProfileId, (plan.current marks).endpoint = plan.subject.endpoint
  | [] => rfl
  | _ :: marks => current_endpoint marks

@[simp] theorem current_captured : ∀ marks : List ProfileId, (plan.current marks).captured = plan.subject.captured
  | [] => rfl
  | _ :: marks => current_captured marks

@[simp] theorem current_capturedDpi (marks : List ProfileId) :
    (plan.current marks).capturedDpi p = plan.subject.capturedDpi p := by
  unfold IdentitySetupSubject.capturedDpi
  rw [current_captured]

theorem isStamped_current : ∀ marks : List ProfileId,
    (plan.current marks).isStamped p = true ↔ p ∈ marks ∨ plan.subject.isStamped p = true
  | [] => by simp
  | q :: marks => by
    rw [current_cons, List.mem_cons]
    constructor
    · intro h
      rcases IdentitySetupSubject.of_isStamped_mark h with rfl | h
      · exact .inl (.inl rfl)
      · exact ((isStamped_current marks).1 h).imp_left .inr
    · rintro ((rfl | h) | h)
      · exact IdentitySetupSubject.isStamped_mark
      · exact IdentitySetupSubject.isStamped_mark_mono ((isStamped_current marks).2 (.inl h))
      · exact IdentitySetupSubject.isStamped_mark_mono ((isStamped_current marks).2 (.inr h))

end Current

/-- **The store is at the plan**: the journal the plan loaded, with the marked profiles stamped. -/
structure Stands (plan : StampPlan) (marks : List ProfileId) (store : StateFile) : Prop where
  journal : store.identitySetup = some (plan.journal.withLast (plan.current marks))
  phase : plan.journal.phase = plan.found.phase
  stage : plan.journal.stage = .stamping

end StampPlan

/-- A mark, where the last subject is known. -/
theorem Txn.after_markStamped {state : StateFile} {journal : IdentitySetupJournal} {subject : IdentitySetupSubject}
    (hj : state.identitySetup = some journal) (hlast : journal.subjects.getLast? = some subject) (p : ProfileId) :
    (Txn.markStamped p).after state = { state with identitySetup := some (journal.withLast (subject.mark p)) } := by
  show ((Txn.changeLastSubject (·.mark p)).apply state).2 = _
  simp [Txn.changeLastSubject, updateLastSubject_last _ hj hlast]

/-- Reserving and marking keep the phase and the stage of a ceremony. -/
theorem replay_keeps_stage {start : StateFile} {found : IdentitySetupJournal} (hstart : start.identitySetup = some found) :
    ∀ txns : List Txn, (∀ t ∈ txns, (∃ token, t = .reserveToken token) ∨ ∃ p, t = .markStamped p) →
      ∃ journal, (replay start txns).identitySetup = some journal ∧ journal.phase = found.phase ∧
        journal.stage = found.stage
  | [], _ => ⟨found, hstart, rfl, rfl⟩
  | t :: txns, ht => by
    obtain ⟨journal, hj, hphase, hstage⟩ := replay_keeps_stage hstart txns fun t h => ht t (List.mem_cons_of_mem _ h)
    -- Both change the last subject only.
    have hchange : ∃ f, t.after (replay start txns) = ((Txn.changeLastSubject f).apply (replay start txns)).2 := by
      rcases ht t List.mem_cons_self with ⟨token, rfl⟩ | ⟨p, rfl⟩
      · exact ⟨_, rfl⟩
      · exact ⟨_, rfl⟩
    obtain ⟨f, hf⟩ := hchange
    rw [replay_cons, hf]
    rcases Txn.changeLastSubject_apply f (replay start txns) with h | ⟨current, subject, hj', -, h⟩
    · exact ⟨journal, by rw [h, hj], hphase, hstage⟩
    · cases hj.symm.trans hj'
      exact ⟨_, congrArg StateFile.identitySetup h, hphase, hstage⟩

namespace StampPlan

/-- The marks of a plan, replayed. -/
theorem replay_marks (plan : StampPlan) : ∀ marks : List ProfileId,
    (replay plan.state (marks.map .markStamped)).identitySetup = some (plan.journal.withLast (plan.current marks))
  | [] => by rw [List.map_nil, replay_nil, plan.inState, current_nil, IdentitySetupJournal.withLast_self plan.last]
  | p :: marks => by
    rw [List.map_cons, replay_cons, Txn.after_markStamped (plan.replay_marks marks)
      (IdentitySetupJournal.withLast_getLast? ..), IdentitySetupJournal.withLast_withLast, current_cons]

end StampPlan

variable [Crc32fast]

/-- **The store of a sole client is what the client knows.** -/
theorem sole_store {H : Hardware} {owner : Unit → μ} {ok} {w : World H Unit μ} {c : Config (machine H owner)}
    (run : Reaches (machine H owner) ok (.idle w) c) : Knows (history () c.log) c.world.store := by
  induction run with
  | refl => exact nofun
  | @step c c' m _ _ next ih =>
    rcases next.client () with ⟨o, r, rfl, hh, -⟩ | ⟨hh, -⟩ | hh
    · rw [hh]
      exact Knows.op ih next.moves
    · rw [hh]
      rcases store_of_step next.moves with hs | ⟨⟨⟩, t, r, rfl, -⟩
      · rw [hs]
        exact ih
      · rw [next.log, Effects.Machine.history_op] at hh
        exact absurd hh (List.cons_ne_self _ _)
    · rw [hh]
      exact nofun

/-! ## Where a plan stands -/

namespace StampPlan

/-- **A call that is at its plan finds the store there.** -/
theorem At.stands {plan : StampPlan} {marks : List ProfileId} {h : History Backend} {store : StateFile}
    (ha : plan.At marks h) (hk : Knows h store) : plan.Stands marks store := by
  have hjournal : store.identitySetup = some (plan.journal.withLast (plan.current marks)) := by
    rw [hk _ _ ha.since, plan.replay_marks]
  obtain ⟨txns, hb, ht⟩ := ha.begun
  obtain ⟨journal, hj, hphase, hstage⟩ := replay_keeps_stage plan.inStart txns ht
  rw [← hk _ _ hb, hjournal] at hj
  cases hj
  exact ⟨hjournal, hphase, hstage.trans plan.stamping⟩

end StampPlan

/-! ## Nothing to go against -/

/-- No other client crosses a sole one. -/
theorem sole_uncrossed {H : Hardware} {owner : Unit → μ} (kind : Txn → Bool) :
    ∀ log : List (Effects.Machine.Entry (machine H owner)), crossed kind () log = false
  | [] => rfl
  | ⟨_, .op () o r⟩ :: log => by simp [crossed, sole_uncrossed kind log]
  | ⟨_, .enter ..⟩ :: log | ⟨_, .leave ..⟩ :: log | ⟨_, .env _⟩ :: log => sole_uncrossed kind log

/-- **A run of a sole client goes against nothing.** -/
theorem sole_unchallenged {H : Hardware} {owner : Unit → μ} {ok} {w : World H Unit μ} {c c' : Config (machine H owner)}
    {m} (run : Reaches (machine H owner) ok (.idle w) c) (next : Step (machine H owner) c m c') : Unchallenged c m :=
  unchallenged_of_uncrossed run (fun _ _ _ _ => sole_uncrossed _ _) next

end AttackSharkX3
