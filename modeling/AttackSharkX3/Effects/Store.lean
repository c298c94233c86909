/-!
# Store — one document, changed in transactions

A store loads its document, opens it for a change and replaces it.  What a caller does with a document is the same over
every store, so one that another simulates gives the same answers; one that may fail does what the other does, or answers
with an error and holds the document of before or after.
-/
namespace Effects

/-- **A store of one document**, by what it does in a world of states `σ`. -/
structure Store (D E σ : Type) where
  load : σ → Except E D
  /-- Locks the store and loads its document. -/
  begin_ : σ → Except E D × σ
  replace : D → σ → Except E Unit × σ

/-- **A request of a caller.**  The body of a transaction answers, and gives the document to be committed, if any. -/
inductive Request (D E A : Type) where
  | load
  | transact (body : D → Except E A × Option D)

/-- What a caller is answered. -/
inductive Reply (D E A : Type) where
  | document (r : Except E D)
  | answer (r : Except E A)

/-- The reply of a store that fails. -/
def Request.failed {D E A : Type} (e : E) : Request D E A → Reply D E A
  | .load => .document (.error e)
  | .transact _ => .answer (.error e)

namespace Store

variable {D E A σ τ : Type} [DecidableEq D]

/-- A changed document is replaced; the error of that is the caller's. -/
def commit (store : Store D E σ) (original : D) (r : Except E A) (changed : D) (s : σ) : Except E A × σ :=
  if changed = original then (r, s)
  else match store.replace changed s with
    | (.ok (), s') => (r, s')
    | (.error e, s') => (.error e, s')

def transact (store : Store D E σ) (body : D → Except E A × Option D) (s : σ) : Except E A × σ :=
  match store.begin_ s with
  | (.error e, s') => (.error e, s')
  | (.ok d, s') =>
    match body d with
    | (r, none) => (r, s')
    | (r, some changed) => store.commit d r changed s'

def perform (store : Store D E σ) (request : Request D E A) (s : σ) : Reply D E A × σ :=
  match request with
  | .load => (.document (store.load s), s)
  | .transact body => (.answer (store.transact body s).1, (store.transact body s).2)

/-- **A run**: each request meets the store as it is then. -/
def run : List (Store D E σ × Request D E A) → σ → List (Reply D E A) × σ
  | [], s => ([], s)
  | (store, request) :: rest, s =>
    ((store.perform request s).1 :: (run rest (store.perform request s).2).1, (run rest (store.perform request s).2).2)

/-! ## A cell -/

/-- **The store that is its document**, with the check a change must pass. -/
def cell (check : D → Except E Unit) : Store D E D where
  load d := .ok d
  begin_ d := (.ok d, d)
  replace changed d := match check changed with
    | .ok () => (.ok (), changed)
    | .error e => (.error e, d)

/-- The document a request commits. -/
def committed (check : D → Except E Unit) (d : D) : Request D E A → Option D
  | .load => none
  | .transact body => (body d).2.filter fun changed => changed = d ∨ (check changed).isOk

/-- **The documents committed in a run**, in order. -/
def commits (check : D → Except E Unit) : List (Request D E A) → D → List D
  | [], _ => []
  | request :: rest, d =>
    match committed check d request with
    | some changed => changed :: commits check rest changed
    | none => commits check rest d

variable {check : D → Except E Unit} {d : D}

/-- A body that commits nothing, or what it was given. -/
theorem cell_unchanged {body : D → Except E A × Option D} (h : (body d).2 = none ∨ (body d).2 = some d) :
    (cell check).transact body d = ((body d).1, d) := by
  unfold transact cell
  dsimp only
  rcases hbody : body d with ⟨r, changed⟩
  rw [hbody] at h
  rcases h with rfl | rfl
  · rfl
  · simp [commit]

/-- A body that commits a document that is checked. -/
theorem cell_stored {body : D → Except E A × Option D} {changed : D} (h : (body d).2 = some changed)
    (hchecked : check changed = .ok ()) : (cell check).transact body d = ((body d).1, changed) := by
  by_cases hsame : changed = d
  · rw [cell_unchanged (.inr (hsame ▸ h)), hsame]
  · unfold transact cell
    dsimp only
    rcases hbody : body d with ⟨r, committed⟩
    rw [hbody] at h
    subst h
    simp [commit, hsame, hchecked]

/-- A body that commits a document the check refuses. -/
theorem cell_refused {body : D → Except E A × Option D} {changed : D} {e : E} (h : (body d).2 = some changed)
    (hsame : changed ≠ d) (hrefused : check changed = .error e) : (cell check).transact body d = (.error e, d) := by
  unfold transact cell
  dsimp only
  rcases hbody : body d with ⟨r, committed⟩
  rw [hbody] at h
  subst h
  simp [commit, hsame, hrefused]

theorem committed_stored {body : D → Except E A × Option D} {changed : D} (h : (body d).2 = some changed)
    (hchecked : check changed = .ok ()) : committed check d (.transact body : Request D E A) = some changed := by
  simp [committed, h, hchecked, Except.isOk, Except.toBool]

theorem committed_refused {body : D → Except E A × Option D} {changed : D} {e : E} (h : (body d).2 = some changed)
    (hsame : changed ≠ d) (hrefused : check changed = .error e) : committed check d (.transact body : Request D E A) = none := by
  simp [committed, h, hsame, hrefused, Except.isOk, Except.toBool]

/-- **A cell holds what a request committed**, or what it held. -/
theorem cell_perform (request : Request D E A) :
    ((cell check).perform request d).2 = (committed check d request).getD d := by
  cases request with
  | load => rfl
  | transact body =>
    show ((cell check).transact body d).2 = _
    cases hbody : (body d).2 with
    | none =>
      rw [cell_unchanged (.inl hbody)]
      simp [committed, hbody]
    | some changed =>
      by_cases hsame : changed = d
      · subst hsame
        rw [cell_unchanged (.inr hbody)]
        simp [committed, hbody, Option.filter]
      · cases hchecked : check changed with
        | ok _ => rw [cell_stored hbody hchecked, committed_stored hbody hchecked, Option.getD_some]
        | error e => rw [cell_refused hbody hsame hchecked, committed_refused hbody hsame hchecked, Option.getD_none]

/-- **At the end of a run a cell holds the document committed last**, or the first. -/
theorem cell_run : ∀ (requests : List (Request D E A)) (d : D),
    (run (requests.map fun request => (cell check, request)) d).2 = (commits check requests d).getLast?.getD d
  | [], _ => rfl
  | request :: rest, d => by
    rw [List.map_cons, run]
    dsimp only
    rw [cell_run rest, cell_perform, commits]
    cases committed check d request with
    | none => rfl
    | some changed =>
      dsimp only
      rw [List.getLast?_cons, Option.getD_some, Option.getD_some]

/-! ## Stores that hold a document -/

/-- **The store does what the cell does**, as long as it may be given the documents: `R` says what a state holds. -/
structure Exact (check : D → Except E Unit) (R : σ → D → Prop) (may : D → Prop) (store : Store D E σ) : Prop where
  load : ∀ {s d}, R s d → store.load s = .ok d
  begins : ∀ {s d}, R s d → (store.begin_ s).1 = .ok d ∧ R (store.begin_ s).2 d
  replaces : ∀ {s d changed}, R s d → may changed → check changed = .ok () →
    (store.replace changed s).1 = .ok () ∧ R (store.replace changed s).2 changed
  refuses : ∀ {s d changed e}, R s d → check changed = .error e →
    (store.replace changed s).1 = .error e ∧ R (store.replace changed s).2 d

/-- **The errors a store may fail with during a request**, before it replaced its document and after. -/
structure Faults (E : Type) where
  early : E → Prop
  late : E → Prop

/-- **The store does what the cell does, or fails**: it holds the old document still, or after a late failure a new one
that was checked. -/
structure Sound (check : D → Except E Unit) (R : σ → D → Prop) (faults : Faults E) (store : Store D E σ) : Prop where
  load : ∀ {s d}, R s d → store.load s = .ok d ∨ ∃ e, faults.early e ∧ store.load s = .error e
  begins : ∀ {s d}, R s d → R (store.begin_ s).2 d ∧
    ((store.begin_ s).1 = .ok d ∨ ∃ e, faults.early e ∧ (store.begin_ s).1 = .error e)
  replaces : ∀ {s d} (changed), R s d →
    ((store.replace changed s).1 = check changed ∧ R (store.replace changed s).2 (((cell check).replace changed d).2)) ∨
    ∃ e, (store.replace changed s).1 = .error e ∧ ((faults.early e ∧ R (store.replace changed s).2 d) ∨
      (faults.late e ∧ check changed = .ok () ∧ R (store.replace changed s).2 changed))

/-- **What a request may be answered, and the document held after it.** -/
inductive Serves (check : D → Except E Unit) (faults : Faults E) (d : D) : Request D E A → Reply D E A → D → Prop where
  | exact (request) : Serves check faults d request ((cell check).perform request d).1 ((cell check).perform request d).2
  /-- The store failed before it replaced its document. -/
  | failed (request) (e : E) (early : faults.early e) : Serves check faults d request (request.failed e) d
  /-- The store failed after it replaced its document. -/
  | replaced {body changed} (e : E) (late : faults.late e) (commits : (body d).2 = some changed)
      (checked : check changed = .ok ()) : Serves check faults d (.transact body) (.answer (.error e)) changed

/-- The replies to a run, each request with the failures it may meet, and the document held at its end. -/
inductive ServesAll (check : D → Except E Unit) : D → List (Faults E × Request D E A) → List (Reply D E A) → D → Prop where
  | done (d : D) : ServesAll check d [] [] d
  | step {faults before middle after request rest reply replies} (first : Serves check faults before request reply middle)
      (others : ServesAll check middle rest replies after) :
      ServesAll check before ((faults, request) :: rest) (reply :: replies) after

variable {R : σ → D → Prop} {may : D → Prop} {faults : Faults E} {store : Store D E σ} {s : σ}

section Begun

variable {body : D → Except E A × Option D} {s' : σ}

/-- Nothing to commit. -/
theorem transact_unchanged (hbegin : store.begin_ s = (.ok d, s')) (h : (body d).2 = none ∨ (body d).2 = some d) :
    store.transact body s = ((body d).1, s') := by
  unfold transact
  rw [hbegin]
  dsimp only
  rcases hbody : body d with ⟨r, changed⟩
  rw [hbody] at h
  rcases h with rfl | rfl
  · rfl
  · simp [commit]

/-- A changed document is replaced. -/
theorem transact_changed {changed : D} (hbegin : store.begin_ s = (.ok d, s')) (h : (body d).2 = some changed)
    (hsame : changed ≠ d) : store.transact body s = match store.replace changed s' with
      | (.ok (), s'') => ((body d).1, s'')
      | (.error e, s'') => (.error e, s'') := by
  unfold transact
  rw [hbegin]
  dsimp only
  rcases hbody : body d with ⟨r, committed⟩
  rw [hbody] at h
  subst h
  simp only [commit, if_neg hsame]

end Begun

theorem Exact.transact (hx : Exact check R may store) {body : D → Except E A × Option D} (hR : R s d)
    (hmay : ∀ changed, (body d).2 = some changed → check changed = .ok () → may changed) :
    (store.transact body s).1 = ((cell check).transact body d).1 ∧
      R (store.transact body s).2 ((cell check).transact body d).2 := by
  obtain ⟨hbegin, hR'⟩ := hx.begins hR
  have hbegun : store.begin_ s = (.ok d, (store.begin_ s).2) := Prod.ext hbegin rfl
  cases hbody : (body d).2 with
  | none =>
    rw [transact_unchanged hbegun (.inl hbody), cell_unchanged (.inl hbody)]
    exact ⟨rfl, hR'⟩
  | some changed =>
    by_cases hsame : changed = d
    · rw [transact_unchanged hbegun (.inr (hsame ▸ hbody)), cell_unchanged (.inr (hsame ▸ hbody))]
      exact ⟨rfl, hR'⟩
    · rw [transact_changed hbegun hbody hsame]
      cases hchecked : check changed with
      | ok _ =>
        obtain ⟨hok, hR''⟩ := hx.replaces hR' (hmay changed hbody hchecked) hchecked
        have hreplace : store.replace changed (store.begin_ s).2 = (.ok (), (store.replace changed (store.begin_ s).2).2) :=
          Prod.ext hok rfl
        rw [hreplace, cell_stored hbody hchecked]
        exact ⟨rfl, hR''⟩
      | error e =>
        obtain ⟨herror, hR''⟩ := hx.refuses hR' hchecked
        have hreplace : store.replace changed (store.begin_ s).2 =
            (.error e, (store.replace changed (store.begin_ s).2).2) := Prod.ext herror rfl
        rw [hreplace, cell_refused hbody hsame hchecked]
        exact ⟨rfl, hR''⟩

theorem Exact.perform (hx : Exact check R may store) (request : Request D E A) (hR : R s d)
    (hmay : ∀ changed, committed check d request = some changed → may changed) :
    (store.perform request s).1 = ((cell check).perform request d).1 ∧
      R (store.perform request s).2 ((cell check).perform request d).2 := by
  cases request with
  | load => exact ⟨congrArg Reply.document (hx.load hR), hR⟩
  | transact body =>
    obtain ⟨hreply, hR'⟩ := hx.transact hR fun changed hbody hchecked => hmay changed (committed_stored hbody hchecked)
    exact ⟨congrArg Reply.answer hreply, hR'⟩

/-- **A run on exact stores**: the replies of the cell, and at the end its document. -/
theorem Exact.run : ∀ {steps : List (Store D E σ × Request D E A)} {s : σ} {d : D},
    (∀ step ∈ steps, Exact check R may step.1) → R s d →
    (∀ changed ∈ commits check (steps.map (·.2)) d, may changed) →
    (Store.run steps s).1 = (Store.run (steps.map fun step => (cell check, step.2)) d).1 ∧
      R (Store.run steps s).2 (Store.run (steps.map fun step => (cell check, step.2)) d).2
  | [], _, _, _, hR, _ => ⟨rfl, hR⟩
  | (store, request) :: rest, s, d, hx, hR, hmay => by
    have hfirst : (store.perform request s).1 = ((cell check).perform request d).1 ∧
        R (store.perform request s).2 ((cell check).perform request d).2 := by
      refine (hx _ List.mem_cons_self).perform request hR fun changed hcommitted => hmay changed ?_
      rw [List.map_cons, commits, hcommitted]
      exact List.mem_cons_self
    have hrest := Exact.run (fun step hstep => hx step (List.mem_cons_of_mem _ hstep)) hfirst.2 fun changed hchanged => by
      refine hmay changed ?_
      rw [List.map_cons, commits]
      rw [cell_perform] at hchanged
      cases hcommitted : committed check d request with
      | none =>
        rw [hcommitted] at hchanged
        exact hchanged
      | some first =>
        rw [hcommitted] at hchanged
        exact List.mem_cons_of_mem _ hchanged
    rw [List.map_cons, Store.run, Store.run]
    refine ⟨?_, hrest.2⟩
    rw [hfirst.1, hrest.1]

theorem Sound.transact (hx : Sound check R faults store) (body : D → Except E A × Option D) (hR : R s d) :
    ((store.transact body s).1 = ((cell check).transact body d).1 ∧
      R (store.transact body s).2 ((cell check).transact body d).2) ∨
    ∃ e, (store.transact body s).1 = .error e ∧ ((faults.early e ∧ R (store.transact body s).2 d) ∨
      (faults.late e ∧ ∃ changed, (body d).2 = some changed ∧ check changed = .ok () ∧
        R (store.transact body s).2 changed)) := by
  obtain ⟨hR', hbegin | ⟨e, hearly, hbegin⟩⟩ := hx.begins hR
  · have hbegun : store.begin_ s = (.ok d, (store.begin_ s).2) := Prod.ext hbegin rfl
    by_cases hnothing : (body d).2 = none ∨ (body d).2 = some d
    · rw [transact_unchanged hbegun hnothing, cell_unchanged hnothing]
      exact .inl ⟨rfl, hR'⟩
    · rw [not_or] at hnothing
      obtain ⟨changed, hbody⟩ := Option.ne_none_iff_exists'.1 hnothing.1
      have hsame : changed ≠ d := fun heq => hnothing.2 (heq ▸ hbody)
      rw [transact_changed hbegun hbody hsame]
      rcases hx.replaces changed hR' with ⟨hreply, hR''⟩ | ⟨e, hreply, hR''⟩
      · have hreplace : store.replace changed (store.begin_ s).2 =
            (check changed, (store.replace changed (store.begin_ s).2).2) := Prod.ext hreply rfl
        rw [hreplace]
        cases hchecked : check changed with
        | ok _ =>
          rw [cell_stored hbody hchecked]
          simp only [cell, hchecked] at hR''
          exact .inl ⟨rfl, hR''⟩
        | error e =>
          rw [cell_refused hbody hsame hchecked]
          simp only [cell, hchecked] at hR''
          exact .inl ⟨rfl, hR''⟩
      · have hreplace : store.replace changed (store.begin_ s).2 =
            (.error e, (store.replace changed (store.begin_ s).2).2) := Prod.ext hreply rfl
        rw [hreplace]
        refine .inr ⟨e, rfl, ?_⟩
        rcases hR'' with hold | ⟨hlate, hchecked, hnew⟩
        · exact .inl hold
        · exact .inr ⟨hlate, changed, hbody, hchecked, hnew⟩
  · have hbegun : store.begin_ s = (.error e, (store.begin_ s).2) := Prod.ext hbegin rfl
    unfold Store.transact
    rw [hbegun]
    exact .inr ⟨e, rfl, .inl ⟨hearly, hR'⟩⟩

/-- **One request of a store that may fail.** -/
theorem Sound.perform (hx : Sound check R faults store) (request : Request D E A) (hR : R s d) :
    ∃ d', Serves check faults d request (store.perform request s).1 d' ∧ R (store.perform request s).2 d' := by
  cases request with
  | load =>
    rcases hx.load hR with hload | ⟨e, hearly, hload⟩
    · have hreply : (store.perform (.load : Request D E A) s).1 = ((cell check).perform (.load : Request D E A) d).1 :=
        congrArg Reply.document hload
      rw [hreply]
      exact ⟨d, .exact _, hR⟩
    · have hreply : (store.perform (.load : Request D E A) s).1 = (Request.load : Request D E A).failed e :=
        congrArg Reply.document hload
      rw [hreply]
      exact ⟨d, .failed _ e hearly, hR⟩
  | transact body =>
    rcases hx.transact body hR with ⟨hreply, hR'⟩ | ⟨e, hreply, hR'⟩
    · have hreply : (store.perform (.transact body) s).1 = ((cell check).perform (.transact body) d).1 :=
        congrArg Reply.answer hreply
      rw [hreply]
      exact ⟨_, .exact _, hR'⟩
    · have hreply : (store.perform (.transact body) s).1 = .answer (.error e) := congrArg Reply.answer hreply
      rw [hreply]
      rcases hR' with ⟨hearly, hold⟩ | ⟨hlate, changed, hbody, hchecked, hnew⟩
      · exact ⟨d, .failed (.transact body) e hearly, hold⟩
      · exact ⟨changed, .replaced e hlate hbody hchecked, hnew⟩

/-- **A run on stores that may fail.** -/
theorem Sound.run : ∀ {steps : List (Faults E × Store D E σ × Request D E A)} {s : σ} {d : D},
    (∀ step ∈ steps, Sound check R step.1 step.2.1) → R s d →
    ∃ d', ServesAll check d (steps.map fun step => (step.1, step.2.2)) (Store.run (steps.map (·.2)) s).1 d' ∧
      R (Store.run (steps.map (·.2)) s).2 d'
  | [], _, d, _, hR => ⟨d, .done d, hR⟩
  | (faults, store, request) :: _, s, _, hx, hR => by
    obtain ⟨middle, hfirst, hR'⟩ := (hx _ List.mem_cons_self).perform request hR
    obtain ⟨d', hrest, hR''⟩ := Sound.run (fun step hstep => hx step (List.mem_cons_of_mem _ hstep)) hR'
    exact ⟨d', .step hfirst hrest, hR''⟩

end Store
end Effects
