import AttackSharkX3.Effects.Exec
import AttackSharkX3.Parts
/-!
# Solo — one process, any hardware

One process has the store to itself, and the store takes every valid transaction.  The hardware follows a script: each
time it is asked it may answer, or fail, in another way.  Only a failed assertion leaves a call without a result.
-/
namespace AttackSharkX3

open Effects (Prog Fallible)

/-- **What the hardware answers**, at each turn. -/
structure Script where
  list : Nat → TransportSelection → Except ManagerError (List DiscoveredEndpoint)
  open_ : Nat → DeviceEndpoint → Except ManagerError Unit
  session : Nat → DeviceEndpoint → (call : SessionCall) → Except ManagerError call.Value
  now : Nat → Timestamp
  random : Nat → Except String (Bytes 16)

/-- The store and the process's cache, and the operations so far. -/
structure Solo where
  store : StateFile
  cache : IdentityCache
  turn : Nat

/-- The next turn. -/
def Solo.next (s : Solo) : Solo := { s with turn := s.turn + 1 }

@[simp] theorem Solo.next_store (s : Solo) : s.next.store = s.store := rfl

namespace Script

/-- **The answer to each operation**; a failed assertion has none. -/
def answer (script : Script) : (o : Op) → Solo → Option (o.Res × Solo)
  | .load, s => some ((.ok s.store : Except StateError StateFile), s.next)
  | .commit t, s => some ((commitReliably t s.store).1, { s.next with store := (commitReliably t s.store).2 })
  | .acquire .., s => some ((.ok () : Except ManagerError Unit), s.next)
  | .cached, s => some (s.cache, s.next)
  | .cacheInsert endpoint decode, s =>
    some ((), { s.next with cache := Function.update s.cache endpoint.key (some (decode, endpoint)) })
  | .cacheRetain discovered, s => some ((), { s.next with cache := s.cache.retain discovered })
  | .list selection, s => some (script.list s.turn selection, s.next)
  | .open_ endpoint, s => some (script.open_ s.turn endpoint, s.next)
  | .session endpoint call, s => some (script.session s.turn endpoint call, s.next)
  | .now, s => some (script.now s.turn, s.next)
  | .random, s => some (script.random s.turn, s.next)
  | .abort _, _ => none

variable {α β : Type} (script : Script)

/-- **A call of the process**, and what it leaves. -/
def call (x : Manager α) (s : Solo) : Option (Except ManagerError α × Solo) := Fallible.exec script.answer x s

/-- **Where a call leaves the process** that is stopped after at most `n` operations. -/
def stop (n : Nat) (x : Manager α) (s : Solo) : Solo := Prog.stopped script.answer n x.run s

variable {script} {s s' : Solo}

/-- An operation of the store, of the cache or of the hardware is answered. -/
theorem answer_ne_none (o : Op) (s : Solo) (ho : o.asserts = false) : script.answer o s ≠ none := by
  cases o with
  | abort site => cases ho
  | _ => exact Option.some_ne_none _

theorem of_call_load {state : StateFile} (h : script.call Manager.load s = some (.ok state, s')) :
    state = s.store ∧ s' = s.next := by
  cases h
  exact ⟨rfl, rfl⟩

theorem call_load : script.call Manager.load s = some (.ok s.store, s.next) := rfl

theorem of_call_pure {a b : α} (h : script.call (pure a) s = some (.ok b, s')) : b = a ∧ s' = s := by
  cases h
  exact ⟨rfl, rfl⟩

theorem of_call_bind {x : Manager α} {f : α → Manager β} {b : β} (h : script.call (x >>= f) s = some (.ok b, s')) :
    ∃ a s₁, script.call x s = some (.ok a, s₁) ∧ script.call (f a) s₁ = some (.ok b, s') :=
  Fallible.of_exec_bind_ok h

theorem of_call_ensure {c : Prop} [Decidable c] {e : ManagerError}
    (h : script.call (Fallible.ensure c e) s = some (.ok (), s')) : c ∧ s' = s := by
  by_cases hc : c
  · rw [call, Fallible.exec_ensure_true hc] at h
    cases h
    exact ⟨hc, rfl⟩
  · rw [call, Fallible.exec_ensure_false hc] at h
    cases h

theorem of_call_ofOption {e : ManagerError} {x : Option α} {a : α}
    (h : script.call (Fallible.ofOption e x) s = some (.ok a, s')) : x = some a ∧ s' = s := by
  cases x with
  | none => cases h
  | some b =>
    cases h
    exact ⟨rfl, rfl⟩

theorem of_call_expect {site : String} {x : Option α} {a : α}
    (h : script.call (Manager.expect site x) s = some (.ok a, s')) : x = some a ∧ s' = s := by
  cases x with
  | none => cases h
  | some b =>
    cases h
    exact ⟨rfl, rfl⟩

theorem expect_ne_error {site : String} {x : Option α} {e : ManagerError} :
    script.call (Manager.expect site x) s ≠ some (.error e, s') := by
  cases x <;> nofun

theorem call_commit (t : Txn) : script.call (Manager.commit t) s =
    some (match (commitReliably t s.store).1 with
      | .ok answer => answer
      | .error e => .error (.state e),
      { s.next with store := (commitReliably t s.store).2 }) := rfl

theorem call_commit_valid {t : Txn} {out : t.Out} (hvalid : (t.after s.store).validate = .ok ())
    (hout : t.answer s.store = .ok out) :
    script.call (Manager.commit t) s = some (.ok out, { s.next with store := t.after s.store }) := by
  rw [call_commit, commitReliably_valid hvalid, hout]

/-- **A commit that went through** left what its closure leaves. -/
theorem of_call_commit {t : Txn} {out : t.Out} (h : script.call (Manager.commit t) s = some (.ok out, s')) :
    s' = { s.next with store := t.after s.store } ∧ t.answer s.store = .ok out ∧
      (t.after s.store = s.store ∨ (t.after s.store).validate = .ok ()) := by
  rw [call_commit, Option.some.injEq, Prod.mk.injEq] at h
  obtain ⟨hanswer, rfl⟩ := h
  cases hcommit : (commitReliably t s.store).1 with
  | error e =>
    rw [hcommit] at hanswer
    cases hanswer
  | ok answer =>
    rw [hcommit] at hanswer
    obtain ⟨hstore, rfl, hvalid⟩ := of_commitReliably hcommit
    exact ⟨by rw [hstore], hanswer, hvalid⟩

/-- A commit that failed left the store as it was, unless its closure failed once it had changed it. -/
theorem of_call_commit_error {t : Txn} {e : ManagerError} (h : script.call (Manager.commit t) s = some (.error e, s')) :
    s'.store = s.store ∨ (s'.store = t.after s.store ∧ t.answer s.store = .error e) := by
  rw [call_commit, Option.some.injEq, Prod.mk.injEq] at h
  obtain ⟨hanswer, rfl⟩ := h
  cases hcommit : (commitReliably t s.store).1 with
  | error e' =>
    unfold commitReliably at hcommit ⊢
    split at hcommit
    · cases hcommit
    · split at hcommit
      · cases hcommit
      · next hchanged _ _ _ => exact .inl (by simp [hchanged])
  | ok answer =>
    rw [hcommit] at hanswer
    obtain ⟨hstore, heq, -⟩ := of_commitReliably hcommit
    refine .inr ⟨hstore, ?_⟩
    rw [← heq]
    exact hanswer

/-- **What every commit of a kind leaves true of the store, a call leaves true.** -/
theorem call_keeps {x : Manager α} {may : Txn → Prop} (hx : Fallible.Only (Op.commits may) x) {P : StateFile → Prop}
    (stable : ∀ t state, may t → P state → P (commitReliably t state).2) {r : Except ManagerError α} (hs : P s.store)
    (h : script.call x s = some (r, s')) : P s'.store := by
  refine Prog.Only.exec_keeps (P := fun s : Solo => P s.store) ?_ x.run hx hs h
  intro o s₁ r₁ s₂ ho hs₁ hr
  cases o with
  | commit t =>
    cases hr
    exact stable t s₁.store ho hs₁
  | abort site => cases hr
  | load | acquire _ _ | cached | cacheInsert _ _ | cacheRetain _ | list _ | open_ _ | session _ _ | now | random =>
    cases hr
    exact hs₁

/-- Off the store nothing of it changes. -/
theorem call_calm {x : Manager α} {r : Except ManagerError α} (hx : Fallible.Only Op.calm x)
    (h : script.call x s = some (r, s')) : s'.store = s.store := by
  have hcommits : Fallible.Only (Op.commits fun _ => False) x := commits_of_calm hx
  exact call_keeps hcommits (P := (· = s.store)) (fun _ _ => False.elim) rfl h

/-- An error of a sequence that begins off the store. -/
theorem of_call_bind_error {x : Manager α} {f : α → Manager β} {e : ManagerError} (hx : Fallible.Only Op.calm x)
    (h : script.call (x >>= f) s = some (.error e, s')) : s'.store = s.store ∨
      ∃ a s₁, script.call x s = some (.ok a, s₁) ∧ s₁.store = s.store ∧ script.call (f a) s₁ = some (.error e, s') := by
  rcases Fallible.of_exec_bind_error h with hfails | ⟨a, s₁, hok, hrest⟩
  · exact .inl (call_calm hx hfails)
  · exact .inr ⟨a, s₁, hok, call_calm hx hok, hrest⟩

theorem stop_load {f : StateFile → Manager α} (n : Nat) :
    script.stop (n + 1) (Manager.load >>= f) s = script.stop n (f s.store) s.next := rfl

/-- What every commit of a kind leaves true of the store, a call leaves true wherever it is stopped. -/
theorem stop_keeps {x : Manager α} {may : Txn → Prop} (hx : Fallible.Only (Op.commits may) x) {P : StateFile → Prop}
    (stable : ∀ t state, may t → P state → P (commitReliably t state).2) (n : Nat) (hs : P s.store) :
    P (script.stop n x s).store := by
  refine Prog.Only.stopped_keeps (P := fun s : Solo => P s.store) ?_ n x.run hx hs
  intro o s₁ r s₂ ho hs₁ hr
  cases o with
  | commit t =>
    cases hr
    exact stable t s₁.store ho hs₁
  | abort site => cases hr
  | load | acquire _ _ | cached | cacheInsert _ _ | cacheRetain _ | list _ | open_ _ | session _ _ | now | random =>
    cases hr
    exact hs₁

end Script
end AttackSharkX3
