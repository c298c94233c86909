import AttackSharkX3.Effects.Fallible
/-!
# Exec — a program run alone

With nobody in between, a program is a function: each operation is answered from a state, or has no answer.
-/
namespace Effects

variable {S : Sig} {E α β σ : Type}

namespace Prog

/-- **The program's value and the state it leaves**, if every operation has an answer. -/
def exec (answer : (o : S.Op) → σ → Option (S.Res o × σ)) : Prog S α → σ → Option (α × σ)
  | .pure a, s => some (a, s)
  | .call o k, s => (answer o s).bind fun r => exec answer (k r.1) r.2

variable {answer : (o : S.Op) → σ → Option (S.Res o × σ)}

@[simp] theorem exec_pure (a : α) (s : σ) : exec answer (Prog.pure a : Prog S α) s = some (a, s) := rfl

theorem exec_bind (f : α → Prog S β) : ∀ (p : Prog S α) (s : σ),
    exec answer (p >>= f) s = (exec answer p s).bind fun r => exec answer (f r.1) r.2
  | .pure _, _ => rfl
  | .call o k, s => by
    rw [call_bind, exec, exec, Option.bind_assoc]
    exact Option.bind_congr fun r _ => exec_bind f (k r.1) r.2

/-- What operations of one kind leave true, a program of that kind leaves true. -/
theorem Only.exec_keeps {kind : S.Op → Prop} {P : σ → Prop}
    (stable : ∀ o s r s', kind o → P s → answer o s = some (r, s') → P s') :
    ∀ (p : Prog S α) {s s' : σ} {a : α}, Only kind p → P s → exec answer p s = some (a, s') → P s'
  | .pure _, _, _, _, _, hP, h => by
    cases h
    exact hP
  | .call o k, s, _, _, hp, hP, h => by
    rw [exec] at h
    obtain ⟨⟨r, s₁⟩, hr, hk⟩ := Option.bind_eq_some_iff.1 h
    exact Only.exec_keeps stable (k r) (hp.2 r) (stable o s r s₁ hp.1 hP hr) hk

/-- **The state after at most `n` operations**: where a program that is stopped leaves it. -/
def stopped (answer : (o : S.Op) → σ → Option (S.Res o × σ)) : Nat → Prog S α → σ → σ
  | _, .pure _, s => s
  | 0, .call _ _, s => s
  | n + 1, .call o k, s => match answer o s with
    | none => s
    | some (r, s') => stopped answer n (k r) s'

/-- What operations of one kind leave true, a program of that kind leaves true wherever it is stopped. -/
theorem Only.stopped_keeps {kind : S.Op → Prop} {P : σ → Prop}
    (stable : ∀ o s r s', kind o → P s → answer o s = some (r, s') → P s') :
    ∀ (n : Nat) (p : Prog S α) {s : σ}, Only kind p → P s → P (stopped answer n p s)
  | 0, .pure _, _, _, hP | _ + 1, .pure _, _, _, hP | 0, .call _ _, _, _, hP => hP
  | n + 1, .call o k, s, hp, hP => by
    rw [stopped]
    split
    · exact hP
    · next r s' hr => exact Only.stopped_keeps stable n (k r) (hp.2 r) (stable o s r s' hp.1 hP hr)

/-- Where the operations of one kind always have an answer, a program of that kind has a value. -/
theorem Only.exec_ne_none {kind : S.Op → Prop} (total : ∀ o s, kind o → answer o s ≠ none) :
    ∀ (p : Prog S α) (s : σ), Only kind p → exec answer p s ≠ none
  | .pure _, _, _ => nofun
  | .call o k, s, hp => by
    rw [exec]
    cases hr : answer o s with
    | none => exact absurd hr (total o s hp.1)
    | some r => exact Only.exec_ne_none total (k r.1) r.2 (hp.2 r.1)

end Prog

namespace Fallible

open Prog (exec)

variable {answer : (o : S.Op) → σ → Option (S.Res o × σ)}

/-- A fallible program's result, and the state it leaves. -/
def exec (answer : (o : S.Op) → σ → Option (S.Res o × σ)) (x : Fallible S E α) (s : σ) : Option (Except E α × σ) :=
  Prog.exec answer x.run s

@[simp] theorem exec_pure (a : α) (s : σ) : exec answer (Pure.pure a : Fallible S E α) s = some (.ok a, s) := rfl
@[simp] theorem exec_throw (e : E) (s : σ) : exec answer (throw e : Fallible S E α) s = some (.error e, s) := rfl

theorem exec_bind (x : Fallible S E α) (f : α → Fallible S E β) (s : σ) : exec answer (x >>= f) s =
    (exec answer x s).bind fun r => match r with
      | (.ok a, s') => exec answer (f a) s'
      | (.error e, s') => some (.error e, s') := by
  show Prog.exec answer (x.run >>= ExceptT.bindCont f) s = _
  rw [Prog.exec_bind]
  refine Option.bind_congr fun r _ => ?_
  obtain ⟨r, s'⟩ := r
  cases r <;> rfl

/-- Sequencing, where the first program has a value. -/
theorem exec_bind_ok {x : Fallible S E α} {f : α → Fallible S E β} {s s' : σ} {a : α}
    (h : exec answer x s = some (.ok a, s')) : exec answer (x >>= f) s = exec answer (f a) s' := by
  rw [exec_bind, h]
  rfl

theorem exec_bind_error {x : Fallible S E α} {f : α → Fallible S E β} {s s' : σ} {e : E}
    (h : exec answer x s = some (.error e, s')) : exec answer (x >>= f) s = some (.error e, s') := by
  rw [exec_bind, h]
  rfl

/-- A value of a sequence comes of a value of its first program. -/
theorem of_exec_bind_ok {x : Fallible S E α} {f : α → Fallible S E β} {s s'' : σ} {b : β}
    (h : exec answer (x >>= f) s = some (.ok b, s'')) :
    ∃ a s', exec answer x s = some (.ok a, s') ∧ exec answer (f a) s' = some (.ok b, s'') := by
  rw [exec_bind] at h
  obtain ⟨⟨r, s'⟩, hx, hf⟩ := Option.bind_eq_some_iff.1 h
  cases r with
  | ok a => exact ⟨a, s', hx, hf⟩
  | error e => cases hf

/-- An error of a sequence is one of its first program, or comes after a value of it. -/
theorem of_exec_bind_error {x : Fallible S E α} {f : α → Fallible S E β} {s s'' : σ} {e : E}
    (h : exec answer (x >>= f) s = some (.error e, s'')) : exec answer x s = some (.error e, s'') ∨
      ∃ a s', exec answer x s = some (.ok a, s') ∧ exec answer (f a) s' = some (.error e, s'') := by
  rw [exec_bind] at h
  obtain ⟨⟨r, s'⟩, hx, hf⟩ := Option.bind_eq_some_iff.1 h
  cases r with
  | ok a => exact .inr ⟨a, s', hx, hf⟩
  | error e' =>
    cases hf
    exact .inl hx

/-- Two sequences that go on alike. -/
theorem exec_bind_congr {x : Fallible S E α} {f g : α → Fallible S E β} {s : σ}
    (h : ∀ a s', exec answer x s = some (.ok a, s') → exec answer (f a) s' = exec answer (g a) s') :
    exec answer (x >>= f) s = exec answer (x >>= g) s := by
  rw [exec_bind, exec_bind]
  refine Option.bind_congr fun r hr => ?_
  obtain ⟨e | a, s'⟩ := r
  · rfl
  · exact h a s' hr

/-- A sequence without a result: either program has none. -/
theorem exec_bind_eq_none {x : Fallible S E α} {f : α → Fallible S E β} {s : σ} :
    exec answer (x >>= f) s = none ↔
      exec answer x s = none ∨ ∃ a s', exec answer x s = some (.ok a, s') ∧ exec answer (f a) s' = none := by
  rw [exec_bind]
  rcases exec answer x s with - | ⟨e | a, s'⟩
  · simp
  · simp
  · constructor
    · intro h
      exact .inr ⟨a, s', rfl, h⟩
    · rintro (h | ⟨a, s', h, hf⟩)
      · cases h
      · cases h
        exact hf

/-- The program has a result from every state. -/
def Total (answer : (o : S.Op) → σ → Option (S.Res o × σ)) (x : Fallible S E α) : Prop :=
  ∀ s, exec answer x s ≠ none

theorem Only.total {kind : S.Op → Prop} {x : Fallible S E α} (total : ∀ o s, kind o → answer o s ≠ none)
    (hx : Only kind x) : Total answer x :=
  fun s => Prog.Only.exec_ne_none total x.run s hx

/-- After a program that always has a result, the rest is without one from some value of it. -/
theorem Total.bind_eq_none {x : Fallible S E α} {f : α → Fallible S E β} (hx : Total answer x) {s : σ} :
    exec answer (x >>= f) s = none ↔ ∃ a s', exec answer x s = some (.ok a, s') ∧ exec answer (f a) s' = none := by
  rw [exec_bind_eq_none, or_iff_right (hx s)]

/-- What is attempted is answered with its result. -/
theorem exec_attempt {x : Fallible S E α} {s s' : σ} {r : Except E α} (h : exec answer x s = some (r, s')) :
    exec answer (attempt x : Fallible S E (Except E α)) s = some (.ok r, s') := by
  have hrun : Prog.exec answer x.run s = some (r, s') := h
  show Prog.exec answer (x.run >>= fun r => (Prog.pure (Except.ok r) : Prog S (Except E (Except E α)))) s = _
  rw [Prog.exec_bind, hrun]
  rfl

theorem exec_ensure_true {c : Prop} [Decidable c] {e : E} (h : c) (s : σ) :
    exec answer (ensure c e : Fallible S E Unit) s = some (.ok (), s) := by
  simp [ensure, h]

theorem exec_ensure_false {c : Prop} [Decidable c] {e : E} (h : ¬ c) (s : σ) :
    exec answer (ensure c e : Fallible S E Unit) s = some (.error e, s) := by
  simp [ensure, h]

end Fallible
end Effects
