import AttackSharkX3.Effects.History
/-!
# Fallible — programs that may end with an error

`Fallible S E` is a program whose value is a result: the first error ends it.  `Tries` is its specification: from a
history satisfying `pre`, the rule is kept, a value satisfies `post` and an error satisfies `fails`.
-/
namespace Effects

open Prog (Event History Keeps)

variable {S : Sig} {E β γ δ : Type}

abbrev Fallible (S : Sig) (E : Type) (β : Type) : Type := ExceptT E (Prog S) β

namespace Fallible

/-- One operation, its answer read as a result. -/
def perform (o : S.Op) (read : S.Res o → Except E β) : Fallible S E β :=
  ExceptT.mk (.call o fun r => .pure (read r))

/-- Stops with `e` unless `c`. -/
def ensure (c : Prop) [Decidable c] (e : E) : Fallible S E Unit := if c then Pure.pure () else throw e

def ofOption (e : E) : Option β → Fallible S E β
  | some b => Pure.pure b
  | none => throw e

def ofExcept {E' : Type} (wrap : E' → E) : Except E' β → Fallible S E β
  | .ok b => Pure.pure b
  | .error e => throw (wrap e)

/-- The result of `x` as a value: its error does not end the program. -/
def attempt (x : Fallible S E β) : Fallible S E (Except E β) := ExceptT.lift x.run

end Fallible

variable {rule : History S → S.Op → Prop}

/-- What holds at the end: one assertion for a value, one for an error. -/
def Either (post : β → History S → Prop) (fails : E → History S → Prop) : Except E β → History S → Prop
  | .ok b => post b
  | .error e => fails e

/-- **The specification of a fallible program.** -/
def Tries (rule : History S → S.Op → Prop) (pre : History S → Prop) (x : Fallible S E β)
    (post : β → History S → Prop) (fails : E → History S → Prop) : Prop :=
  ∀ h, pre h → Keeps rule (Either post fails) x.run h

namespace Tries

variable {pre : History S → Prop} {post : β → History S → Prop} {fails : E → History S → Prop}

theorem pure {b : β} (h : ∀ h, pre h → post b h) : Tries rule pre (Pure.pure b : Fallible S E β) post fails := h

theorem throw {e : E} (h : ∀ h, pre h → fails e h) :
    Tries rule pre (MonadExcept.throw e : Fallible S E β) post fails := h

/-- **Sequencing**: an error of the first program is an error of both. -/
theorem bind {x : Fallible S E γ} {f : γ → Fallible S E β} {Q : γ → History S → Prop}
    (first : Tries rule pre x Q fails) (second : ∀ c, Tries rule (Q c) (f c) post fails) :
    Tries rule pre (x >>= f) post fails := by
  intro h hpre
  refine Keeps.bind _ (fun r h' hr => ?_) x.run h (first h hpre)
  cases r with
  | ok c => exact second c h' hr
  | error e => exact hr

theorem mono {pre' : History S → Prop} {post' : β → History S → Prop} {fails' : E → History S → Prop}
    {x : Fallible S E β} (hx : Tries rule pre x post fails) (hpre : ∀ h, pre' h → pre h)
    (hpost : ∀ b h, post b h → post' b h) (hfails : ∀ e h, fails e h → fails' e h) :
    Tries rule pre' x post' fails' := by
  intro h hh
  refine Keeps.mono (fun _ _ => id) (fun r h' hr => ?_) x.run h (hx h (hpre h hh))
  cases r with
  | ok b => exact hpost b h' hr
  | error e => exact hfails e h' hr

theorem before {pre' : History S → Prop} {x : Fallible S E β} (hx : Tries rule pre x post fails)
    (hpre : ∀ h, pre' h → pre h) : Tries rule pre' x post fails :=
  fun h hh => hx h (hpre h hh)

theorem then_ {post' : β → History S → Prop} {x : Fallible S E β} (hx : Tries rule pre x post fails)
    (hpost : ∀ b h, post b h → post' b h) : Tries rule pre x post' fails :=
  hx.mono (fun _ => id) hpost fun _ _ => id

/-- What one rule allows, a weaker one allows. -/
theorem allow {rule' : History S → S.Op → Prop} {x : Fallible S E β} (hx : Tries rule pre x post fails)
    (hrule : ∀ h o, rule h o → rule' h o) : Tries rule' pre x post fails :=
  fun h hh => Keeps.mono hrule (fun _ _ => id) x.run h (hx h hh)

/-- A specification of the program's own history, used after another. -/
theorem of_own {rule' : History S → S.Op → Prop} {own : β → History S → Prop} {errs : E → History S → Prop}
    {x : Fallible S E β} (hx : Tries rule' (· = []) x own errs)
    (may : ∀ h₁ h o, pre h₁ → rule' h o → rule (h ++ h₁) o) (gives : ∀ h₁ h b, pre h₁ → own b h → post b (h ++ h₁))
    (breaks : ∀ h₁ h e, pre h₁ → errs e h → fails e (h ++ h₁)) : Tries rule pre x post fails := by
  intro h₁ hpre
  have hall := Keeps.after h₁ x.run [] (hx [] rfl)
  refine Keeps.mono ?_ ?_ x.run h₁ hall
  · rintro _ o ⟨h, rfl, ho⟩
    exact may h₁ h o hpre ho
  · rintro r _ ⟨h, rfl, hr⟩
    cases r with
    | ok b => exact gives h₁ h b hpre hr
    | error e => exact breaks h₁ h e hpre hr

/-- Two specifications under one rule hold together. -/
theorem and {pre' : History S → Prop} {post' : β → History S → Prop} {fails' : E → History S → Prop}
    {x : Fallible S E β} (hx : Tries rule pre x post fails) (hx' : Tries rule pre' x post' fails') :
    Tries rule (fun h => pre h ∧ pre' h) x (fun b h => post b h ∧ post' b h) (fun e h => fails e h ∧ fails' e h) := by
  intro h hh
  refine Keeps.mono (fun _ _ ho => ho.1) (fun r h' hr => ?_) x.run h (Keeps.and x.run h (hx h hh.1) (hx' h hh.2))
  cases r with
  | ok b => exact hr
  | error e => exact hr

/-- A fact that holds of no particular history may be assumed while the specification is built. -/
theorem of_pure {φ : Prop} {x : Fallible S E β} (hx : φ → Tries rule pre x post fails) :
    Tries rule (fun h => φ ∧ pre h) x post fails :=
  fun h hh => hx hh.1 h hh.2

theorem of_exists {P : δ → History S → Prop} {x : Fallible S E β} (hx : ∀ d, Tries rule (P d) x post fails) :
    Tries rule (fun h => ∃ d, P d h) x post fails :=
  fun h ⟨d, hd⟩ => hx d h hd

/-- **One operation**, its answer a value or an error of the program. -/
theorem perform {o : S.Op} {read : S.Res o → Except E β} (may : ∀ h, pre h → rule h o)
    (gives : ∀ h r, pre h → Either post fails (read r) (⟨o, r⟩ :: h)) :
    Tries rule pre (Fallible.perform o read) post fails :=
  fun h hh => ⟨may h hh, fun r => gives h r hh⟩

theorem ensure {c : Prop} [Decidable c] {e : E} {post : Unit → History S → Prop}
    (holds : c → ∀ h, pre h → post () h) (breaks : ¬ c → ∀ h, pre h → fails e h) :
    Tries rule pre (Fallible.ensure c e : Fallible S E Unit) post fails := by
  unfold Fallible.ensure
  split
  · next hc => exact pure (holds hc)
  · next hc => exact throw (breaks hc)

theorem ofOption {e : E} {x : Option β} (found : ∀ b, x = some b → ∀ h, pre h → post b h)
    (missing : x = none → ∀ h, pre h → fails e h) :
    Tries rule pre (Fallible.ofOption e x : Fallible S E β) post fails := by
  cases x with
  | none => exact throw (missing rfl)
  | some b => exact pure (found b rfl)

theorem ofExcept {E' : Type} {wrap : E' → E} {x : Except E' β} (fine : ∀ b, x = .ok b → ∀ h, pre h → post b h)
    (wrong : ∀ e, x = .error e → ∀ h, pre h → fails (wrap e) h) :
    Tries rule pre (Fallible.ofExcept wrap x : Fallible S E β) post fails := by
  cases x with
  | ok b => exact pure (fine b rfl)
  | error e => exact throw (wrong e rfl)

theorem attempt {x : Fallible S E β} {post : Except E β → History S → Prop}
    (hx : Tries rule pre x (fun b => post (.ok b)) (fun e => post (.error e))) :
    Tries rule pre (Fallible.attempt x) post fails := by
  intro h hh
  refine Keeps.bind _ (fun r h' hr => ?_) x.run h (hx h hh)
  cases r with
  | ok b => exact hr
  | error e => exact hr

end Tries

/-! ## Programs of one kind of operation -/

/-- Every operation of the fallible program is of one kind. -/
def Fallible.Only (kind : S.Op → Prop) (x : Fallible S E β) : Prop := Prog.Only kind x.run

namespace Fallible.Only

variable {kind : S.Op → Prop}

theorem pure {b : β} : Only kind (Pure.pure b : Fallible S E β) := trivial
theorem throw {e : E} : Only kind (MonadExcept.throw e : Fallible S E β) := trivial
theorem perform {o : S.Op} {read : S.Res o → Except E β} (h : kind o) : Only kind (Fallible.perform o read) :=
  ⟨h, fun _ => trivial⟩

theorem bind {x : Fallible S E γ} {f : γ → Fallible S E β} (hx : Only kind x) (hf : ∀ c, Only kind (f c)) :
    Only kind (x >>= f) := by
  refine Prog.Only.bind (fun r => ?_) x.run hx
  cases r with
  | ok c => exact hf c
  | error e => trivial

theorem ite {c : Prop} [Decidable c] {x y : Fallible S E β} (hx : Only kind x) (hy : Only kind y) :
    Only kind (if c then x else y) := by
  split
  · exact hx
  · exact hy

theorem ensure {c : Prop} [Decidable c] {e : E} : Only kind (Fallible.ensure c e : Fallible S E Unit) := ite pure throw

theorem ofOption {e : E} {x : Option β} : Only kind (Fallible.ofOption e x : Fallible S E β) := by
  cases x <;> trivial

theorem ofExcept {E' : Type} {wrap : E' → E} {x : Except E' β} :
    Only kind (Fallible.ofExcept wrap x : Fallible S E β) := by
  cases x <;> trivial

/-- After a value that is there, the rest is run from it. -/
theorem bind_ofOption {e : E} {f : γ → Fallible S E β} : ∀ {x : Option γ}, (∀ c, x = some c → Only kind (f c)) →
    Only kind (Fallible.ofOption e x >>= f)
  | none, _ => trivial
  | some c, hf => hf c rfl

/-- A program that cannot fail, in one that can. -/
theorem lift {x : Prog S γ} (hx : Prog.Only kind x) : Only kind (ExceptT.lift x : Fallible S E γ) :=
  Prog.Only.bind (f := fun c => Prog.pure (.ok c : Except E γ)) (fun _ => trivial) x hx

theorem attempt {x : Fallible S E β} (hx : Only kind x) : Only kind (Fallible.attempt x) :=
  Prog.Only.bind (f := fun r => Prog.pure (.ok r : Except E (Except E β))) (fun _ => trivial) x.run hx

theorem mono {kind' : S.Op → Prop} {x : Fallible S E β} (h : ∀ o, kind o → kind' o) (hx : Only kind x) : Only kind' x :=
  Prog.Only.mono h x.run hx

/-- A program of one kind keeps what that kind leaves alone, whether it ends with a value or an error. -/
theorem tries {x : Fallible S E β} {P : History S → Prop} (hx : Only kind x) (may : ∀ h o, kind o → P h → rule h o)
    (stable : ∀ h o r, kind o → P h → P (⟨o, r⟩ :: h)) : Tries rule P x (fun _ => P) (fun _ => P) := by
  intro h hP
  refine Prog.Keeps.mono (fun _ _ => id) (fun r h' hr => ?_) x.run h (Prog.Only.keeps may stable x.run h hx hP)
  cases r with
  | ok b => exact hr
  | error e => exact hr

end Fallible.Only
end Effects
