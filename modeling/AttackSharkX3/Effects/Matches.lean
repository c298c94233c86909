import Mathlib.Data.List.Forall2
import AttackSharkX3.Effects.Ends
/-!
# Matches — two programs that do the same by corresponding operations

A pairing says which operation may stand for which, and how their answers correspond.  Two programs match when they issue
paired operations as long as the answers correspond.  Where a world answers paired operations alike, each way one of them
may go is a way of the other.
-/
namespace Effects

open Prog (Event History Ends)

variable {S : Sig} {E E' α β γ δ σ : Type} {step : (o : S.Op) → σ → S.Res o → σ → Prop}

/-- **Operations that stand for one another**, with the correspondence of their answers. -/
abbrev Pairing (S : Sig) : Type := (o o' : S.Op) → (S.Res o → S.Res o' → Prop) → Prop

/-- Two events of paired operations, their answers corresponding. -/
def Pairing.Alike (C : Pairing S) (ev ev' : Event S) : Prop := ∃ rel, C ev.1 ev'.1 rel ∧ rel ev.2 ev'.2

/-- What an operation may answer, its counterpart may answer correspondingly, with the same effect. -/
def Pairing.Forth (C : Pairing S) (step : (o : S.Op) → σ → S.Res o → σ → Prop) : Prop :=
  ∀ o o' rel, C o o' rel → ∀ s r s', step o s r s' → ∃ r', rel r r' ∧ step o' s r' s'

def Pairing.Back (C : Pairing S) (step : (o : S.Op) → σ → S.Res o → σ → Prop) : Prop :=
  ∀ o o' rel, C o o' rel → ∀ s r' s', step o' s r' s' → ∃ r, rel r r' ∧ step o s r s'

namespace Prog

variable {C : Pairing S}

/-- **The programs match**: paired operations, and at the end `post`, after the history of the first. -/
def Matches (C : Pairing S) (post : α → β → History S → Prop) : Prog S α → Prog S β → History S → Prop
  | .pure a, .pure b, h => post a b h
  | .call o k, .call o' k', h => ∃ rel, C o o' rel ∧ ∀ r r', rel r r' → Matches C post (k r) (k' r') (⟨o, r⟩ :: h)
  | _, _, _ => False

theorem Matches.bind {f : α → Prog S γ} {g : β → Prog S δ} {mid : α → β → History S → Prop}
    {post : γ → δ → History S → Prop} (hf : ∀ a b h, mid a b h → Matches C post (f a) (g b) h) :
    ∀ (p : Prog S α) (q : Prog S β) (h : History S), Matches C mid p q h → Matches C post (p >>= f) (q >>= g) h
  | .pure a, .pure b, h, hm => hf a b h hm
  | .call _ k, .call _ k', _, ⟨rel, hC, hk⟩ => ⟨rel, hC, fun r r' hr => Matches.bind hf (k r) (k' r') _ (hk r r' hr)⟩

theorem Matches.mono {post post' : α → β → History S → Prop} (hpost : ∀ a b h, post a b h → post' a b h) :
    ∀ (p : Prog S α) (q : Prog S β) (h : History S), Matches C post p q h → Matches C post' p q h
  | .pure a, .pure b, h, hm => hpost a b h hm
  | .call _ k, .call _ k', _, ⟨rel, hC, hk⟩ => ⟨rel, hC, fun r r' hr => Matches.mono hpost (k r) (k' r') _ (hk r r' hr)⟩

/-- **A program matches itself**, where each operation stands for itself. -/
theorem Matches.refl (hC : ∀ o, C o o Eq) : ∀ (p : Prog S α) (h : History S),
    Matches C (fun a b h' => a = b ∧ h <:+ h') p p h
  | .pure _, _ => ⟨rfl, List.suffix_refl _⟩
  | .call o k, h => by
    refine ⟨Eq, hC o, ?_⟩
    rintro r _ rfl
    exact Matches.mono (fun _ _ _ hh => ⟨hh.1, (List.suffix_cons _ _).trans hh.2⟩) _ _ _ (Matches.refl hC (k r) _)

/-- **Each way the first program may go is a way of the second.** -/
theorem Matches.forth {post : α → β → History S → Prop} (hstep : C.Forth step) {p : Prog S α} {s s' : σ}
    {h h' : History S} {a : α} (he : Ends step p s h a s' h') : ∀ (q : Prog S β) (g : History S), Matches C post p q h →
      List.Forall₂ C.Alike h g → ∃ b g', Ends step q s g b s' g' ∧ post a b h' ∧ List.Forall₂ C.Alike h' g' := by
  induction he with
  | pure =>
    intro q g hm hg
    cases q with
    | pure b => exact ⟨b, g, .pure, hm, hg⟩
    | call o' k' => cases hm
  | call does rest ih =>
    intro q g hm hg
    cases q with
    | pure b => cases hm
    | call o' k' =>
      obtain ⟨rel, hC, hk⟩ := hm
      obtain ⟨r', hr, does'⟩ := hstep _ _ _ hC _ _ _ does
      obtain ⟨b, g', hends, hpost, hhistory⟩ := ih (k' r') (⟨o', r'⟩ :: g) (hk _ r' hr) (.cons ⟨rel, hC, hr⟩ hg)
      exact ⟨b, g', .call does' hends, hpost, hhistory⟩

/-- **And each way the second may go is a way of the first.** -/
theorem Matches.back {post : α → β → History S → Prop} (hstep : C.Back step) {q : Prog S β} {s s' : σ}
    {g g' : History S} {b : β} (he : Ends step q s g b s' g') : ∀ (p : Prog S α) (h : History S), Matches C post p q h →
      List.Forall₂ C.Alike h g → ∃ a h', Ends step p s h a s' h' ∧ post a b h' ∧ List.Forall₂ C.Alike h' g' := by
  induction he with
  | pure =>
    intro p h hm hg
    cases p with
    | pure a => exact ⟨a, h, .pure, hm, hg⟩
    | call o k => cases hm
  | call does' rest ih =>
    intro p h hm hg
    cases p with
    | pure a => cases hm
    | call o k =>
      obtain ⟨rel, hC, hk⟩ := hm
      obtain ⟨r, hr, does⟩ := hstep _ _ _ hC _ _ _ does'
      obtain ⟨a, h', hends, hpost, hhistory⟩ := ih (k r) (⟨o, r⟩ :: h) (hk r _ hr) (.cons ⟨rel, hC, hr⟩ hg)
      exact ⟨a, h', .call does hends, hpost, hhistory⟩

end Prog

/-! ## Fallible programs -/

/-- What corresponds at the end: two values or two errors. -/
def Both (post : α → β → History S → Prop) (fails : E → E' → History S → Prop) :
    Except E α → Except E' β → History S → Prop
  | .ok a, .ok b => post a b
  | .error e, .error e' => fails e e'
  | _, _ => fun _ => False

/-- **Two fallible programs that match**, from any history where `pre` holds. -/
def Twins (C : Pairing S) (pre : History S → Prop) (x : Fallible S E α) (y : Fallible S E' β)
    (post : α → β → History S → Prop) (fails : E → E' → History S → Prop) : Prop :=
  ∀ h, pre h → Prog.Matches C (Both post fails) x.run y.run h

namespace Twins

variable {C : Pairing S} {pre : History S → Prop} {post : α → β → History S → Prop} {fails : E → E' → History S → Prop}

theorem pure {a : α} {b : β} (h : ∀ h, pre h → post a b h) :
    Twins C pre (Pure.pure a : Fallible S E α) (Pure.pure b : Fallible S E' β) post fails := h

/-- **Sequencing**: what stopped the first halves stops both. -/
theorem bind {x : Fallible S E γ} {y : Fallible S E' δ} {f : γ → Fallible S E α} {g : δ → Fallible S E' β}
    {Q : γ → δ → History S → Prop} (first : Twins C pre x y Q fails)
    (second : ∀ c d, Twins C (Q c d) (f c) (g d) post fails) : Twins C pre (x >>= f) (y >>= g) post fails := by
  intro h hpre
  refine Prog.Matches.bind (fun r r' h' hr => ?_) x.run y.run h (first h hpre)
  cases r with
  | ok c =>
    cases r' with
    | ok d => exact second c d h' hr
    | error e' => cases hr
  | error e =>
    cases r' with
    | ok d => cases hr
    | error e' => exact hr

/-- **A program is its own twin**; it only adds to the history. -/
theorem refl {fails : E → E → History S → Prop} (hC : ∀ o, C o o Eq) {x : Fallible S E α} {P : History S → Prop}
    (hfails : ∀ e h, P h → fails e e h) (grows : ∀ h h', P h → h <:+ h' → P h') :
    Twins C P x x (fun a b h => a = b ∧ P h) fails := by
  intro h hP
  refine Prog.Matches.mono (fun r r' h' hr => ?_) _ _ _ (Prog.Matches.refl hC x.run h)
  obtain ⟨rfl, hs⟩ := hr
  cases r with
  | ok a => exact ⟨rfl, grows h h' hP hs⟩
  | error e => exact hfails e h' (grows h h' hP hs)

/-- **One operation and its counterpart.** -/
theorem perform {o o' : S.Op} {rel : S.Res o → S.Res o' → Prop} {read : S.Res o → Except E α}
    {read' : S.Res o' → Except E' β} (paired : C o o' rel)
    (gives : ∀ h r r', pre h → rel r r' → Both post fails (read r) (read' r') (⟨o, r⟩ :: h)) :
    Twins C pre (Fallible.perform o read) (Fallible.perform o' read') post fails :=
  fun h hh => ⟨rel, paired, fun r r' hr => gives h r r' hh hr⟩

theorem ofExcept {D D' : Type} {wrap : D → E} {wrap' : D' → E'} {x : Except D α} {y : Except D' β}
    (h : ∀ h, pre h → Both post fails (x.mapError wrap) (y.mapError wrap') h) :
    Twins C pre (Fallible.ofExcept wrap x : Fallible S E α) (Fallible.ofExcept wrap' y : Fallible S E' β) post fails := by
  cases x <;> cases y <;> exact h

end Twins
end Effects
