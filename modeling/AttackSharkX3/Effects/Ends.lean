import AttackSharkX3.Effects.Exec
/-!
# Ends — a program run alone in a world that may answer in several ways

A step relation says which answers an operation may get in a state, and what each leaves.  `Ends` follows a program
through one choice of answers, with its history; `Leads` is the specification of a fallible program over every choice.
-/
namespace Effects

open Prog (Event History Keeps exec)

variable {S : Sig} {E α β γ σ : Type} {step : (o : S.Op) → σ → S.Res o → σ → Prop}

namespace Prog

/-- **One way a program may go** from a state, and the value, the state and the history it ends with. -/
inductive Ends (step : (o : S.Op) → σ → S.Res o → σ → Prop) : Prog S α → σ → History S → α → σ → History S → Prop where
  | pure {a s h} : Ends step (.pure a) s h a s h
  | call {o k s h r s' a s'' h'} (does : step o s r s') (rest : Ends step (k r) s' (⟨o, r⟩ :: h) a s'' h') :
      Ends step (.call o k) s h a s'' h'

theorem Ends.of_bind {f : α → Prog S β} : ∀ {p : Prog S α} {s s'' : σ} {h h'' : History S} {b : β},
    Ends step (p >>= f) s h b s'' h'' → ∃ a s' h', Ends step p s h a s' h' ∧ Ends step (f a) s' h' b s'' h''
  | .pure a, s, _, h, _, _, hb => ⟨a, s, h, .pure, hb⟩
  | .call _ k, _, _, _, _, _, hb => by
    cases hb with
    | call does rest =>
      obtain ⟨a, s', h', hp, hf⟩ := Ends.of_bind (p := k _) rest
      exact ⟨a, s', h', .call does hp, hf⟩

theorem Ends.bind {p : Prog S α} {f : α → Prog S β} {s s' s'' : σ} {h h' h'' : History S} {a : α} {b : β}
    (hp : Ends step p s h a s' h') (hf : Ends step (f a) s' h' b s'' h'') : Ends step (p >>= f) s h b s'' h'' := by
  induction hp with
  | pure => exact hf
  | call does _ ih => exact .call does (ih hf)

/-- A way to go in one world is one in a world that may answer more. -/
theorem Ends.mono {step' : (o : S.Op) → σ → S.Res o → σ → Prop} {p : Prog S α} {s s' : σ} {h h' : History S} {a : α}
    (he : Ends step p s h a s' h') (hstep : ∀ o s r s', step o s r s' → step' o s r s') : Ends step' p s h a s' h' := by
  induction he with
  | pure => exact .pure
  | call does _ ih => exact .call (hstep _ _ _ _ does) ih

/-- A way to go, seen through a simpler world. -/
theorem Ends.map {τ : Type} {step' : (o : S.Op) → τ → S.Res o → τ → Prop} {p : Prog S α} {t t' : τ} {h h' : History S}
    {a : α} (view : τ → σ) (hstep : ∀ o t r t', step' o t r t' → step o (view t) r (view t'))
    (he : Ends step' p t h a t' h') : Ends step p (view t) h a (view t') h' := by
  induction he with
  | pure => exact .pure
  | call does _ ih => exact .call (hstep _ _ _ _ does) ih

theorem Ends.of_op {o : S.Op} {s s' : σ} {h h' : History S} {r : S.Res o} (he : Ends step (Prog.op o) s h r s' h') :
    step o s r s' := by
  cases he with
  | call does rest =>
    cases rest with
    | pure => exact does

/-- Every operation of a history is one the rule allows after what came before it. -/
def Kept (rule : History S → S.Op → Prop) : History S → Prop
  | [] => True
  | ev :: h => rule h ev.1 ∧ Kept rule h

/-- What the rule says of one event, after what came before it. -/
theorem Kept.of_suffix {rule : History S → S.Op → Prop} {ev : Event S} {before : History S} :
    ∀ {h : History S}, Kept rule h → ev :: before <:+ h → rule before ev.1
  | [], _, hs => nomatch List.suffix_nil.1 hs
  | first :: h, hk, hs => by
    rcases List.suffix_cons_iff.1 hs with heq | hs
    · cases heq
      exact hk.1
    · exact Kept.of_suffix hk.2 hs

/-- What is known of a program's own history holds of each way it may go. -/
theorem Keeps.ends {rule : History S → S.Op → Prop} {post : α → History S → Prop} {p : Prog S α} {s s' : σ}
    {h h' : History S} {a : α} (he : Ends step p s h a s' h') (hk : Keeps rule post p h) (hh : Kept rule h) :
    Kept rule h' ∧ post a h' := by
  induction he with
  | pure => exact ⟨hh, hk⟩
  | call _ _ ih => exact ih (hk.2 _) ⟨hk.1, hh⟩

/-- What operations of one kind leave true, a program of that kind leaves true. -/
theorem Only.ends {kind : S.Op → Prop} {P : σ → History S → Prop}
    (stable : ∀ o s r s' h, kind o → P s h → step o s r s' → P s' (⟨o, r⟩ :: h)) {p : Prog S α} {s s' : σ}
    {h h' : History S} {a : α} (he : Ends step p s h a s' h') (hp : Only kind p) (hP : P s h) : P s' h' := by
  induction he with
  | pure => exact hP
  | call does _ ih => exact ih (hp.2 _) (stable _ _ _ _ _ hp.1 hP does)

/-- What every event has, however its operation is answered, all events of a way to go have. -/
theorem Ends.forall_events {P : Event S → Prop} (holds : ∀ o s r s', step o s r s' → P ⟨o, r⟩) {p : Prog S α} {s s' : σ}
    {h h' : History S} {a : α} (he : Ends step p s h a s' h') (hh : ∀ ev ∈ h, P ev) : ∀ ev ∈ h', P ev := by
  induction he with
  | pure => exact hh
  | call does _ ih =>
    refine ih fun ev hev => ?_
    rcases List.mem_cons.1 hev with rfl | hev
    · exact holds _ _ _ _ does
    · exact hh ev hev

/-- Answers with the history they make. -/
def logged (answer : (o : S.Op) → σ → Option (S.Res o × σ)) (o : S.Op) (s : σ × History S) :
    Option (S.Res o × σ × History S) :=
  (answer o s.1).map fun r => (r.1, r.2, ⟨o, r.1⟩ :: s.2)

/-- A run with fixed answers is one way to go. -/
theorem Ends.of_exec {answer : (o : S.Op) → σ → Option (S.Res o × σ)}
    (hstep : ∀ o s r s', answer o s = some (r, s') → step o s r s') :
    ∀ {p : Prog S α} {s s' : σ} {h h' : History S} {a : α}, exec (logged answer) p (s, h) = some (a, s', h') →
      Ends step p s h a s' h'
  | .pure _, _, _, _, _, _, he => by
    cases he
    exact .pure
  | .call o k, s, _, h, _, _, he => by
    rw [exec, logged] at he
    obtain ⟨⟨r, s₁, h₁⟩, hr, hk⟩ := Option.bind_eq_some_iff.1 he
    obtain ⟨⟨r', s₂⟩, hr', heq⟩ := Option.map_eq_some_iff.1 hr
    cases heq
    exact .call (hstep o s r' s₂ hr') (Ends.of_exec hstep hk)

end Prog

open Prog (Ends)

/-- What holds at the end of a run: one assertion for a value, one for an error. -/
def Ended (post : β → σ → History S → Prop) (fails : E → σ → History S → Prop) : Except E β → σ → History S → Prop
  | .ok b => post b
  | .error e => fails e

/-- **The specification of a fallible program** run alone. -/
def Leads (step : (o : S.Op) → σ → S.Res o → σ → Prop) (pre : σ → History S → Prop) (x : Fallible S E β)
    (post : β → σ → History S → Prop) (fails : E → σ → History S → Prop) : Prop :=
  ∀ s h r s' h', pre s h → Ends step x.run s h r s' h' → Ended post fails r s' h'

namespace Leads

variable {pre : σ → History S → Prop} {post : β → σ → History S → Prop} {fails : E → σ → History S → Prop}

theorem pure {b : β} (hb : ∀ s h, pre s h → post b s h) : Leads step pre (Pure.pure b : Fallible S E β) post fails := by
  intro s h r s' h' hpre he
  cases he with
  | pure => exact hb s h hpre

theorem throw {e : E} (he : ∀ s h, pre s h → fails e s h) :
    Leads step pre (MonadExcept.throw e : Fallible S E β) post fails := by
  intro s h r s' h' hpre hends
  cases hends with
  | pure => exact he s h hpre

/-- **Sequencing**: an error of the first program is an error of both. -/
theorem bind {x : Fallible S E γ} {f : γ → Fallible S E β} {Q : γ → σ → History S → Prop}
    (first : Leads step pre x Q fails) (second : ∀ c, Leads step (Q c) (f c) post fails) :
    Leads step pre (x >>= f) post fails := by
  intro s h r s'' h'' hpre he
  obtain ⟨mid, s', h', hx, hf⟩ := Ends.of_bind he
  have hmid := first s h mid s' h' hpre hx
  cases mid with
  | ok c => exact second c s' h' r s'' h'' hmid hf
  | error e =>
    cases hf with
    | pure => exact hmid

theorem mono {pre' : σ → History S → Prop} {post' : β → σ → History S → Prop} {fails' : E → σ → History S → Prop}
    {x : Fallible S E β} (hx : Leads step pre x post fails) (hpre : ∀ s h, pre' s h → pre s h)
    (hpost : ∀ b s h, post b s h → post' b s h) (hfails : ∀ e s h, fails e s h → fails' e s h) :
    Leads step pre' x post' fails' := by
  intro s h r s' h' hp he
  have hr := hx s h r s' h' (hpre s h hp) he
  cases r with
  | ok b => exact hpost b s' h' hr
  | error e => exact hfails e s' h' hr

/-- A fact that holds of no particular run may be assumed while the specification is built. -/
theorem of_pure {φ : Prop} {x : Fallible S E β} (hx : φ → Leads step pre x post fails) :
    Leads step (fun s h => φ ∧ pre s h) x post fails :=
  fun s h r s' h' hp => hx hp.1 s h r s' h' hp.2

/-- **One operation**, its answer a value or an error of the program. -/
theorem perform {o : S.Op} {read : S.Res o → Except E β}
    (gives : ∀ s h r s', pre s h → step o s r s' → Ended post fails (read r) s' (⟨o, r⟩ :: h)) :
    Leads step pre (Fallible.perform o read) post fails := by
  intro s h r s' h' hpre he
  cases he with
  | call does rest =>
    cases rest with
    | pure => exact gives s h _ _ hpre does

theorem ensure {c : Prop} [Decidable c] {e : E} {post : Unit → σ → History S → Prop}
    (holds : c → ∀ s h, pre s h → post () s h) (breaks : ¬ c → ∀ s h, pre s h → fails e s h) :
    Leads step pre (Fallible.ensure c e : Fallible S E Unit) post fails := by
  unfold Fallible.ensure
  split
  · next hc => exact pure (holds hc)
  · next hc => exact throw (breaks hc)

theorem ofOption {e : E} {x : Option β} (found : ∀ b, x = some b → ∀ s h, pre s h → post b s h)
    (missing : x = none → ∀ s h, pre s h → fails e s h) :
    Leads step pre (Fallible.ofOption e x : Fallible S E β) post fails := by
  cases x with
  | none => exact throw (missing rfl)
  | some b => exact pure (found b rfl)

theorem ofExcept {E' : Type} {wrap : E' → E} {x : Except E' β} (fine : ∀ b, x = .ok b → ∀ s h, pre s h → post b s h)
    (wrong : ∀ e, x = .error e → ∀ s h, pre s h → fails (wrap e) s h) :
    Leads step pre (Fallible.ofExcept wrap x : Fallible S E β) post fails := by
  cases x with
  | ok b => exact pure (fine b rfl)
  | error e => exact throw (wrong e rfl)

/-- A program that cannot fail, in one that can. -/
theorem lift {x : Prog S γ} {post : γ → σ → History S → Prop}
    (gives : ∀ s h c s' h', pre s h → Ends step x s h c s' h' → post c s' h') :
    Leads step pre (ExceptT.lift x : Fallible S E γ) post fails := by
  intro s h r s' h' hpre he
  obtain ⟨c, s₁, h₁, hx, hrest⟩ := Ends.of_bind (p := x) he
  cases hrest with
  | pure => exact gives _ _ _ _ _ hpre hx

/-- The result of a program as a value. -/
theorem attempt {x : Fallible S E γ} {post : Except E γ → σ → History S → Prop}
    {fails : E → σ → History S → Prop} (hx : Leads step pre x (fun c => post (.ok c)) fun e => post (.error e)) :
    Leads step pre (Fallible.attempt x) post fails := by
  intro s h r s' h' hpre he
  obtain ⟨mid, s₁, h₁, hx', hrest⟩ := Ends.of_bind (p := x.run) he
  have hmid := hx s h mid s₁ h₁ hpre hx'
  cases hrest with
  | pure =>
    cases mid with
    | ok c => exact hmid
    | error e => exact hmid

/-- A program of one kind keeps what that kind leaves true, whether it ends with a value or an error. -/
theorem only {kind : S.Op → Prop} {P : σ → History S → Prop}
    (stable : ∀ o s r s' h, kind o → P s h → step o s r s' → P s' (⟨o, r⟩ :: h)) {x : Fallible S E β}
    (hx : Fallible.Only kind x) : Leads step P x (fun _ => P) fun _ => P := by
  intro s h r s' h' hP he
  have hend := Prog.Only.ends stable he hx hP
  cases r with
  | ok b => exact hend
  | error e => exact hend

/-- Two specifications of one program. -/
theorem and {pre' : σ → History S → Prop} {post' : β → σ → History S → Prop} {fails' : E → σ → History S → Prop}
    {x : Fallible S E β} (hx : Leads step pre x post fails) (hx' : Leads step pre' x post' fails') :
    Leads step (fun s h => pre s h ∧ pre' s h) x (fun b s h => post b s h ∧ post' b s h)
      fun e s h => fails e s h ∧ fails' e s h := by
  intro s h r s' h' hp he
  have hr := hx s h r s' h' hp.1 he
  have hr' := hx' s h r s' h' hp.2 he
  cases r with
  | ok b => exact ⟨hr, hr'⟩
  | error e => exact ⟨hr, hr'⟩

/-- A specification that holds for each choice holds for some choice. -/
theorem of_exists {P : γ → σ → History S → Prop} {x : Fallible S E β} (hx : ∀ c, Leads step (P c) x post fails) :
    Leads step (fun s h => ∃ c, P c s h) x post fails :=
  fun s h r s' h' ⟨c, hp⟩ => hx c s h r s' h' hp

end Leads

/-! ## One way to go, step by step -/

section Ways

variable {x : Fallible S E γ} {f : γ → Fallible S E β} {s s' s'' : σ} {h h' h'' : History S}

theorem ends_pure {b : β} : Ends step (Pure.pure b : Fallible S E β).run s h (.ok b) s h := .pure

/-- One operation, its answer chosen. -/
theorem ends_perform {o : S.Op} {read : S.Res o → Except E β} {result : Except E β} (r : S.Res o)
    (reads : read r = result) (does : step o s r s') :
    Ends step (Fallible.perform o read).run s h result s' (⟨o, r⟩ :: h) := by
  subst reads
  exact .call does .pure

/-- After a value the rest goes on. -/
theorem ends_bind {c : γ} {r : Except E β} (hx : Ends step x.run s h (.ok c) s' h')
    (hf : Ends step (f c).run s' h' r s'' h'') : Ends step (x >>= f).run s h r s'' h'' := Ends.bind hx hf

/-- An error ends both. -/
theorem ends_stop {e : E} (hx : Ends step x.run s h (.error e) s' h') :
    Ends step (x >>= f).run s h (.error e) s' h' := Ends.bind hx .pure

theorem ends_ensure {c : Prop} [Decidable c] {e : E} (hc : c) :
    Ends step (Fallible.ensure c e : Fallible S E Unit).run s h (.ok ()) s h := by
  rw [Fallible.ensure, if_pos hc]
  exact ends_pure

/-- An attempt ends with the result as its value. -/
theorem ends_attempt {r : Except E γ} (hx : Ends step x.run s h r s' h') :
    Ends step (Fallible.attempt x).run s h (.ok r) s' h' := Ends.bind hx .pure

end Ways
end Effects
