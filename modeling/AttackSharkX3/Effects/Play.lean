import AttackSharkX3.Effects.Machine
/-!
# Play — a run made step by step

A player fixes one way to take each step of a machine.  With a list of turns it makes one run of the machine, as far as
every step of it passes a check.
-/
namespace Effects.Machine

variable {S : Sig} {ι κ α ε : Type} {M : Machine S ι κ α ε}

/-- **A player**: the answer to each operation, and what the other moves leave. -/
structure Player (M : Machine S ι κ α ε) where
  answer : M.World → ι → (o : S.Op) → Option (S.Res o × M.World)
  enter : M.World → ι → κ → M.World
  leave : M.World → ι → Option α → M.World
  env : M.World → ε → M.World
  answer_step : ∀ {w i o r w'}, answer w i o = some (r, w') → M.step w (.op i o r) w'
  enter_step : ∀ w i c, M.step w (.enter i c) (enter w i c)
  leave_step : ∀ w i result, M.step w (.leave i result) (leave w i result)
  env_step : ∀ w e, M.step w (.env e) (env w e)

/-- **A turn**: a client starts a call, goes on until it is about to issue an operation of a kind, ends its call, or is
stopped; or the environment moves. -/
inductive Turn (S : Sig) (ι κ ε : Type) where
  | enter (i : ι) (c : κ)
  | goOn (i : ι) (upTo : S.Op → Bool)
  | finish (i : ι)
  | stop (i : ι)
  | env (e : ε)

/-- The operation client `i` is about to issue. -/
def Config.next (c : Config M) (i : ι) : Option S.Op :=
  match c.thread i with
  | some (.call o _) => some o
  | _ => none

theorem Config.next_eq {c : Config M} {i : ι} {o : S.Op} (hn : c.next i = some o) :
    ∃ k, c.thread i = some (.call o k) := by
  unfold Config.next at hn
  split at hn
  · next o' k hrun =>
    cases hn
    exact ⟨k, hrun⟩
  · cases hn

variable [DecidableEq ι]

/-- An operation a player answers is a step. -/
theorem Player.next_step (P : Player M) {c : Config M} {i : ι} {o : S.Op} (hn : c.next i = some o)
    (ha : (P.answer c.world i o).isSome = true) : ∃ r c', Step M c (.op i o r) c' := by
  obtain ⟨k, hrun⟩ := Config.next_eq hn
  obtain ⟨⟨r, w⟩, hr⟩ := Option.isSome_iff_exists.1 ha
  exact ⟨r, _, .op hrun (P.answer_step hr)⟩

namespace Player

variable (P : Player M) (check : Config M → Move S ι κ α ε → Bool)

/-- The configuration after a move, if the move passes the check. -/
def checked (c : Config M) (m : Move S ι κ α ε) (w : M.World) (t : ι → Option (Prog S α)) : Option (Config M) :=
  if check c m then some (c.after m w t) else none

/-- The operations of client `i` up to one of a kind, and the end of its call if it comes first. -/
def goOn (i : ι) (upTo : S.Op → Bool) : Prog S α → Config M → Option (Config M)
  | .pure a, c => checked check c (.leave i (some a)) (P.leave c.world i (some a)) (Function.update c.thread i none)
  | .call o k, c =>
    if upTo o then some c
    else match P.answer c.world i o with
      | some (r, w) => (checked check c (.op i o r) w (Function.update c.thread i (some (k r)))).bind (goOn i upTo (k r))
      | none => none

def turn (c : Config M) : Turn S ι κ ε → Option (Config M)
  | .enter i call =>
    if (c.thread i).isNone then
      checked check c (.enter i call) (P.enter c.world i call) (Function.update c.thread i (some (M.body call)))
    else none
  | .goOn i upTo => (c.thread i).bind fun p => goOn P check i upTo p c
  | .finish i => (c.thread i).bind fun p => goOn P check i (fun _ => false) p c
  | .stop i =>
    if (c.thread i).isSome then checked check c (.leave i none) (P.leave c.world i none) (Function.update c.thread i none)
    else none
  | .env e => checked check c (.env e) (P.env c.world e) c.thread

/-- **The run the turns make.** -/
def play : List (Turn S ι κ ε) → Config M → Option (Config M)
  | [], c => some c
  | t :: rest, c => (turn P check c t).bind (play rest)

variable {P check} {ok : Config M → Move S ι κ α ε → Prop}

omit [DecidableEq ι] in
theorem checked_eq {c c' : Config M} {m : Move S ι κ α ε} {w t} (h : checked check c m w t = some c') :
    check c m = true ∧ c.after m w t = c' := by
  unfold checked at h
  split at h
  · next hc => exact ⟨hc, Option.some.inj h⟩
  · cases h

theorem goOn_reaches (hok : ∀ c m, check c m = true → ok c m) {i : ι} {upTo : S.Op → Bool} :
    ∀ (p : Prog S α) (c c' : Config M), c.thread i = some p → goOn P check i upTo p c = some c' → Reaches M ok c c'
  | .pure a, c, c', hp, h => by
    rw [goOn] at h
    obtain ⟨hc, rfl⟩ := checked_eq h
    exact .step .refl (hok _ _ hc) (.returned hp (P.leave_step ..))
  | .call o k, c, c', hp, h => by
    unfold goOn at h
    split at h
    · cases h
      exact .refl
    · split at h
      · next r w hr =>
        obtain ⟨c₁, h₁, h₂⟩ := Option.bind_eq_some_iff.1 h
        obtain ⟨hc, rfl⟩ := checked_eq h₁
        refine .trans (.step .refl (hok _ _ hc) (.op hp (P.answer_step hr))) ?_
        exact goOn_reaches hok (k r) _ c' (Function.update_self ..) h₂
      · cases h

theorem turn_reaches (hok : ∀ c m, check c m = true → ok c m) {c c' : Config M} {t : Turn S ι κ ε}
    (h : turn P check c t = some c') : Reaches M ok c c' := by
  cases t with
  | enter i call =>
    rw [turn] at h
    split at h
    · next hfree =>
      obtain ⟨hc, rfl⟩ := checked_eq h
      exact .step .refl (hok _ _ hc) (.enter (Option.isNone_iff_eq_none.1 hfree) (P.enter_step ..))
    · cases h
  | goOn i upTo | finish i =>
    obtain ⟨p, hp, hgo⟩ := Option.bind_eq_some_iff.1 h
    exact goOn_reaches hok p c c' hp hgo
  | stop i =>
    rw [turn] at h
    split at h
    · next hrun =>
      obtain ⟨hc, rfl⟩ := checked_eq h
      obtain ⟨p, hp⟩ := Option.isSome_iff_exists.1 hrun
      exact .step .refl (hok _ _ hc) (.stopped hp (P.leave_step ..))
    · cases h
  | env e =>
    obtain ⟨hc, rfl⟩ := checked_eq h
    exact .step .refl (hok _ _ hc) (.env (P.env_step ..))

/-- **What is played is a run**, each step of it as checked. -/
theorem play_reaches (hok : ∀ c m, check c m = true → ok c m) :
    ∀ (turns : List (Turn S ι κ ε)) {c c' : Config M}, play P check turns c = some c' → Reaches M ok c c'
  | [], _, _, h => by
    cases h
    exact .refl
  | t :: rest, _, _, h => by
    obtain ⟨c₁, h₁, h₂⟩ := Option.bind_eq_some_iff.1 h
    exact (turn_reaches hok h₁).trans (play_reaches hok rest h₂)

/-- A run whose end passes a test. -/
theorem played (hok : ∀ c m, check c m = true → ok c m) (turns : List (Turn S ι κ ε)) (test : Config M → Bool)
    {c : Config M} (h : (play P check turns c).any test = true) : ∃ c', Reaches M ok c c' ∧ test c' = true := by
  obtain ⟨c', hc', ht⟩ := (Option.any_eq_true _ _).1 h
  exact ⟨c', play_reaches hok turns hc', ht⟩

end Player
end Effects.Machine
