import Mathlib.Logic.Function.Basic
import AttackSharkX3.Effects.History
/-!
# Machine — clients running programs against a shared world

A machine gives the operations of a signature their effect on a world that several clients share.  Each client runs at
most one call at a time; between any two operations of one client the others, and the environment, may move, and a call
may stop at any point without returning.  A run is a chain of such moves, and its log keeps every move with the world it
was made in.
-/
namespace Effects

open Prog (Event History Keeps)

/-- **One move of a run**: client `i` performs an operation and receives its answer, starts a call, ends it (with its
value, or with nothing when it is stopped), or the environment moves. -/
inductive Move (S : Sig) (ι κ α ε : Type) where
  | op (i : ι) (o : S.Op) (r : S.Res o)
  | enter (i : ι) (c : κ)
  | leave (i : ι) (result : Option α)
  | env (e : ε)

/-- **A machine**: the program of each call, and what each move may do to the world. -/
structure Machine (S : Sig) (ι κ α ε : Type) where
  World : Type
  body : κ → Prog S α
  step : World → Move S ι κ α ε → World → Prop

namespace Machine

variable {S : Sig} {ι κ α ε : Type}

/-- A move and the world it was made in. -/
structure Entry (M : Machine S ι κ α ε) where
  before : M.World
  move : Move S ι κ α ε

/-- The world, what is left of each client's call, and the moves so far, the newest first. -/
structure Config (M : Machine S ι κ α ε) where
  world : M.World
  thread : ι → Option (Prog S α)
  log : List (Entry M)

variable {M : Machine S ι κ α ε}

def Config.idle (w : M.World) : Config M := ⟨w, fun _ => none, []⟩

/-- The configuration after `move` left the world `w` and the threads `t`. -/
def Config.after (c : Config M) (move : Move S ι κ α ε) (w : M.World) (t : ι → Option (Prog S α)) : Config M :=
  ⟨w, t, ⟨c.world, move⟩ :: c.log⟩

@[simp] theorem Config.after_world (c : Config M) (m : Move S ι κ α ε) (w t) : (c.after m w t).world = w := rfl
@[simp] theorem Config.after_thread (c : Config M) (m : Move S ι κ α ε) (w t) : (c.after m w t).thread = t := rfl
@[simp] theorem Config.after_log (c : Config M) (m : Move S ι κ α ε) (w t) :
    (c.after m w t).log = ⟨c.world, m⟩ :: c.log := rfl

variable [DecidableEq ι]

/-- **One step of a run.**  Only a client without a call starts one, and only a call that reached its value returns. -/
inductive Step (M : Machine S ι κ α ε) (c : Config M) : Move S ι κ α ε → Config M → Prop where
  | op {i o k r w} (running : c.thread i = some (.call o k)) (moves : M.step c.world (.op i o r) w) :
      Step M c (.op i o r) (c.after (.op i o r) w (Function.update c.thread i (some (k r))))
  | enter {i call w} (free : c.thread i = none) (moves : M.step c.world (.enter i call) w) :
      Step M c (.enter i call) (c.after (.enter i call) w (Function.update c.thread i (some (M.body call))))
  | returned {i a w} (done : c.thread i = some (.pure a)) (moves : M.step c.world (.leave i (some a)) w) :
      Step M c (.leave i (some a)) (c.after (.leave i (some a)) w (Function.update c.thread i none))
  | stopped {i p w} (running : c.thread i = some p) (moves : M.step c.world (.leave i none) w) :
      Step M c (.leave i none) (c.after (.leave i none) w (Function.update c.thread i none))
  | env {e w} (moves : M.step c.world (.env e) w) : Step M c (.env e) (c.after (.env e) w c.thread)

theorem Step.moves {c c' : Config M} {m} (h : Step M c m c') : M.step c.world m c'.world := by
  cases h <;> assumption

theorem Step.log {c c' : Config M} {m} (h : Step M c m c') : c'.log = ⟨c.world, m⟩ :: c.log := by
  cases h <;> rfl

/-- **The configurations a run reaches** from `start`, each step meeting `ok` where it is made. -/
inductive Reaches (M : Machine S ι κ α ε) (ok : Config M → Move S ι κ α ε → Prop) (start : Config M) :
    Config M → Prop where
  | refl : Reaches M ok start start
  | step {c c' : Config M} {m} (before : Reaches M ok start c) (meets : ok c m) (next : Step M c m c') :
      Reaches M ok start c'

theorem Reaches.trans {ok} {a b c : Config M} (hab : Reaches M ok a b) (hbc : Reaches M ok b c) : Reaches M ok a c := by
  induction hbc with
  | refl => exact hab
  | step _ meets next ih => exact .step ih meets next

/-- A run whose steps meet, as they are made, a condition of another kind. -/
theorem Reaches.strengthen {ok ok' : Config M → Move S ι κ α ε → Prop} {a b : Config M} (hab : Reaches M ok a b)
    (h : ∀ c c' m, Reaches M ok a c → ok c m → Step M c m c' → ok' c m) : Reaches M ok' a b := by
  induction hab with
  | refl => exact .refl
  | step before meets next ih => exact .step ih (h _ _ _ before meets next) next

/-! ## One client's part of a log -/

/-- The call client `i` is running. -/
def running (i : ι) : List (Entry M) → Option κ
  | [] => none
  | ⟨_, .enter j c⟩ :: log => if j = i then some c else running i log
  | ⟨_, .leave j _⟩ :: log => if j = i then none else running i log
  | ⟨_, .op ..⟩ :: log | ⟨_, .env _⟩ :: log => running i log

/-- What client `i` did in the call it is running. -/
def history (i : ι) : List (Entry M) → History S
  | [] => []
  | ⟨_, .op j o r⟩ :: log => if j = i then ⟨o, r⟩ :: history i log else history i log
  | ⟨_, .enter j _⟩ :: log | ⟨_, .leave j _⟩ :: log => if j = i then [] else history i log
  | ⟨_, .env _⟩ :: log => history i log

/-- The world client `i` started its call in. -/
def started (i : ι) : List (Entry M) → Option M.World
  | [] => none
  | ⟨w, .enter j _⟩ :: log => if j = i then some w else started i log
  | ⟨_, .leave j _⟩ :: log => if j = i then none else started i log
  | ⟨_, .op ..⟩ :: log | ⟨_, .env _⟩ :: log => started i log

section Log

variable {w : M.World} {log : List (Entry M)} {i j : ι}

@[simp] theorem history_nil : history (M := M) i [] = [] := rfl
@[simp] theorem running_nil : running (M := M) i [] = none := rfl
@[simp] theorem running_op {o : S.Op} {r : S.Res o} : running i (⟨w, .op j o r⟩ :: log) = running i log := rfl
@[simp] theorem running_env {e : ε} : running i (⟨w, .env e⟩ :: log) = running i log := rfl
@[simp] theorem running_enter {c : κ} : running i (⟨w, .enter i c⟩ :: log) = some c := if_pos rfl
@[simp] theorem running_leave {a : Option α} : running i (⟨w, .leave i a⟩ :: log) = none := if_pos rfl
@[simp] theorem history_op {o : S.Op} {r : S.Res o} :
    history i (⟨w, .op i o r⟩ :: log) = ⟨o, r⟩ :: history i log := if_pos rfl
@[simp] theorem history_env {e : ε} : history i (⟨w, .env e⟩ :: log) = history i log := rfl
@[simp] theorem history_enter {c : κ} : history i (⟨w, .enter i c⟩ :: log) = [] := if_pos rfl
@[simp] theorem history_leave {a : Option α} : history i (⟨w, .leave i a⟩ :: log) = [] := if_pos rfl

@[simp] theorem started_op {o : S.Op} {r : S.Res o} : started i (⟨w, .op j o r⟩ :: log) = started i log := rfl
@[simp] theorem started_env {e : ε} : started i (⟨w, .env e⟩ :: log) = started i log := rfl
@[simp] theorem started_enter {c : κ} : started i (⟨w, .enter i c⟩ :: log) = some w := if_pos rfl
@[simp] theorem started_leave {a : Option α} : started i (⟨w, .leave i a⟩ :: log) = none := if_pos rfl

theorem running_enter_of_ne (h : j ≠ i) {c : κ} : running i (⟨w, .enter j c⟩ :: log) = running i log := if_neg h
theorem running_leave_of_ne (h : j ≠ i) {a : Option α} : running i (⟨w, .leave j a⟩ :: log) = running i log := if_neg h
theorem history_op_of_ne (h : j ≠ i) {o : S.Op} {r : S.Res o} :
    history i (⟨w, .op j o r⟩ :: log) = history i log := if_neg h
theorem history_enter_of_ne (h : j ≠ i) {c : κ} : history i (⟨w, .enter j c⟩ :: log) = history i log := if_neg h
theorem history_leave_of_ne (h : j ≠ i) {a : Option α} : history i (⟨w, .leave j a⟩ :: log) = history i log := if_neg h

end Log

/-- **What a step does to one client's part of the log**: one more operation of its own, nothing, or a new beginning. -/
theorem Step.client {c c' : Config M} {m} (next : Step M c m c') (i : ι) :
    (∃ o r, m = .op i o r ∧ history i c'.log = ⟨o, r⟩ :: history i c.log ∧ running i c'.log = running i c.log) ∨
      (history i c'.log = history i c.log ∧ running i c'.log = running i c.log) ∨ history i c'.log = [] := by
  rw [next.log]
  cases m with
  | op j o r =>
    by_cases hj : j = i
    · subst hj
      exact .inl ⟨o, r, rfl, history_op, rfl⟩
    · exact .inr (.inl ⟨history_op_of_ne hj, rfl⟩)
  | enter j call =>
    by_cases hj : j = i
    · subst hj
      exact .inr (.inr history_enter)
    · exact .inr (.inl ⟨history_enter_of_ne hj, running_enter_of_ne hj⟩)
  | leave j result =>
    by_cases hj : j = i
    · subst hj
      exact .inr (.inr history_leave)
    · exact .inr (.inl ⟨history_leave_of_ne hj, running_leave_of_ne hj⟩)
  | env e => exact .inr (.inl ⟨rfl, rfl⟩)

/-- A client that runs a call started it in some world. -/
theorem started_of_running {i : ι} {call : κ} : ∀ log : List (Entry M), running i log = some call →
    ∃ w, started i log = some w
  | ⟨w, .enter j c⟩ :: log, h => by
    by_cases hj : j = i
    · subst hj
      exact ⟨w, started_enter⟩
    · rw [running_enter_of_ne hj] at h
      obtain ⟨w', hw⟩ := started_of_running log h
      exact ⟨w', (if_neg hj).trans hw⟩
  | ⟨_, .leave j a⟩ :: log, h => by
    by_cases hj : j = i
    · subst hj
      rw [running_leave] at h
      cases h
    · rw [running_leave_of_ne hj] at h
      obtain ⟨w', hw⟩ := started_of_running log h
      exact ⟨w', (if_neg hj).trans hw⟩
  | ⟨_, .op ..⟩ :: log, h => started_of_running log h
  | ⟨_, .env _⟩ :: log, h => started_of_running log h

/-- What is known of one client: nothing runs, or what is left of its call keeps the rule of that call. -/
def Local (M : Machine S ι κ α ε) (rule : κ → History S → S.Op → Prop) (post : κ → α → History S → Prop) (i : ι)
    (log : List (Entry M)) : Option (Prog S α) → Prop
  | none => running i log = none ∧ history i log = []
  | some p => ∃ call, running i log = some call ∧ Keeps (rule call) (post call) p (history i log)

variable {ok : Config M → Move S ι κ α ε → Prop} {rule : κ → History S → S.Op → Prop}
  {post : κ → α → History S → Prop} {w : M.World}

theorem Step.keepsLocal (bodies : ∀ call, Keeps (rule call) (post call) (M.body call) []) {c c' : Config M} {m}
    (next : Step M c m c') (hc : ∀ i, Local M rule post i c.log (c.thread i)) (i : ι) :
    Local M rule post i c'.log (c'.thread i) := by
  have hi := hc i
  cases next with
  | @op j o k r w' hrun _ =>
    by_cases hj : j = i
    · subst hj
      rw [hrun] at hi
      obtain ⟨call, hcall, -, hk⟩ := hi
      simpa [Local, hcall] using hk r
    · simpa [Local, Function.update_of_ne (Ne.symm hj), history_op_of_ne hj] using hi
  | @enter j call w' _ _ =>
    by_cases hj : j = i
    · subst hj
      simpa [Local] using bodies call
    · simpa [Local, Function.update_of_ne (Ne.symm hj), history_enter_of_ne hj, running_enter_of_ne hj] using hi
  | @returned j a w' _ _ =>
    by_cases hj : j = i
    · subst hj
      simp [Local]
    · simpa [Local, Function.update_of_ne (Ne.symm hj), history_leave_of_ne hj, running_leave_of_ne hj] using hi
  | @stopped j p w' _ _ =>
    by_cases hj : j = i
    · subst hj
      simp [Local]
    · simpa [Local, Function.update_of_ne (Ne.symm hj), history_leave_of_ne hj, running_leave_of_ne hj] using hi
  | env _ => simpa [Local] using hi

/-- **Every client keeps the rule of its call**, whatever the others and the environment do. -/
theorem Reaches.keepsLocal (bodies : ∀ call, Keeps (rule call) (post call) (M.body call) []) {c : Config M}
    (run : Reaches M ok (.idle w) c) : ∀ i, Local M rule post i c.log (c.thread i) := by
  induction run with
  | refl => exact fun i => ⟨rfl, rfl⟩
  | step _ _ next ih => exact next.keepsLocal bodies ih

/-- An operation of a run is one its client's call may issue after what the client did so far. -/
theorem Reaches.issued (bodies : ∀ call, Keeps (rule call) (post call) (M.body call) []) {c c' : Config M} {i o r}
    (run : Reaches M ok (.idle w) c) (next : Step M c (.op i o r) c') :
    ∃ call, running i c.log = some call ∧ rule call (history i c.log) o := by
  have hi := run.keepsLocal bodies i
  cases next with
  | op hrun _ =>
    rw [hrun] at hi
    obtain ⟨call, hcall, ho, -⟩ := hi
    exact ⟨call, hcall, ho⟩

/-- A value a call returns is one it may return after what its client did. -/
theorem Reaches.returned (bodies : ∀ call, Keeps (rule call) (post call) (M.body call) []) {c c' : Config M} {i a}
    (run : Reaches M ok (.idle w) c) (next : Step M c (.leave i (some a)) c') :
    ∃ call, running i c.log = some call ∧ post call a (history i c.log) := by
  have hi := run.keepsLocal bodies i
  cases next with
  | returned hdone _ =>
    rw [hdone] at hi
    exact hi

end Machine
end Effects
