import AttackSharkX3.Discover
import AttackSharkX3.Ceremony
import AttackSharkX3.Effects.Machine
/-!
# Machine — clients, one store, and the hardware

Every client runs calls of the manager.  The durable store and the operation locks are shared by all of them; an identity
cache is shared by the clients of one manager, which `owner` names.  What the hardware answers is a parameter: `Hardware`
has a state of its own, moves of its own, and any relation for the answers.
-/
namespace AttackSharkX3

open Effects (Prog Move Machine)

/-- **The calls of a client.** -/
inductive Call where
  | discover (selection : TransportSelection)
  | rememberResolution (endpoint : DeviceEndpoint) (device : DeviceId)
  | updateDpi (device : DeviceId) (profile : ProfileId) (desired : DpiState) (policy : UpdatePolicy)
  | updateDpiDelta (device : DeviceId) (profile : ProfileId) (delta : DpiDelta) (policy : UpdatePolicy)
  | applyProfileUpdate (device : DeviceId) (profile : ProfileId) (update : ProfileUpdate) (policy : UpdatePolicy)
  | applyProfileUpdateFromSnapshot (device : DeviceId) (profile : ProfileId) (update : ProfileUpdate)
      (policy : UpdatePolicy) (baseline : ProfileUpdateBaseline)
  | ceremony (action : IdentityCeremonyAction) (endpoint : Option DeviceEndpoint) (target : Option DeviceId)
deriving DecidableEq

namespace Call

/-- The program of a call, its value forgotten. -/
def program [Crc32fast] : Call → Manager Unit
  | discover selection => do let _ ← AttackSharkX3.discover selection
  | rememberResolution endpoint device => AttackSharkX3.rememberResolution endpoint device
  | updateDpi device profile desired policy => do let _ ← AttackSharkX3.updateDpi device profile desired policy
  | updateDpiDelta device profile delta policy => do let _ ← AttackSharkX3.updateDpiDelta device profile delta policy
  | applyProfileUpdate device profile update policy => do
    let _ ← AttackSharkX3.applyProfileUpdate device profile update policy
  | applyProfileUpdateFromSnapshot device profile update policy baseline => do
    let _ ← AttackSharkX3.applyProfileUpdateFromSnapshot device profile update policy baseline
  | ceremony action endpoint target => do let _ ← identityCeremonyAction action endpoint target

/-- The logical mouse an ordinary write is about. -/
def device : Call → Option DeviceId
  | updateDpi device .. | updateDpiDelta device .. | applyProfileUpdate device ..
  | applyProfileUpdateFromSnapshot device .. => some device
  | discover _ | rememberResolution .. | ceremony .. => none

def isCeremony : Call → Bool
  | ceremony .. => true
  | _ => false

end Call

/-- What a call returns. -/
abbrev Outcome := Except ManagerError Unit

/-- **The hardware as the manager meets it.**  `moves` are its own: units attached, detached or used by hand. -/
structure Hardware where
  State : Type
  Env : Type
  list : State → TransportSelection → Except ManagerError (List DiscoveredEndpoint) → State → Prop
  open_ : State → DeviceEndpoint → Except ManagerError Unit → State → Prop
  session : State → DeviceEndpoint → (call : SessionCall) → Except ManagerError call.Value → State → Prop
  moves : State → Env → State → Prop

variable {ι μ : Type}

/-- **The world of a run.** -/
structure World (H : Hardware) (ι μ : Type) where
  store : StateFile
  hardware : H.State
  cache : μ → IdentityCache
  lock : DeviceId → Option ι

namespace World

variable {H : Hardware} [DecidableEq μ] [DecidableEq ι]

def setCache (w : World H ι μ) (m : μ) (cache : IdentityCache) : World H ι μ :=
  { w with cache := Function.update w.cache m cache }

/-- The world once client `i` ended its call: its locks are free. -/
def release (w : World H ι μ) (i : ι) : World H ι μ :=
  { w with lock := fun device => if w.lock device = some i then none else w.lock device }

/-- **What an operation of client `i`, of manager `m`, may answer and do.** -/
def effect (m : μ) (i : ι) (w : World H ι μ) : (o : Op) → o.Res → World H ι μ → Prop
  | .load, r, w' => (r = .ok w.store ∨ ∃ e, r = .error e) ∧ w' = w
  | .commit t, r, w' => ∃ store, Commits t w.store r store ∧ w' = { w with store }
  | .acquire device _, r, w' =>
    (r = .ok () ∧ w.lock device = none ∧ w' = { w with lock := Function.update w.lock device (some i) }) ∨
      ((∃ e, r = .error e) ∧ w' = w)
  | .cached, r, w' => r = w.cache m ∧ w' = w
  | .cacheInsert endpoint decode, _, w' =>
    w' = w.setCache m (Function.update (w.cache m) endpoint.key (some (decode, endpoint)))
  | .cacheRetain discovered, _, w' => w' = w.setCache m ((w.cache m).retain discovered)
  | .list selection, r, w' => ∃ hardware, H.list w.hardware selection r hardware ∧ w' = { w with hardware }
  | .open_ endpoint, r, w' => ∃ hardware, H.open_ w.hardware endpoint r hardware ∧ w' = { w with hardware }
  | .session endpoint call, r, w' =>
    ∃ hardware, H.session w.hardware endpoint call r hardware ∧ w' = { w with hardware }
  | .now, _, w' | .random, _, w' => w' = w
  | .abort _, _, _ => False

/-- **What a move may do.**  A stopped call may take its process with it, and the process its cache. -/
def step (owner : ι → μ) (w : World H ι μ) : Move Backend ι Call Outcome H.Env → World H ι μ → Prop
  | .op i o r, w' => w.effect (owner i) i o r w'
  | .enter _ _, w' => w' = w
  | .leave i (some _), w' => w' = w.release i
  | .leave i none, w' => w' = w.release i ∨ w' = (w.release i).setCache (owner i) fun _ => none
  | .env e, w' => ∃ hardware, H.moves w.hardware e hardware ∧ w' = { w with hardware }

end World

variable [DecidableEq ι] [DecidableEq μ]

/-- **The manager's clients over hardware `H`.** -/
def machine [Crc32fast] (H : Hardware) (owner : ι → μ) : Machine Backend ι Call Outcome H.Env where
  World := World H ι μ
  body call := call.program.run
  step := World.step owner

/-! ## What a move leaves alone -/

section Step

variable {H : Hardware} {owner : ι → μ} {w w' : World H ι μ}

/-- **Only a commit changes the store.** -/
theorem store_of_step {m} (h : World.step owner w m w') :
    w'.store = w.store ∨ ∃ i t r, m = .op i (.commit t) r ∧ Commits t w.store r w'.store := by
  cases m with
  | op i o r =>
    cases o with
    | commit t =>
      obtain ⟨store, hc, rfl⟩ := h
      exact .inr ⟨i, t, r, rfl, hc⟩
    | load => exact .inl (by rw [h.2])
    | acquire device operation =>
      rcases h with ⟨-, -, rfl⟩ | ⟨-, rfl⟩ <;> exact .inl rfl
    | cached => exact .inl (by rw [h.2])
    | cacheInsert endpoint decode => cases h; exact .inl rfl
    | cacheRetain discovered => cases h; exact .inl rfl
    | list selection => obtain ⟨hardware, -, rfl⟩ := h; exact .inl rfl
    | open_ endpoint => obtain ⟨hardware, -, rfl⟩ := h; exact .inl rfl
    | session endpoint call => obtain ⟨hardware, -, rfl⟩ := h; exact .inl rfl
    | now => cases h; exact .inl rfl
    | random => cases h; exact .inl rfl
    | abort site => exact h.elim
  | enter i call => cases h; exact .inl rfl
  | leave i result =>
    cases result with
    | some a => cases h; exact .inl rfl
    | none => rcases h with rfl | rfl <;> exact .inl rfl
  | env e => obtain ⟨hardware, -, rfl⟩ := h; exact .inl rfl

/-- A move that is no operation keeps the store. -/
theorem store_of_border [Crc32fast] {c c' : Machine.Config (machine H owner)} {m : Move Backend ι Call Outcome H.Env}
    (next : Machine.Step (machine H owner) c m c') (hm : ∀ i o r, m ≠ .op i o r) : c'.world.store = c.world.store := by
  rcases store_of_step (show World.step owner c.world m c'.world from next.moves) with h | ⟨_, _, _, heq, -⟩
  · exact h
  · exact absurd heq (hm _ _ _)

/-- An operation other than a commit keeps the store. -/
theorem store_of_op {i : ι} {o : Op} {r : o.Res} (ho : ∀ t, o ≠ .commit t) (h : World.step owner w (.op i o r) w') :
    w'.store = w.store := by
  rcases store_of_step h with h | ⟨_, t, _, hm, -⟩
  · exact h
  · cases hm
    exact absurd rfl (ho t)

end Step

end AttackSharkX3
