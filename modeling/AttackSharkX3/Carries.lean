import AttackSharkX3.Rig
import AttackSharkX3.Stamp
/-!
# Carries — the token of an ordinary DPI write

An ordinary write takes the mouse's token from the state it loads first and sends it later.  While the stored token of the
mouse stays as it is in between, whatever else the clients do, what is sent is the token stored at that moment.
-/
namespace AttackSharkX3

open Effects (Prog Move Machine)
open Effects.Machine (Config Step Reaches running history)

variable [Crc32fast] {ι μ : Type} [DecidableEq ι] [DecidableEq μ] {H : Hardware} {owner : ι → μ}

/-- **Client `i` is between the identity load and the DPI write** of an ordinary call on `d`. -/
def InFlight (c : Config (machine H owner)) (i : ι) (d : DeviceId) : Prop :=
  (∃ call, running i c.log = some call ∧ call.device = some d) ∧ (firstLoad (history i c.log)).isSome = true ∧
    wroteDpi (history i c.log) = false

/-- The move commits nothing that changes the token of a mouse an ordinary write is in flight for. -/
def LeavesInFlight (c : Config (machine H owner)) (m : Move Backend ι Call Outcome H.Env) : Prop :=
  ∀ j t r, m = .op j (.commit t) r → ∀ i d, InFlight c i d →
    physicalIdOf (t.after c.world.store) d = physicalIdOf c.world.store d

/-- The move, if it is an ordinary DPI write, carries the token stored at that moment for its mouse. -/
def CarriesToken (c : Config (machine H owner)) (m : Move Backend ι Call Outcome H.Env) : Prop :=
  ∀ i endpoint image verification r, m = .op i (.session endpoint (.writeDpi image verification)) r →
    ∀ call d, running i c.log = some call → call.device = some d →
      ∀ P, physicalIdOf c.world.store d = some P → image.preservedTail = P.toWatermarkBytes

/-- A call in flight still has the token it loaded. -/
def HasToken (c : Config (machine H owner)) : Prop :=
  ∀ i d, InFlight c i d → ∃ state, firstLoad (history i c.log) = some state ∧
    physicalIdOf c.world.store d = physicalIdOf state d

/-- A move that leaves calls in flight alone keeps the token such a call is for. -/
theorem physicalIdOf_step {c c' : Config (machine H owner)} {m} (meets : LeavesInFlight c m)
    (next : Step (machine H owner) c m c') {i : ι} {d : DeviceId} (hf : InFlight c i d) :
    physicalIdOf c'.world.store d = physicalIdOf c.world.store d := by
  rcases store_of_step next.moves with hs | ⟨j, t, r, rfl, hc⟩
  · rw [hs]
  · rcases hc.cases with hs | ⟨hs, -⟩
    · rw [hs]
    · rw [hs]
      exact meets j t r rfl i d hf

theorem HasToken.step {c c' : Config (machine H owner)} {m} (hc : HasToken c) (meets : LeavesInFlight c m)
    (next : Step (machine H owner) c m c') : HasToken c' := by
  intro i d hf
  obtain ⟨hcall, hloaded, hw⟩ := hf
  rcases next.client i with ⟨o, r, rfl, hh, hr⟩ | ⟨hh, hr⟩ | hh
  · rw [hh] at hloaded hw ⊢
    rw [hr] at hcall
    have hw' : wroteDpi (history i c.log) = false := by
      simp only [wroteDpi, List.any_cons, Bool.or_eq_false_iff] at hw
      exact hw.2
    cases hfirst : firstLoad (history i c.log) with
    | some state =>
      have hfl : InFlight c i d := ⟨hcall, by rw [hfirst]; rfl, hw'⟩
      obtain ⟨state', hs', htoken⟩ := hc i d hfl
      refine ⟨state', firstLoad_cons hs' _, ?_⟩
      rw [physicalIdOf_step meets next hfl, htoken]
    | none =>
      rw [firstLoad_cons_none hfirst] at hloaded ⊢
      obtain ⟨state, hstate⟩ := Option.isSome_iff_exists.1 hloaded
      obtain ⟨rfl, hstore⟩ := loaded_of_step next.moves hstate
      exact ⟨_, hstate, by rw [hstore]⟩
  · rw [hh] at hloaded hw ⊢
    rw [hr] at hcall
    have hfl : InFlight c i d := ⟨hcall, hloaded, hw⟩
    obtain ⟨state, hs, htoken⟩ := hc i d hfl
    exact ⟨state, hs, by rw [physicalIdOf_step meets next hfl, htoken]⟩
  · rw [hh] at hloaded
    cases hloaded

theorem HasToken.reaches {w : World H ι μ} {c : Config (machine H owner)}
    (run : Reaches (machine H owner) LeavesInFlight (.idle w) c) : HasToken c := by
  induction run with
  | refl =>
    rintro i d ⟨⟨call, hcall, -⟩, -⟩
    cases hcall
  | step _ meets next ih => exact ih.step meets next

/-- **Ordinary DPI writes carry the stored token**: in every run, of any number of clients and with any failures, in which
the token of a mouse does not change while an ordinary call on it is between its identity load and its DPI write. -/
theorem ordinary_writes_carry_stored_token {w : World H ι μ} {c c' : Config (machine H owner)} {m}
    (run : Reaches (machine H owner) LeavesInFlight (.idle w) c) (next : Step (machine H owner) c m c') :
    CarriesToken c m := by
  rintro i endpoint image verification r rfl call d hcall hd P hP
  obtain ⟨call', hcall', hrule⟩ := run.issued Call.keeps next
  rw [hcall] at hcall'
  cases hcall'
  have hordinary : ordinaryRule call.device (history i c.log) (.session endpoint (.writeDpi image verification)) := by
    cases call with
    | ceremony => cases hd
    | _ => exact hrule
  obtain ⟨state, d', mouse, hfirst, hd', hmouse, hw, htail⟩ := hordinary
  rw [hd] at hd'
  cases hd'
  obtain ⟨state', hfirst', htoken⟩ := HasToken.reaches run i d ⟨⟨call, hcall, hd⟩, by rw [hfirst]; rfl, hw⟩
  rw [hfirst] at hfirst'
  cases hfirst'
  rw [hP] at htoken
  exact (htail P (by simpa [physicalIdOf, hmouse] using htoken.symm)).1

end AttackSharkX3

namespace AttackSharkX3.Rig

open Effects.Machine (Config Step Reaches Turn running)

/-- One mouse, saved at its BLE address; the unit is also on a cable. -/
def twoClients : World (mice Unit) Bool Bool :=
  world (saved [(mouse1, token 1, ble "a")]) (fun _ => unit fun _ => none) [(ble "a", ()), (wired "a", ())]

/-- A client that draws a token for a restore. -/
def restoring : Rig Bool := ⟨listing [ble "a"], fun _ => (token 2).token, ⟨0⟩⟩

def bleWrite : Call := .updateDpi mouse1 first (image none first) { allowExplicitDefaults := true }

/-- A move that commits nothing leaves every call in flight alone. -/
def commitsNothing (_ : Config (machine (mice Unit) (id : Bool → Bool)))
    (m : Effects.Move Backend Bool Call Outcome (Hand Unit)) : Bool :=
  !(m matches .op _ (.commit _) _)

theorem commitsNothing_leaves {c m} (h : commitsNothing c m = true) : LeavesInFlight c m := by
  rintro j t r rfl
  cases h

/-- A client over BLE writes the token it loaded. -/
theorem carries_loaded_token : ∃ c c' r, Reaches (machine (mice Unit) id) LeavesInFlight (.idle twoClients) c ∧
    Step (machine (mice Unit) id) c
      (.op false (.session (ble "a") (.writeDpi (image (some (token 1)) first) .transport)) r) c' ∧
    CarriesToken c (.op false (.session (ble "a") (.writeDpi (image (some (token 1)) first) .transport)) r) := by
  obtain ⟨c, run, htest⟩ := restoring.checked id twoClients commitsNothing (fun _ _ => commitsNothing_leaves)
    [.enter false bleWrite, .goOn false Op.writesDpi]
    (fun c => c.next false = some (.session (ble "a") (.writeDpi (image (some (token 1)) first) .transport)) ∧
      (c.world.mice.attached (ble "a").key).isSome = true) (by decide +kernel)
  obtain ⟨hnext, hattached⟩ := of_decide_eq_true htest
  obtain ⟨r, c', next⟩ := restoring.session_step hnext hattached
  exact ⟨c, c', r, run, next, ordinary_writes_carry_stored_token run next⟩

/-- **A write in flight carries the old token**: one client writes over BLE what it loaded before the other restored the
mouse. -/
theorem write_carries_rotated_token : ∃ c c' m, Reaches (machine (mice Unit) id) (fun _ _ => True) (.idle twoClients) c ∧
    Step (machine (mice Unit) id) c m c' ∧ ¬ CarriesToken c m := by
  obtain ⟨c, run, htest⟩ := restoring.played id twoClients
    [.enter false bleWrite, .goOn false Op.writesDpi,
      .enter true (.ceremony (.begin .restore) none (some mouse1)), .finish true,
      .enter true (.ceremony .reconnected (some (wired "a")) (some mouse1)), .finish true,
      .enter true (.ceremony .stamp none none), .finish true]
    (fun c => c.next false = some (.session (ble "a") (.writeDpi (image (some (token 1)) first) .transport)) ∧
      (c.world.mice.attached (ble "a").key).isSome = true ∧ running false c.log = some bleWrite ∧
      physicalIdOf c.world.store mouse1 = some (token 2)) (by decide +kernel)
  obtain ⟨hnext, hattached, hrunning, hstored⟩ := of_decide_eq_true htest
  obtain ⟨r, c', next⟩ := restoring.session_step hnext hattached
  refine ⟨c, c', _, run, next, fun hcarries => ?_⟩
  have hsame := hcarries false _ _ _ _ rfl _ mouse1 hrunning rfl _ hstored
  exact absurd hsame (by decide)

end AttackSharkX3.Rig
