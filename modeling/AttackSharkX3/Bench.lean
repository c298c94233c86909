import AttackSharkX3.Effects.Exec
import AttackSharkX3.Backend
/-!
# Bench — one call, undisturbed

On a bench nothing interferes: the store takes every valid transaction, and the hardware answers as it is set up.  What a
call answers and leaves is then a function of the store and the cache.  USB lists only what is plugged in, so a listed USB
connection is a connected one.
-/
namespace AttackSharkX3

open Effects (Fallible)

/-- **What the hardware answers**: the listed connections, and each endpoint's session. -/
structure Bench where
  list : TransportSelection → Except ManagerError (List DiscoveredEndpoint)
  open_ : DeviceEndpoint → Except ManagerError Unit
  session : DeviceEndpoint → (call : SessionCall) → Except ManagerError call.Value
  now : Timestamp
  random : Except String (Bytes 16)
  usbConnected : ∀ selection listed, list selection = .ok listed → ∀ disc ∈ listed,
    isUsbTransport disc.endpoint.transport = true → disc.connected = true

/-- The store, one manager's cache, and the transactions asked of the store so far, each with the state it was asked on,
the newest first. -/
structure Desk where
  store : StateFile
  cache : IdentityCache
  asked : List (StateFile × Txn) := []

namespace Bench

/-- **The answer to each operation**; a failed assertion has none. -/
def answer (bench : Bench) : (o : Op) → Desk → Option (o.Res × Desk)
  | .load, desk => some ((.ok desk.store : Except StateError StateFile), desk)
  | .commit t, desk => some ((commitReliably t desk.store).1,
      { desk with store := (commitReliably t desk.store).2, asked := (desk.store, t) :: desk.asked })
  | .acquire .., desk => some ((.ok () : Except ManagerError Unit), desk)
  | .cached, desk => some (desk.cache, desk)
  | .cacheInsert endpoint decode, desk =>
    some ((), { desk with cache := Function.update desk.cache endpoint.key (some (decode, endpoint)) })
  | .cacheRetain discovered, desk => some ((), { desk with cache := desk.cache.retain discovered })
  | .list selection, desk => some (bench.list selection, desk)
  | .open_ endpoint, desk => some (bench.open_ endpoint, desk)
  | .session endpoint call, desk => some (bench.session endpoint call, desk)
  | .now, desk => some (bench.now, desk)
  | .random, desk => some (bench.random, desk)
  | .abort _, _ => none

variable {α : Type} (bench : Bench)

/-- **A call on the bench.** -/
def call (x : Manager α) (desk : Desk) : Option (Except ManagerError α × Desk) := Fallible.exec bench.answer x desk

theorem call_load (desk : Desk) : bench.call Manager.load desk = some (.ok desk.store, desk) := rfl

theorem call_commit (t : Txn) (desk : Desk) : bench.call (Manager.commit t) desk =
    some (match (commitReliably t desk.store).1 with
      | .ok answer => answer
      | .error e => .error (.state e),
      { desk with store := (commitReliably t desk.store).2, asked := (desk.store, t) :: desk.asked }) := rfl

/-- **A commit that went through** left what its closure leaves. -/
theorem of_call_commit {t : Txn} {desk desk' : Desk} {out : t.Out}
    (h : bench.call (Manager.commit t) desk = some (.ok out, desk')) :
    desk' = { desk with store := t.after desk.store, asked := (desk.store, t) :: desk.asked } ∧
      t.answer desk.store = .ok out := by
  rw [call_commit, Option.some.injEq, Prod.mk.injEq] at h
  obtain ⟨hanswer, rfl⟩ := h
  cases hcommit : (commitReliably t desk.store).1 with
  | error e =>
    rw [hcommit] at hanswer
    cases hanswer
  | ok answer =>
    rw [hcommit] at hanswer
    obtain ⟨hstore, rfl, -⟩ := of_commitReliably hcommit
    exact ⟨by rw [hstore], hanswer⟩

end Bench
end AttackSharkX3
