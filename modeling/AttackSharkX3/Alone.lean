import AttackSharkX3.Effects.Ends
import AttackSharkX3.Bench
import AttackSharkX3.Update
/-!
# Alone — one call of the manager, whatever the mouse and the disk do

The call has the store to itself.  Everything outside it may answer anything: a session, the clock, the cache, and each
transaction may fail before or after it replaced the store.
-/
namespace AttackSharkX3

open Effects (Fallible Leads Ended)
open Effects.Prog (Event History Ends)

/-- **What an operation may answer, and what it leaves of the store.** -/
def Op.does : (o : Op) → StateFile → o.Res → StateFile → Prop
  | .load, state, r, state' => state' = state ∧ ((r : Except StateError StateFile) = .ok state ∨
      ∃ e, (r : Except StateError StateFile) = .error e)
  | .commit t, state, r, state' => Commits t state r state'
  | _, state, _, state' => state' = state

/-- **One way a call goes.** -/
abbrev Goes {α : Type} (x : Manager α) (state : StateFile) (result : Except ManagerError α) (state' : StateFile)
    (h : History Backend) : Prop :=
  Ends (S := Backend) Op.does x.run state [] result state' h

/-- A section or the profile numbers are written. -/
def SessionCall.writes : SessionCall → Bool
  | .writeDpi .. | .writePreferences .. | .writeButtons .. | .writePollingRateUnchecked .. | .writeProfileMetadata _ => true
  | .readProfileMetadata | .readProfile _ | .readDpi _ | .readPreferences _ | .readButtons _ | .readLivePollingRate _
  | .readBattery => false

/-- The operation writes neither to the mouse nor to the store. -/
def Op.looks : Op → Bool
  | .session _ call => !call.writes
  | .commit _ => false
  | .load | .acquire .. | .cached | .cacheInsert .. | .cacheRetain _ | .list _ | .open_ _ | .now | .random | .abort _ => true

/-- What was written to the mouse, with the answers, the newest first. -/
def writesOf (h : History Backend) : History Backend :=
  h.filter fun ev => match ev.1 with
    | .session _ call => call.writes
    | _ => false

theorem writesOf_looks {o : Op} {r : o.Res} {h : History Backend} (ho : o.looks = true) :
    writesOf (⟨o, r⟩ :: h) = writesOf h := by
  apply List.filter_cons_of_neg
  cases o with
  | session endpoint call => simpa [Op.looks] using ho
  | commit t => cases ho
  | _ => exact Bool.false_ne_true

theorem writesOf_write {endpoint : DeviceEndpoint} {call : SessionCall} (hw : call.writes = true)
    (r : Except ManagerError call.Value) (h : History Backend) :
    writesOf (⟨Op.session endpoint call, r⟩ :: h) = ⟨Op.session endpoint call, r⟩ :: writesOf h :=
  List.filter_cons_of_pos hw

theorem Op.does.of_looks {o : Op} {state state' : StateFile} {r : o.Res} (ho : o.looks = true)
    (hd : o.does state r state') : state' = state := by
  cases o with
  | load => exact hd.1
  | commit t => cases ho
  | _ => exact hd

/-! ## Calls that only look -/

/-- Every operation of the call only looks. -/
abbrev Looks {α : Type} (x : Manager α) : Prop := Fallible.Only (S := Backend) (fun o => o.looks = true) x

section Looks

variable {α T : Type}

theorem looks_load : Looks Manager.load := .perform rfl
theorem looks_now : Looks Manager.now := .perform rfl
theorem looks_call {session : Session} {call : SessionCall} (h : call.writes = false) : Looks (session.call call) :=
  .perform (by simp [Op.looks, h])

variable [Crc32fast]

/-- What opening a mouse for an operation takes. -/
structure Opening (kind : Op → Prop) : Prop where
  acquire : ∀ device operation, kind (.acquire device operation)
  load : kind .load
  opened : ∀ endpoint, kind (.open_ endpoint)
  cached : kind .cached
  cacheInsert : ∀ endpoint decode, kind (.cacheInsert endpoint decode)
  readProfileMetadata : ∀ endpoint, kind (.session endpoint .readProfileMetadata)
  readDpi : ∀ endpoint profile, kind (.session endpoint (.readDpi profile))

namespace Opening

variable {kind : Op → Prop}

theorem currentWatermark (hk : Opening kind) {session : Session} :
    Fallible.Only (S := Backend) kind (AttackSharkX3.currentWatermark session) :=
  .bind (.perform (hk.readProfileMetadata _)) fun _ => .bind (.perform (hk.readDpi _ _)) fun _ => .pure

theorem authenticateAttachment (hk : Opening kind) {endpoint : DeviceEndpoint} {session : Session} :
    Fallible.Only (S := Backend) kind (AttackSharkX3.authenticateAttachment endpoint session) := by
  refine .bind (.perform hk.cached) fun cache => ?_
  split
  · exact .pure
  · exact .bind hk.currentWatermark fun _ => .bind (.perform (hk.cacheInsert _ _)) fun _ => .pure

theorem openLocked (hk : Opening kind) {device : DeviceId} {operation : String} :
    Fallible.Only (S := Backend) kind (AttackSharkX3.openLocked device operation) := by
  refine .bind (.perform (hk.acquire _ _)) fun _ => .bind (.perform hk.load) fun state => .bind ?_ fun _ =>
    .bind .ofOption fun _ => .bind .ofOption fun _ => .bind (.perform (hk.opened _)) fun _ => .bind ?_ fun _ => .pure
  · unfold refuseInvolved
    split
    · exact .ensure
    · exact .pure
  · unfold gateAttachment
    split
    · exact .bind hk.authenticateAttachment fun _ => .ensure
    · exact .pure

end Opening

omit [Crc32fast] in
theorem looks_opening : Opening fun o => o.looks = true where
  acquire _ _ := rfl
  load := rfl
  opened _ := rfl
  cached := rfl
  cacheInsert _ _ := rfl
  readProfileMetadata _ := rfl
  readDpi _ _ := rfl

theorem looks_authenticateAttachment {endpoint : DeviceEndpoint} {session : Session} :
    Looks (authenticateAttachment endpoint session) := looks_opening.authenticateAttachment

theorem looks_openLocked {device : DeviceId} {operation : String} : Looks (openLocked device operation) :=
  looks_opening.openLocked

omit [Crc32fast] in
theorem looks_storedBaseline {sect : Section T} {name : String} {captured : ProfileId → Except ManagerError T}
    {device : DeviceId} {profile : ProfileId} {allow : Bool} :
    Looks (loadStoredBaseline sect name captured device profile allow) := by
  refine .bind looks_load fun state => ?_
  split
  · exact .pure
  · exact .ite .ofExcept .throw

omit [Crc32fast] in
theorem looks_requireCompleteDesiredImage {device : DeviceId} {profile : ProfileId} :
    Looks (requireCompleteDesiredImage device profile) :=
  .bind looks_load fun _ => .bind .ofOption fun _ => .bind .ofOption fun _ => .bind .ofOption fun _ =>
    .bind .ofOption fun _ => .bind .ofOption fun _ => .bind .ensure fun _ => .pure

omit [Crc32fast] in
/-- The baseline of a part is only looked up. -/
theorem looks_baseline {sect : Section T} {name : String} {captured : ProfileId → Except ManagerError T}
    {device : DeviceId} {profile : ProfileId} {transport : TransportKind} {policy : UpdatePolicy}
    {provided : Option ProfileUpdateBaseline} {get : ProfileUpdateBaseline → T} {read : Manager T} (hr : Looks read) :
    Looks (resolveBaseline transport policy (loadStoredBaseline sect name captured device profile)
      (liveBaseline provided get read)) := by
  unfold resolveBaseline
  split
  · exact looks_storedBaseline
  · unfold liveBaseline
    split
    · exact .pure
    · exact hr
  · exact looks_storedBaseline

end Looks

/-! ## A bench that answers -/

/-- The answers of a bench, with nothing cached and a store that never fails. -/
def Bench.replies (bench : Bench) : (o : Op) → StateFile → Option (o.Res × StateFile)
  | .load, state => some ((.ok state : Except StateError StateFile), state)
  | .commit t, state => some (commitReliably t state)
  | .acquire .., state => some ((.ok () : Except ManagerError Unit), state)
  | .cached, state => some ((fun _ => none : IdentityCache), state)
  | .cacheInsert .., state | .cacheRetain _, state => some ((), state)
  | .list selection, state => some (bench.list selection, state)
  | .open_ endpoint, state => some (bench.open_ endpoint, state)
  | .session endpoint call, state => some (bench.session endpoint call, state)
  | .now, state => some (bench.now, state)
  | .random, state => some (bench.random, state)
  | .abort _, _ => none

theorem Bench.does_replies (bench : Bench) (o : Op) (state : StateFile) (r : o.Res) (state' : StateFile)
    (h : bench.replies o state = some (r, state')) : o.does state r state' := by
  cases o with
  | load =>
    cases h
    exact ⟨rfl, .inl rfl⟩
  | commit t =>
    have heq : commitReliably t state = (r, state') := Option.some.inj h
    have hcommits := commits_reliably t state
    rw [heq] at hcommits
    exact hcommits
  | abort site => cases h
  | _ =>
    cases h
    exact rfl

/-- A call on the bench, with its history. -/
def Bench.goes {α : Type} (bench : Bench) (x : Manager α) (state : StateFile) :
    Option (Except ManagerError α × StateFile × History Backend) :=
  Effects.Prog.exec (Effects.Prog.logged (S := Backend) bench.replies) x.run (state, [])

theorem Bench.goes_ends {α : Type} {bench : Bench} {x : Manager α} {state state' : StateFile}
    {r : Except ManagerError α} {h : History Backend} (hg : bench.goes x state = some (r, state', h)) :
    Goes x state r state' h :=
  Ends.of_exec bench.does_replies hg

end AttackSharkX3
