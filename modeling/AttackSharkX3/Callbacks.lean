import AttackSharkX3.Commands
import AttackSharkX3.Draft
import AttackSharkX3.Effects.Loop
/-!
# Callbacks — the window's commands and the loop that handles them

The window queues a command for each of its callbacks.  The worker handles them one at a time: what a handler left comes
next, its own events make refreshes, and a refresh absorbs the refreshes that wait behind it.
-/
namespace AttackSharkX3

open Effects (Fallible Loop Tries)
open Effects.Loop (Config Fate Followed InOrder Phase Reaches)

/-- **A command of the window**, or one the worker makes itself. -/
inductive GuiCommand where
  | startup
  | refresh
  | autoRefresh
  | refreshAllProfiles
  | selectDevice (device : String)
  | selectProfile (profile : UInt8)
  | apply (draft : Draft)
  | discard
  | discardStateSchema
  | addProfile
  | renameProfile (profile : UInt8) (name : String)
  | hideProfile (profile : UInt8)
  | import_ (path : String)
  | export_ (path : String)
  | invalidateState
  | verifyProfile
  | verifyPowerCycle
  | beginCeremony (kind : IdentityCeremonyKind) (target : Option DeviceId) (subject : Option Nat)
  | ceremonyAction (action : IdentityCeremonyAction) (endpoint : Option DeviceEndpoint) (target : Option DeviceId)
  | decideEndpoint (endpoint : DeviceEndpoint) (device : Option DeviceId)
  | decidePendingEndpoint (endpoint : Nat) (candidate : Int)
  | shutdown

/-- The window's own refreshes. -/
def isCoalescable : GuiCommand → Bool
  | .startup | .refresh => true
  | _ => false

/-- The refreshes that the worker may drop. -/
def isCoalescableCommand : GuiCommand → Bool
  | .startup | .refresh | .autoRefresh => true
  | _ => false

/-- **What a handler may leave**: an answer leaves a decision, and a decision a ceremony, or a refresh once it attached a
mouse.  The loop is left at `shutdown`. -/
inductive GuiCommand.Leaves : GuiCommand → Option GuiCommand → Prop where
  | nothing {command} (ends : command ≠ .shutdown) : Leaves command none
  | decision (endpoint candidate handle device) :
      Leaves (.decidePendingEndpoint endpoint candidate) (some (.decideEndpoint handle device))
  | ceremony (endpoint device kind subject) :
      Leaves (.decideEndpoint endpoint device) (some (.beginCeremony kind none (some subject)))
  | refresh (endpoint id) : Leaves (.decideEndpoint endpoint (some id)) (some .refresh)

/-- `mpsc::channel(32)` -/
def GUI_QUEUE_CAPACITY : Nat := 32

/-- **The worker's loop.** -/
def guiLoop : Loop GuiCommand where
  coalescable := isCoalescableCommand
  leaves := GuiCommand.Leaves
  events command := command = .autoRefresh
  capacity := GUI_QUEUE_CAPACITY
  leaves_nothing hkind hleaves := by
    cases hleaves with
    | nothing => rfl
    | decision | ceremony | refresh => cases hkind

/-- **What the window does with a command**: the loop after it, whether the callback goes on, and the status it shows. -/
def queueCommand (c : Config GuiCommand) (command : GuiCommand) : Config GuiCommand × Bool × Option String :=
  match c.phase with
  | .stopped => (c, false, some "manager worker is unavailable; restart the application")
  | _ =>
    if c.queue.length < GUI_QUEUE_CAPACITY then
      ({ c with accepted := c.accepted ++ [command], queue := c.queue ++ [command] }, true, none)
    else if isCoalescable command then (c, true, some "refresh already queued — coalesced")
    else (c, false, some "command queue is full; try again shortly")

/-- The window only queues. -/
theorem queueCommand_cases (c : Config GuiCommand) (command : GuiCommand) :
    ((queueCommand c command).1 = c ∧ ((queueCommand c command).2.1 = true → isCoalescable command = true)) ∨
      ((queueCommand c command).2.1 = true ∧ (queueCommand c command).1.accepted = c.accepted ++ [command] ∧
        Loop.Step guiLoop c (queueCommand c command).1) := by
  unfold queueCommand
  split
  · exact .inl ⟨rfl, nofun⟩
  · next hopen =>
    split
    · next hroom => exact .inr ⟨rfl, rfl, .queue command hopen hroom⟩
    · split
      · next hkind => exact .inl ⟨rfl, fun _ => hkind⟩
      · exact .inl ⟨rfl, nofun⟩

/-! ## The handlers leave what they may -/

def Command.gui : Command → GuiCommand
  | .refresh => .refresh
  | .beginCeremony kind target subject => .beginCeremony kind target subject
  | .decideEndpoint endpoint device => .decideEndpoint endpoint device
  | .decidePendingEndpoint endpoint candidate => .decidePendingEndpoint endpoint candidate

/-- Any program, of which nothing is asked. -/
theorem tries_anything {α : Type} (x : Manager α) :
    Tries (fun _ _ => True) (fun _ => True) x (fun _ _ => True) fun _ _ => True := by
  intro h _
  suffices ∀ (p : Effects.Prog Backend (Except ManagerError α)) h,
      Effects.Prog.Keeps (fun _ _ => True) (Effects.Either (fun _ _ => True) fun _ _ => True) p h from this x.run h
  intro p
  induction p with
  | pure r =>
    intro h
    cases r <;> trivial
  | call o k ih => exact fun h => ⟨trivial, fun r => ih r _⟩

namespace WorkerState

variable {worker : WorkerState} {endpoint : DeviceEndpoint}

/-- The handler leaves what it may, on every way it may go. -/
def LeavesFor (command : GuiCommand) (x : Manager Handled) : Prop :=
  Tries (fun _ _ => True) (fun _ => True) x (fun handled _ => command.Leaves (handled.pending.map Command.gui)) fun _ _ => True

theorem leaves_beginFor {device : Option DeviceId} {kind : IdentityCeremonyKind} :
    (GuiCommand.decideEndpoint endpoint device).Leaves ((worker.beginFor endpoint kind).pending.map Command.gui) := by
  unfold beginFor
  split
  · exact .nothing nofun
  · exact .ceremony ..

theorem leaves_decidePendingEndpoint (index : Nat) (candidate : Int) : (GuiCommand.decidePendingEndpoint index candidate).Leaves
    ((worker.decidePendingEndpoint index candidate).pending.map Command.gui) := by
  unfold decidePendingEndpoint
  split
  · exact .nothing nofun
  split
  · exact .decision ..
  split
  · exact .nothing nofun
  split
  · exact .nothing nofun
  · exact .decision ..

theorem leaves_decideEndpoint (device : Option DeviceId) :
    LeavesFor (.decideEndpoint endpoint device) (worker.decideEndpoint endpoint device) := by
  cases device with
  | none => exact .pure fun _ _ => leaves_beginFor
  | some id =>
    refine .bind (tries_anything _) fun adoptInstead => ?_
    split
    · exact .pure fun _ _ => leaves_beginFor
    · refine .bind (tries_anything _) fun answer => ?_
      split
      · exact .pure fun _ _ => .nothing nofun
      · exact .bind (tries_anything _) fun keepStored => .pure fun _ _ => .refresh ..

variable [Crc32fast]

theorem leaves_beginCeremony (kind : IdentityCeremonyKind) (target : Option DeviceId) (subject : Option Nat) :
    LeavesFor (.beginCeremony kind target subject) (worker.beginCeremony kind target subject) := by
  have hbegin : ∀ hint, LeavesFor (.beginCeremony kind target subject) (worker.begin kind target hint) := fun hint =>
    .bind (tries_anything _) fun _ => .bind (tries_anything _) fun _ => .pure fun _ _ => .nothing nofun
  unfold beginCeremony
  split
  · exact hbegin _
  · split
    · exact .pure fun _ _ => .nothing nofun
    · exact hbegin _

/-- **Every handler leaves what it may.**  A refresh is a scan, which leaves nothing. -/
theorem leaves_handle (worker : WorkerState) (command : Command) (hscan : command ≠ .refresh) :
    LeavesFor command.gui (worker.handle command) := by
  cases command with
  | refresh => exact absurd rfl hscan
  | beginCeremony kind target subject => exact leaves_beginCeremony kind target subject
  | decideEndpoint endpoint device => exact leaves_decideEndpoint device
  | decidePendingEndpoint index candidate => exact .pure fun _ _ => leaves_decidePendingEndpoint index candidate

end WorkerState

/-! ## The window's commands -/

/-- **The window's commands are kept**: in every run they are handled once and in order, but for refreshes, which are dropped
only behind a refresh that was handled; an answer's decision, and the ceremony or refresh of a decision, come right after
it. -/
theorem commands_kept {c : Config GuiCommand} (run : Reaches guiLoop .idle c) :
    InOrder guiLoop c ∧
      (∀ entry ∈ c.past, entry.fate = .dropped → isCoalescableCommand entry.command = true) ∧
      (∀ later entry earlier next, c.past = later ++ entry :: earlier → entry.fate = .handled (some next) →
        entry.command.Leaves (some next) ∧ Followed next c later) ∧
      ∀ command, (queueCommand c command).2.1 = true → isCoalescable command = false →
        (queueCommand c command).1.accepted = c.accepted ++ [command] ∧ Reaches guiLoop .idle (queueCommand c command).1 := by
  have horderly := run.inOrder
  refine ⟨horderly, fun entry hentry hfate => ?_, fun later entry earlier next hpast hfate => ?_, fun command htold hkind => ?_⟩
  · obtain ⟨later, earlier, hpast⟩ := List.append_of_mem hentry
    exact (horderly.absorbed later entry earlier hpast hfate).1
  · refine ⟨horderly.leaves entry ?_ _ hfate, horderly.next later entry earlier next hpast hfate⟩
    rw [hpast]
    exact List.mem_append_right _ List.mem_cons_self
  · rcases queueCommand_cases c command with ⟨-, hcoalesced⟩ | ⟨-, haccepted, hstep⟩
    · rw [hcoalesced htold] at hkind
      cases hkind
    · exact ⟨haccepted, run.step hstep⟩

namespace Rig

/-- An unknown receiver. -/
def unknownReceiver : DeviceEndpoint := ⟨.receiver, none, none, none, .usbPath "1-2", none⟩

def thatMouse : DeviceId := ⟨"mouse-9", by decide⟩

/-- A question is answered with a saved mouse while a refresh and a discard wait: the mouse is attached, its refresh absorbs
the one that waits, and then the draft is discarded. -/
theorem answered_and_refreshed : ∃ c : Config GuiCommand,
    c.past.map (fun entry => (entry.queued, entry.command)) = [(true, .discard), (true, .refresh), (false, .refresh),
      (false, .decideEndpoint unknownReceiver (some thatMouse)), (true, .decidePendingEndpoint 0 0)] ∧ InOrder guiLoop c := by
  have waits : Reaches guiLoop .idle _ := .step (.step (.step .refl (.queue (.decidePendingEndpoint 0 0) nofun (by decide)))
    (.queue .refresh nofun (by decide))) (.queue .discard nofun (by decide))
  have answered := Reaches.step (.step waits (.receive rfl rfl rfl))
    (.handle rfl (.decision 0 0 unknownReceiver (some thatMouse)))
  have attached := Reaches.step (.step answered (.resume rfl rfl)) (.handle rfl (.refresh unknownReceiver thatMouse))
  have refreshed := Reaches.step (.step attached (.resume rfl rfl)) (.handle rfl (.nothing nofun))
  have absorbed := Reaches.step (.step refreshed (.drop rfl rfl rfl)) (.hold rfl rfl rfl)
  have discarded := Reaches.step (.step absorbed (.resume rfl rfl)) (.handle rfl (.nothing nofun))
  exact ⟨_, rfl, (commands_kept discarded).1⟩

end Rig
end AttackSharkX3
