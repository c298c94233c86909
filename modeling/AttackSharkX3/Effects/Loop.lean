import Mathlib.Data.List.Infix
/-!
# Loop — a loop that handles commands one at a time

Commands come from a bounded queue, from a handler, which may leave one to be handled next, and from the loop's own events.
After a command of a certain kind the loop drops the commands of that kind that wait at the head of the queue.
-/
namespace Effects

/-- **A loop**: the commands that may be dropped after one of their kind, what a handler may leave, and the commands the loop
makes of its events.  A handler of the kind leaves nothing. -/
structure Loop (κ : Type) where
  coalescable : κ → Bool
  leaves : κ → Option κ → Prop
  events : κ → Prop
  capacity : Nat
  leaves_nothing : ∀ {command next}, coalescable command = true → leaves command next → next = none

namespace Loop

variable {κ : Type} {L : Loop κ}

/-- What the loop is doing. -/
inductive Phase (κ : Type) where
  | idle
  | running (queued : Bool) (command : κ)
  | draining
  | stopped

/-- What became of a command. -/
inductive Fate (κ : Type) where
  | handled (next : Option κ)
  | dropped
  | interrupted

/-- A command that is past, and whether it came from the queue. -/
structure Past (κ : Type) where
  queued : Bool
  command : κ
  fate : Fate κ

/-- The commands that were accepted, the oldest first, those that wait, the one to be handled next, what the loop is doing,
and the commands that are past, the newest first. -/
structure Config (κ : Type) where
  accepted : List κ
  queue : List κ
  pending : Option (Bool × κ)
  phase : Phase κ
  past : List (Past κ)

def Config.idle : Config κ := ⟨[], [], none, .idle, []⟩

/-- **One step**: a client queues a command, an event leaves one, or the loop goes on. -/
inductive Step (L : Loop κ) (c : Config κ) : Config κ → Prop where
  | queue (command : κ) (opened : c.phase ≠ .stopped) (room : c.queue.length < L.capacity) :
      Step L c { c with accepted := c.accepted ++ [command], queue := c.queue ++ [command] }
  | resume {queued command} (idle : c.phase = .idle) (next : c.pending = some (queued, command)) :
      Step L c { c with pending := none, phase := .running queued command }
  | receive {command rest} (idle : c.phase = .idle) (free : c.pending = none) (next : c.queue = command :: rest) :
      Step L c { c with queue := rest, phase := .running true command }
  | event {command} (idle : c.phase = .idle) (free : c.pending = none) (event : L.events command) :
      Step L c { c with pending := some (false, command) }
  | handle {queued command next} (running : c.phase = .running queued command) (leaves : L.leaves command next) :
      Step L c { c with pending := next.map (false, ·), phase := if L.coalescable command then .draining else .idle
                        past := ⟨queued, command, .handled next⟩ :: c.past }
  | drop {command rest} (draining : c.phase = .draining) (next : c.queue = command :: rest)
      (kind : L.coalescable command = true) :
      Step L c { c with queue := rest, past := ⟨true, command, .dropped⟩ :: c.past }
  | hold {command rest} (draining : c.phase = .draining) (next : c.queue = command :: rest)
      (kind : L.coalescable command = false) :
      Step L c { c with queue := rest, pending := some (true, command), phase := .idle }
  | drained (draining : c.phase = .draining) (empty : c.queue = []) : Step L c { c with phase := .idle }
  | stop (idle : c.phase = .idle) : Step L c { c with phase := .stopped }
  | interrupt {queued command} (running : c.phase = .running queued command) :
      Step L c { c with phase := .stopped, past := ⟨queued, command, .interrupted⟩ :: c.past }

/-- **The configurations of a loop's runs.** -/
inductive Reaches (L : Loop κ) (start : Config κ) : Config κ → Prop where
  | refl : Reaches L start start
  | step {c c'} (before : Reaches L start c) (next : Step L c c') : Reaches L start c'

/-! ## Order -/

/-- The command, if it came from the queue. -/
def ofQueue : Bool × κ → List κ
  | (true, command) => [command]
  | (false, _) => []

/-- The command that is being handled. -/
def Phase.current : Phase κ → List κ
  | running queued command => ofQueue (queued, command)
  | _ => []

/-- Those that came from the queue, the oldest first. -/
def line (past : List (Past κ)) : List κ := (past.reverse.filter (·.queued)).map (·.command)

theorem line_cons (entry : Past κ) (past : List (Past κ)) :
    line (entry :: past) = line past ++ ofQueue (entry.queued, entry.command) := by
  unfold line
  rw [List.reverse_cons, List.filter_append, List.map_append]
  congr 1
  rcases entry with ⟨- | -, command, fate⟩ <;> rfl

/-- **A dropped command was absorbed**: right before it one of its kind was handled, and others may have been dropped since. -/
def Absorbed (L : Loop κ) (earlier : List (Past κ)) : Prop :=
  ∃ drops first rest, earlier = drops ++ first :: rest ∧ (∀ entry ∈ drops, entry.fate = .dropped) ∧
    L.coalescable first.command = true ∧ ∃ next, first.fate = .handled next

/-- What a handler left is the command handled next: it is pending, or being handled, or came right after. -/
def Followed (command : κ) (c : Config κ) (later : List (Past κ)) : Prop :=
  (later = [] ∧ (c.pending = some (false, command) ∨ c.phase = .running false command)) ∨
    ∃ later' follower, later = later' ++ [follower] ∧ follower.queued = false ∧ follower.command = command

/-- **A loop keeps order.** -/
structure InOrder (L : Loop κ) (c : Config κ) : Prop where
  /-- No accepted command is lost, repeated or overtaken by another. -/
  order : c.accepted = line c.past ++ (c.phase.current ++ (c.pending.elim [] ofQueue ++ c.queue))
  /-- What a handler left is handled next. -/
  next : ∀ later entry earlier command, c.past = later ++ entry :: earlier → entry.fate = .handled (some command) →
    Followed command c later
  /-- Only the kind is dropped, and only where one was handled. -/
  absorbed : ∀ later entry earlier, c.past = later ++ entry :: earlier → entry.fate = .dropped →
    L.coalescable entry.command = true ∧ L.Absorbed earlier
  leaves : ∀ entry ∈ c.past, ∀ next, entry.fate = .handled next → L.leaves entry.command next
  running : ∀ queued command, c.phase = .running queued command → c.pending = none
  draining : c.phase = .draining → c.pending = none ∧ L.Absorbed c.past
  room : c.queue.length ≤ L.capacity

theorem inOrder_idle : InOrder L .idle where
  order := rfl
  next later entry earlier _ hpast := by
    cases later with
    | nil => cases hpast
    | cons => cases hpast
  absorbed later entry earlier hpast := by
    cases later with
    | nil => cases hpast
    | cons => cases hpast
  leaves _ hentry := nomatch hentry
  running _ _ hphase := nomatch hphase
  draining hphase := nomatch hphase
  room := Nat.zero_le _

/-- Nothing that was left is open while the loop drains, or when it has nothing to do. -/
theorem Followed.closed {c : Config κ} {command : κ} {later : List (Past κ)} (hf : Followed command c later)
    (hpending : c.pending = none) (hphase : ∀ command, c.phase ≠ .running false command) (c' : Config κ) (newer : List (Past κ)) :
    Followed command c' (newer ++ later) := by
  rcases hf with ⟨-, hpending' | hrunning⟩ | ⟨later', follower, rfl, hfollower⟩
  · rw [hpending] at hpending'
    cases hpending'
  · exact absurd hrunning (hphase command)
  · exact .inr ⟨newer ++ later', follower, (List.append_assoc ..).symm, hfollower⟩

/-- The command that is being handled becomes past. -/
theorem Followed.ran {c c' : Config κ} {queued : Bool} {command command' : κ} {later : List (Past κ)} {fate : Fate κ}
    (hf : Followed command' c later) (hphase : c.phase = .running queued command) (hpending : c.pending = none) :
    Followed command' c' (⟨queued, command, fate⟩ :: later) := by
  rcases hf with ⟨rfl, hpending' | hrunning⟩ | ⟨later', follower, rfl, hfollower⟩
  · rw [hpending] at hpending'
    cases hpending'
  · rw [hphase] at hrunning
    cases hrunning
    exact .inr ⟨[], _, rfl, rfl, rfl⟩
  · exact .inr ⟨⟨queued, command, fate⟩ :: later', follower, rfl, hfollower⟩

/-- What is past once one more command is. -/
theorem past_cons {α : Type} {new entry : α} {past later earlier : List α} (h : new :: past = later ++ entry :: earlier) :
    (later = [] ∧ entry = new ∧ earlier = past) ∨ ∃ later', later = new :: later' ∧ past = later' ++ entry :: earlier := by
  cases later with
  | nil =>
    cases h
    exact .inl ⟨rfl, rfl, rfl⟩
  | cons =>
    cases h
    exact .inr ⟨_, rfl, rfl⟩

/-! ### The kinds of steps -/

section Kinds

variable {c c' : Config κ} {queued : Bool} {command : κ} {next : Option κ} {rest : List κ}

/-- Nothing that was left is open while the loop has nothing to do. -/
theorem Followed.closed_idle {command' : κ} {later : List (Past κ)} (hf : Followed command' c later)
    (hpending : c.pending = none) (idle : c.phase = .idle) : Followed command' c' later := by
  refine hf.closed hpending (fun _ hrunning => ?_) c' []
  rw [idle] at hrunning
  cases hrunning

theorem Followed.closed_draining {command' : κ} {later : List (Past κ)} (hf : Followed command' c later)
    (hpending : c.pending = none) (draining : c.phase = .draining) (newer : List (Past κ)) :
    Followed command' c' (newer ++ later) := by
  refine hf.closed hpending (fun _ hrunning => ?_) c' newer
  rw [draining] at hrunning
  cases hrunning

/-- **A step that ends no command.** -/
theorem InOrder.moves (hc : InOrder L c) (hpast : c'.past = c.past)
    (order : c'.accepted = line c.past ++ (c'.phase.current ++ (c'.pending.elim [] ofQueue ++ c'.queue)))
    (next : ∀ {command later}, Followed command c later → Followed command c' later)
    (running : ∀ queued command, c'.phase = .running queued command → c'.pending = none)
    (draining : c'.phase ≠ .draining) (room : c'.queue.length ≤ L.capacity) : InOrder L c' where
  order := by rw [hpast, order]
  next later entry earlier command hsplit hfate := next (hc.next later entry earlier command (hpast ▸ hsplit) hfate)
  absorbed later entry earlier hsplit := hc.absorbed later entry earlier (hpast ▸ hsplit)
  leaves entry hentry := hc.leaves entry (hpast ▸ hentry)
  running := running
  draining hphase := absurd hphase draining
  room := room

/-- **A step that ends one command.** -/
theorem InOrder.passes {new : Past κ} (hc : InOrder L c) (hpast : c'.past = new :: c.past)
    (order : c'.accepted = line c'.past ++ (c'.phase.current ++ (c'.pending.elim [] ofQueue ++ c'.queue)))
    (next : ∀ {command later}, Followed command c later → Followed command c' (new :: later))
    (left : ∀ command, new.fate = .handled (some command) → Followed command c' [])
    (absorbed : new.fate = .dropped → L.coalescable new.command = true ∧ L.Absorbed c.past)
    (leaves : ∀ next, new.fate = .handled next → L.leaves new.command next)
    (running : ∀ queued command, c'.phase ≠ .running queued command)
    (draining : c'.phase = .draining → c'.pending = none ∧ L.Absorbed c'.past) (room : c'.queue.length ≤ L.capacity) :
    InOrder L c' where
  order := order
  next later entry earlier command hsplit hfate := by
    rcases past_cons (hpast ▸ hsplit) with ⟨rfl, rfl, rfl⟩ | ⟨later, rfl, hbefore⟩
    · exact left command hfate
    · exact next (hc.next later entry earlier command hbefore hfate)
  absorbed later entry earlier hsplit hfate := by
    rcases past_cons (hpast ▸ hsplit) with ⟨rfl, rfl, rfl⟩ | ⟨later, rfl, hbefore⟩
    · exact absorbed hfate
    · exact hc.absorbed later entry earlier hbefore hfate
  leaves entry hentry next' hfate := by
    rw [hpast] at hentry
    rcases List.mem_cons.1 hentry with rfl | hentry
    · exact leaves next' hfate
    · exact hc.leaves entry hentry next' hfate
  running queued command hphase := absurd hphase (running queued command)
  draining := draining
  room := room

/-- The queue without its head has room. -/
theorem InOrder.room_tail (hc : InOrder L c) (hqueue : c.queue = command :: rest) : rest.length ≤ L.capacity := by
  have hroom := hc.room
  rw [hqueue, List.length_cons] at hroom
  exact Nat.le_of_succ_le hroom

theorem InOrder.queue (hc : InOrder L c) (command : κ) (room : c.queue.length < L.capacity) :
    InOrder L { c with accepted := c.accepted ++ [command], queue := c.queue ++ [command] } := by
  refine { hc with order := ?_, room := ?_ }
  · rw [hc.order]
    simp only [List.append_assoc]
  · rw [List.length_append]
    exact room

theorem InOrder.resume (hc : InOrder L c) (idle : c.phase = .idle) (hpending : c.pending = some (queued, command)) :
    InOrder L { c with pending := none, phase := .running queued command } := by
  refine hc.moves rfl ?_ (fun {command' later} hf => ?_) (fun _ _ _ => rfl) nofun hc.room
  · rw [hc.order, idle, hpending]
    rfl
  · rcases hf with ⟨hlater, hpending' | hrunning⟩ | hfollowed
    · rw [hpending] at hpending'
      cases hpending'
      exact .inl ⟨hlater, .inr rfl⟩
    · rw [idle] at hrunning
      cases hrunning
    · exact .inr hfollowed

theorem InOrder.receive (hc : InOrder L c) (idle : c.phase = .idle) (free : c.pending = none)
    (hqueue : c.queue = command :: rest) : InOrder L { c with queue := rest, phase := .running true command } := by
  refine hc.moves rfl ?_ (·.closed_idle free idle) (fun _ _ _ => free) nofun (hc.room_tail hqueue)
  rw [hc.order, idle, free, hqueue]
  rfl

theorem InOrder.event (hc : InOrder L c) (command : κ) (idle : c.phase = .idle) (free : c.pending = none) :
    InOrder L { c with pending := some (false, command) } := by
  have hidle : ({ c with pending := some (false, command) } : Config κ).phase = .idle := idle
  refine hc.moves rfl ?_ (·.closed_idle free idle) (fun _ _ hphase => ?_) (fun hphase => ?_) hc.room
  · rw [hc.order, free]
    rfl
  · rw [hidle] at hphase
    cases hphase
  · rw [hidle] at hphase
    cases hphase

theorem InOrder.handle (hc : InOrder L c) (running : c.phase = .running queued command) (leaves : L.leaves command next) :
    InOrder L { c with pending := next.map (false, ·), phase := if L.coalescable command then .draining else .idle
                       past := ⟨queued, command, .handled next⟩ :: c.past } := by
  have hpending := hc.running queued command running
  have hcurrent : (if L.coalescable command then Phase.draining else Phase.idle : Phase κ).current = [] := by
    split <;> rfl
  refine hc.passes rfl ?_ (·.ran running hpending) (fun command' hfate => ?_) nofun (fun next' hfate => ?_)
    (fun _ _ hphase => ?_) (fun hphase => ?_) hc.room
  · have hnext : (next.map (false, ·)).elim [] (ofQueue (κ := κ)) = [] := by
      cases next <;> rfl
    rw [hc.order, running, hpending, line_cons, hcurrent, hnext, List.append_assoc]
    rfl
  · cases hfate
    exact .inl ⟨rfl, .inl rfl⟩
  · cases hfate
    exact leaves
  · dsimp only at hphase
    split at hphase
    · cases hphase
    · cases hphase
  · dsimp only at hphase
    split at hphase
    · next hkind =>
      cases L.leaves_nothing hkind leaves
      exact ⟨rfl, [], _, _, rfl, nofun, hkind, none, rfl⟩
    · cases hphase

theorem InOrder.drop (hc : InOrder L c) (draining : c.phase = .draining) (hqueue : c.queue = command :: rest)
    (kind : L.coalescable command = true) :
    InOrder L { c with queue := rest, past := ⟨true, command, .dropped⟩ :: c.past } := by
  obtain ⟨hpending, habsorbed⟩ := hc.draining draining
  refine hc.passes rfl ?_ (·.closed_draining hpending draining [_]) nofun (fun _ => ⟨kind, habsorbed⟩) nofun
    (fun _ _ hphase => ?_) (fun _ => ⟨hpending, ?_⟩) (hc.room_tail hqueue)
  · rw [hc.order, draining, hpending, line_cons, hqueue, List.append_assoc]
    rfl
  · rw [show c.phase = _ from hphase] at draining
    cases draining
  · obtain ⟨drops, first, before, hpast, hdrops, hfirst⟩ := habsorbed
    refine ⟨_ :: drops, first, before, by rw [hpast]; rfl, fun entry hentry => ?_, hfirst⟩
    rcases List.mem_cons.1 hentry with rfl | hentry
    · rfl
    · exact hdrops entry hentry

theorem InOrder.hold (hc : InOrder L c) (draining : c.phase = .draining) (hqueue : c.queue = command :: rest) :
    InOrder L { c with queue := rest, pending := some (true, command), phase := .idle } := by
  obtain ⟨hpending, -⟩ := hc.draining draining
  refine hc.moves rfl ?_ (·.closed_draining hpending draining []) nofun nofun (hc.room_tail hqueue)
  rw [hc.order, draining, hpending, hqueue]
  rfl

theorem InOrder.drained (hc : InOrder L c) (draining : c.phase = .draining) : InOrder L { c with phase := .idle } := by
  obtain ⟨hpending, -⟩ := hc.draining draining
  refine hc.moves rfl ?_ (·.closed_draining hpending draining []) nofun nofun hc.room
  rw [hc.order, draining]
  rfl

theorem InOrder.stop (hc : InOrder L c) (idle : c.phase = .idle) : InOrder L { c with phase := .stopped } := by
  refine hc.moves rfl ?_ (fun {command' later} hf => ?_) nofun nofun hc.room
  · rw [hc.order, idle]
    rfl
  · rcases hf with ⟨hlater, hpending | hrunning⟩ | hfollowed
    · exact .inl ⟨hlater, .inl hpending⟩
    · rw [idle] at hrunning
      cases hrunning
    · exact .inr hfollowed

theorem InOrder.interrupt (hc : InOrder L c) (running : c.phase = .running queued command) :
    InOrder L { c with phase := .stopped, past := ⟨queued, command, .interrupted⟩ :: c.past } := by
  refine hc.passes rfl ?_ (·.ran running (hc.running queued command running)) nofun nofun nofun nofun nofun hc.room
  rw [hc.order, running, line_cons, List.append_assoc]
  rfl

end Kinds

theorem Step.inOrder {c c' : Config κ} (step : Step L c c') (hc : InOrder L c) : InOrder L c' := by
  cases step with
  | queue command opened room => exact hc.queue command room
  | resume idle next => exact hc.resume idle next
  | receive idle free next => exact hc.receive idle free next
  | event idle free event => exact hc.event _ idle free
  | handle running leaves => exact hc.handle running leaves
  | drop draining next kind => exact hc.drop draining next kind
  | hold draining next kind => exact hc.hold draining next
  | drained draining empty => exact hc.drained draining
  | stop idle => exact hc.stop idle
  | interrupt running => exact hc.interrupt running

/-- **Every run is in order**, whatever its clients queue and its events leave. -/
theorem Reaches.inOrder {c : Config κ} (run : Reaches L .idle c) : InOrder L c := by
  induction run with
  | refl => exact inOrder_idle
  | step _ next ih => exact next.inOrder ih

end Loop
end Effects
