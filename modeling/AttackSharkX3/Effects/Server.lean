import AttackSharkX3.Effects.Ends
import Mathlib.Data.List.Nodup
/-!
# Server — one worker that serves queued requests

Clients put requests into a bounded queue; one worker takes the oldest, runs its program to the end and replies.  Clients
and the worker move in any order, and nothing is said of what the worker is answered.  Whatever the order, the log of the
worker is that of the requests served one after another, as they were accepted.
-/
namespace Effects

open Prog (Event History Keeps Ends)

namespace Prog

variable {S : Sig} {α : Type} {rule : History S → S.Op → Prop} {post : α → History S → Prop} {p q : Prog S α}
  {own h : History S}

/-- **What is left of a program** once it did what its own history says. -/
inductive Left (p : Prog S α) : History S → Prog S α → Prop where
  | start : Left p [] p
  | more {own o k} (before : Left p own (.call o k)) (r : S.Res o) : Left p (⟨o, r⟩ :: own) (k r)

/-- What is left of a program keeps its rule. -/
theorem Left.keeps (hl : Left p own q) (hp : Keeps rule post p h) : Keeps rule post q (own ++ h) := by
  induction hl with
  | start => exact hp
  | more before r ih => exact ih.2 r

/-- What a program ended with satisfies its postcondition. -/
theorem Left.ended {a : α} (hl : Left p own (.pure a)) (hp : Keeps rule post p []) : post a own := by
  have hpost := hl.keeps hp
  rwa [List.append_nil] at hpost

/-- Each operation of the program's own history is one its rule allowed. -/
theorem Left.kept (hl : Left p own q) (hp : Keeps rule post p []) : Kept rule own := by
  induction hl with
  | start => trivial
  | more before r ih =>
    have hnext := before.keeps hp
    rw [List.append_nil] at hnext
    exact ⟨hnext.1, ih⟩

end Prog

open Prog (Left)

/-- **A server**: the program of each request and its value, and how many requests may wait. -/
structure Server (S : Sig) (κ : Type) where
  Value : κ → Type
  body : (request : κ) → Prog S (Value request)
  capacity : Nat

namespace Server

variable {S : Sig} {κ : Type} {V : Server S κ}

/-- A request, with the number it was accepted under. -/
structure Ticket (κ : Type) where
  number : Nat
  request : κ

/-- A request being served, what is left of it and what it did so far. -/
structure Running (V : Server S κ) where
  ticket : Ticket κ
  left : Prog S (V.Value ticket.request)
  own : History S

/-- A request that was served, its reply and what it did. -/
structure Served (V : Server S κ) where
  ticket : Ticket κ
  value : V.Value ticket.request
  own : History S

/-- How many requests were accepted, those that wait (the oldest first), the one that is served, those that were (the
newest first), and all the worker did. -/
structure Config (V : Server S κ) where
  accepted : Nat
  waiting : List (Ticket κ)
  running : Option (Running V)
  served : List (Served V)
  log : History S

def Config.idle : Config V := ⟨0, [], none, [], []⟩

/-- **A request is accepted**, if there is room for it. -/
def Config.submit (c : Config V) (request : κ) : Option (Config V) :=
  if c.waiting.length < V.capacity then
    some { c with accepted := c.accepted + 1, waiting := c.waiting ++ [⟨c.accepted, request⟩] }
  else none

/-- **One step**: a client submits a request, or the worker takes one, goes on with it or replies. -/
inductive Step (V : Server S κ) (c : Config V) : Config V → Prop where
  | submit (request : κ) {c'} (accepted : c.submit request = some c') : Step V c c'
  | take {ticket rest} (free : c.running = none) (next : c.waiting = ticket :: rest) :
      Step V c { c with waiting := rest, running := some ⟨ticket, V.body ticket.request, []⟩ }
  | op {ticket o k own} (running : c.running = some ⟨ticket, .call o k, own⟩) (r : S.Res o) :
      Step V c { c with running := some ⟨ticket, k r, ⟨o, r⟩ :: own⟩, log := ⟨o, r⟩ :: c.log }
  | reply {ticket a own} (running : c.running = some ⟨ticket, .pure a, own⟩) :
      Step V c { c with running := none, served := ⟨ticket, a, own⟩ :: c.served }

/-- **The configurations of a server's runs.** -/
inductive Reaches (V : Server S κ) : Config V → Config V → Prop where
  | refl {c} : Reaches V c c
  | step {c c' c''} (before : Reaches V c c') (next : Step V c' c'') : Reaches V c c''

/-- The requests that were accepted, in the order they are served in. -/
def Config.line (c : Config V) : List (Ticket κ) :=
  (c.served.map (·.ticket)).reverse ++ ((c.running.map (·.ticket)).toList ++ c.waiting)

theorem submit_some {c c' : Config V} {request : κ} (h : c.submit request = some c') :
    c.waiting.length < V.capacity ∧
      c' = { c with accepted := c.accepted + 1, waiting := c.waiting ++ [⟨c.accepted, request⟩] } := by
  unfold Config.submit at h
  split at h
  · next hroom => exact ⟨hroom, (Option.some.inj h).symm⟩
  · cases h

/-- **A request keeps its place**: the line only grows at its end. -/
theorem Step.line {c c' : Config V} (next : Step V c c') : c.line <+: c'.line := by
  cases next with
  | submit _ accepted =>
    obtain ⟨-, rfl⟩ := submit_some accepted
    simp only [Config.line, ← List.append_assoc]
    exact List.prefix_append ..
  | take free next =>
    rw [Config.line, Config.line, free, next]
    exact List.prefix_refl _
  | op running r =>
    rw [Config.line, Config.line, running]
    exact List.prefix_refl _
  | reply running =>
    rw [Config.line, Config.line, running]
    simp

theorem Reaches.line {c c' : Config V} (run : Reaches V c c') : c.line <+: c'.line := by
  induction run with
  | refl => exact List.prefix_refl _
  | step _ next ih => exact ih.trans next.line

/-- **The log is serial**: what each request did is one stretch of it, in the order of acceptance, and is a run of the
request's own program. -/
structure Serial (c : Config V) : Prop where
  numbers : c.line.map (·.number) = List.range c.accepted
  log : c.log = (c.running.elim [] (·.own)) ++ c.served.flatMap (·.own)
  served : ∀ s ∈ c.served, Left (V.body s.ticket.request) s.own (.pure s.value)
  running : ∀ r, c.running = some r → Left (V.body r.ticket.request) r.own r.left
  room : c.waiting.length ≤ V.capacity

theorem serial_idle : Serial (V := V) .idle where
  numbers := rfl
  log := rfl
  served _ hs := nomatch hs
  running _ hr := nomatch hr
  room := Nat.zero_le _

theorem Step.serial {c c' : Config V} (next : Step V c c') (hc : Serial c) : Serial c' := by
  have hline := hc.numbers
  have hlog := hc.log
  cases next with
  | submit _ accepted =>
    obtain ⟨hroom, rfl⟩ := submit_some accepted
    refine { numbers := ?_, log := hlog, served := hc.served, running := hc.running, room := ?_ }
    · rw [List.range_succ, ← hline]
      simp [Config.line]
    · rw [List.length_append]
      exact hroom
  | take free next =>
    refine { numbers := ?_, log := ?_, served := hc.served, running := ?_, room := ?_ }
    · rw [← hline, Config.line, Config.line, free, next]
      rfl
    · rw [hlog, free]
      rfl
    · rintro _ ⟨⟩
      exact .start
    · have hroom := hc.room
      rw [next, List.length_cons] at hroom
      exact Nat.le_of_succ_le hroom
  | op running r =>
    refine { numbers := ?_, log := ?_, served := hc.served, running := ?_, room := hc.room }
    · rw [← hline, Config.line, Config.line, running]
      rfl
    · rw [hlog, running]
      rfl
    · rintro _ ⟨⟩
      exact .more (hc.running _ running) r
  | reply running =>
    refine { numbers := ?_, log := ?_, served := ?_, running := fun _ hr => (nomatch hr), room := hc.room }
    · rw [← hline, Config.line, Config.line, running]
      simp
    · rw [hlog, running]
      rfl
    · intro s hs
      rcases List.mem_cons.1 hs with rfl | hs
      · exact hc.running _ running
      · exact hc.served s hs

/-- **Every run is serial**, in whatever order clients and the worker move. -/
theorem Reaches.serial {c : Config V} (run : Reaches V .idle c) : Serial c := by
  induction run with
  | refl => exact serial_idle
  | step _ next ih => exact next.serial ih

namespace Serial

variable {c : Config V}

/-- **A request that was served has its stretch of the log**: before it, whole requests that were accepted earlier. -/
theorem stretch (hc : Serial c) {s : Served V} (hs : s ∈ c.served) : ∃ later earlier : List (Served V),
    c.served = later ++ s :: earlier ∧
      c.log = (c.running.elim [] (·.own) ++ later.flatMap (·.own)) ++ (s.own ++ earlier.flatMap (·.own)) := by
  obtain ⟨later, earlier, hsplit⟩ := List.append_of_mem hs
  refine ⟨later, earlier, hsplit, ?_⟩
  rw [hc.log, hsplit, List.flatMap_append, List.flatMap_cons, List.append_assoc]

/-- **No request is served twice**, and no two under one number. -/
theorem once (hc : Serial c) : (c.served.map (·.ticket.number)).Nodup := by
  have hnodup : (c.line.map (·.number)).Nodup := by
    rw [hc.numbers]
    exact List.nodup_range
  rw [Config.line, List.map_append, List.map_reverse, List.map_map] at hnodup
  exact List.nodup_reverse.1 (List.nodup_append.1 hnodup).1

end Serial

/-! ## In a world -/

section World

variable {σ τ : Type} {step : (o : S.Op) → σ → S.Res o → σ → Prop} {s s' s'' : σ}

/-- **A history takes a state to another.** -/
inductive Through (step : (o : S.Op) → σ → S.Res o → σ → Prop) (s : σ) : History S → σ → Prop where
  | refl : Through step s [] s
  | op {h s' s'' o r} (before : Through step s h s') (next : step o s' r s'') : Through step s (⟨o, r⟩ :: h) s''

theorem Through.split {h : History S} : ∀ {h' : History S} {s'' : σ}, Through step s (h' ++ h) s'' →
    ∃ s', Through step s h s' ∧ Through step s' h' s''
  | [], s'', ht => ⟨s'', ht, .refl⟩
  | _ :: _, _, .op before next =>
    have ⟨s', hfirst, hlast⟩ := before.split
    ⟨s', hfirst, hlast.op next⟩

theorem Through.trans {h h' : History S} (first : Through step s h s') (last : Through step s' h' s'') :
    Through step s (h' ++ h) s'' := by
  induction last with
  | refl => exact first
  | op _ next ih => exact ih.op next

/-- A history in one world is one in a world that may answer more. -/
theorem Through.mono {step' : (o : S.Op) → σ → S.Res o → σ → Prop} {h : History S} (ht : Through step' s h s')
    (hstep : ∀ o s r s', step' o s r s' → step o s r s') : Through step s h s' := by
  induction ht with
  | refl => exact .refl
  | op _ next ih => exact ih.op (hstep _ _ _ _ next)

/-- What a program did in a world, and a way to go on with what is left of it, is one way it may go. -/
theorem Through.ends {α : Type} {p q : Prog S α} {own h' : History S} {a : α} (hl : Left p own q) : ∀ {s' : σ},
    Through step s own s' → Ends step q s' own a s'' h' → Ends step p s [] a s'' h' := by
  induction hl with
  | start =>
    rintro _ (- | -) he
    exact he
  | more before r ih =>
    rintro _ (- | ⟨hbefore, next⟩) he
    exact ih hbefore (.call next he)

/-- **Requests take a state to another one after another**, the newest first in the list. -/
inductive InTurn (acts : Served V → σ → σ → Prop) (s : σ) : List (Served V) → σ → Prop where
  | refl : InTurn acts s [] s
  | next {earlier s' s'' r} (before : InTurn acts s earlier s') (last : acts r s' s'') : InTurn acts s (r :: earlier) s''

theorem InTurn.split {acts : Served V → σ → σ → Prop} {earlier : List (Served V)} :
    ∀ {later : List (Served V)} {s'' : σ}, InTurn acts s (later ++ earlier) s'' →
      ∃ s', InTurn acts s earlier s' ∧ InTurn acts s' later s''
  | [], s'', ht => ⟨s'', ht, .refl⟩
  | _ :: _, _, .next before last =>
    have ⟨s', hearlier, hlater⟩ := before.split
    ⟨s', hearlier, hlater.next last⟩

/-- What each request does is seen through a simpler state. -/
theorem InTurn.map {acts : Served V → σ → σ → Prop} {acts' : Served V → τ → τ → Prop} (view : σ → τ)
    {served : List (Served V)} (hacts : ∀ r ∈ served, ∀ s s', acts r s s' → acts' r (view s) (view s'))
    (ht : InTurn acts s served s') : InTurn acts' (view s) served (view s') := by
  induction ht with
  | refl => exact .refl
  | next before last ih =>
    exact .next (ih fun r hr => hacts r (List.mem_cons_of_mem _ hr)) (hacts _ List.mem_cons_self _ _ last)

end World
end Server
end Effects
