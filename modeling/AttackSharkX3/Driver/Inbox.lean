import AttackSharkX3.Effects.Machine
import AttackSharkX3.Driver.Acked
/-!
# Inbox — what a session's writes take from its queue

The writes of a session run one at a time, while the task goes on sending.  Over all runs, what a write takes after its
barrier is what the task sent after it, in order; and once the queue overflowed or the stream ended, nothing is taken.
-/
namespace AttackSharkX3

open Effects (Prog Machine Move)
open Effects.Prog (Event History Keeps)
open Effects.Machine (Config Step Reaches running history started)
open Heard

variable {ι : Type}

namespace Gatt.World

/-! ## What one move does to the queue -/

/-- The queue and the flag are as they were, and a stream that ended stays ended. -/
structure Still (w w' : World ι) : Prop where
  queue : w'.queue = w.queue
  stream : w'.stream = w.stream
  mark : w'.mark = w.mark
  overflowed : w'.overflowed = w.overflowed
  ended : w.streaming = false → w'.streaming = false

theorem Still.refl (w : World ι) : Still w w := ⟨rfl, rfl, rfl, rfl, id⟩

/-- Operations that are no receive leave the queue alone. -/
theorem still_of_effect {w w' : World ι} {o : GattOp} {r : o.Res} (h : w.effect o r w') (htry : o ≠ .tryRecv)
    (hpoll : o ≠ .pollRecv) : Still w w' := by
  cases o with
  | isClosed | overflowed => rw [h.2]; exact .refl w
  | setClosed => rw [show w' = _ from h]; exact ⟨rfl, rfl, rfl, rfl, id⟩
  | closeNotifications => rw [show w' = _ from h]; exact ⟨rfl, rfl, rfl, rfl, fun _ => rfl⟩
  | tryRecv => exact absurd rfl htry
  | pollRecv => exact absurd rfl hpoll
  | write packet => rw [show w' = w from h]; exact .refl w
  | now => rw [show w' = w from h]; exact .refl w
  | elapsed remaining => rw [show w' = w from h]; exact .refl w
  | sleep duration => rw [show w' = w from h]; exact .refl w
  | spin => exact h.elim

theorem holder_of_effect {w w' : World ι} {o : GattOp} {r : o.Res} (h : w.effect o r w') : w'.holder = w.holder := by
  cases o with
  | isClosed | overflowed => rw [h.2]
  | tryRecv =>
    unfold effect at h
    dsimp only at h
    split at h
    · rw [h.2]
    · split at h
      · rw [h.2]
      · rw [h.2]
  | pollRecv =>
    unfold effect at h
    dsimp only at h
    rcases h with ⟨-, rfl⟩ | h
    · rfl
    split at h
    · rw [h.2]
    · rw [h.2.2]
  | spin => exact h.elim
  | _ => rw [show w' = _ from h]

theorem holder_of_arrive {w w' : World ι} {arrival : Arrival} (h : w.arrive arrival w') : w'.holder = w.holder := by
  have hsend : ∀ notification : Notification, (w.send notification).holder = w.holder := by
    intro notification
    unfold send
    split
    · rfl
    · rfl
  cases arrival with
  | value bytes => rw [h.2, hsend]
  | failed text => rw [h.2]; exact hsend _
  | ended => rw [h.2]; exact hsend _
  | dropped => rw [h.2]

/-- **A step of the task**: it sends while it streams, or the queue is as it was. -/
theorem arrive_cases {w w' : World ι} {arrival : Arrival} (h : w.arrive arrival w') :
    (w.streaming = true ∧ ∃ notification, Still (w.send notification) w') ∨ Still w w' := by
  cases arrival with
  | value bytes =>
    obtain ⟨hs, rfl⟩ := h
    exact .inl ⟨hs, .ok bytes, .refl _⟩
  | failed text =>
    obtain ⟨hs, rfl⟩ := h
    exact .inl ⟨hs, .error (.notification text), rfl, rfl, rfl, rfl, fun _ => rfl⟩
  | ended =>
    obtain ⟨hs, rfl⟩ := h
    exact .inl ⟨hs, .error .disconnected, rfl, rfl, rfl, rfl, fun _ => rfl⟩
  | dropped =>
    obtain ⟨hs, rfl⟩ := h
    exact .inr ⟨rfl, rfl, rfl, rfl, id⟩

/-- What is sent is queued, or lost on the flag. -/
theorem send_cases (w : World ι) (notification : Notification) :
    (w.queue.length < NOTIFICATION_QUEUE_CAPACITY ∧
      w.send notification = { w with queue := w.queue ++ [notification], stream := w.stream ++ [notification] }) ∨
    (NOTIFICATION_QUEUE_CAPACITY ≤ w.queue.length ∧
      w.send notification = { w with overflowed := true, stream := w.stream ++ [notification] }) := by
  unfold send
  split
  · next h => exact .inl ⟨h, rfl⟩
  · next h => exact .inr ⟨Nat.le_of_not_lt h, rfl⟩

/-! ## The queue and a call -/

/-- **What a call that passed the barrier took** is what was sent first since; all of it is in the queue or taken while
the queue has not overflowed.  An overflow since the flag was last read left the queue full. -/
structure Follows (w : World ι) (h : History Gatt) : Prop where
  mark : w.mark ≤ w.stream.length
  first : taken h <+: w.stream.drop w.mark
  all : w.overflowed = false → taken h ++ w.queue = w.stream.drop w.mark
  full : JustFlagged h → w.overflowed = true →
    NOTIFICATION_QUEUE_CAPACITY ≤ w.queue.length ∧ taken h ++ w.queue <+: w.stream.drop w.mark

/-- **What a world and a call agree on.** -/
structure Tracked (w : World ι) (h : History Gatt) : Prop where
  before : ¬ Barred h → taken h = []
  after : Barred h → w.Follows h

/-- **What is left of the world a call started in.** -/
structure Since (start w : World ι) (h : History Gatt) : Prop where
  sent : start.stream.length ≤ w.stream.length
  mark : Barred h → start.stream.length ≤ w.mark
  overflowed : start.overflowed = true → w.overflowed = true ∧ flag false ∉ h
  ended : start.streaming = false → w.streaming = false ∧ (Barred h → w.queue = [] ∧ taken h = [])

variable {start w w' : World ι} {h : History Gatt}

theorem drop_mark_append (hmark : w.mark ≤ w.stream.length) (notification : Notification) :
    (w.stream ++ [notification]).drop w.mark = w.stream.drop w.mark ++ [notification] :=
  List.drop_append_of_le_length hmark

/-- The queue continues what was taken, when the flag was just found not set. -/
theorem Follows.next (hf : w.Follows h) (hj : JustFlagged h) : taken h ++ w.queue <+: w.stream.drop w.mark := by
  cases hover : w.overflowed with
  | true => exact (hf.full hj hover).2
  | false => exact ⟨[], (List.append_nil _).trans (hf.all hover)⟩

/-! ## Moves of others -/

theorem Follows.still (hf : w.Follows h) (hs : Still w w') : w'.Follows h := by
  obtain ⟨hqueue, hstream, hmark, hover, -⟩ := hs
  refine ⟨?_, ?_, ?_, ?_⟩
  · rw [hmark, hstream]
    exact hf.mark
  · rw [hmark, hstream]
    exact hf.first
  · rw [hmark, hstream, hover, hqueue]
    exact hf.all
  · rw [hmark, hstream, hover, hqueue]
    exact hf.full

theorem Tracked.still (ht : w.Tracked h) (hs : Still w w') : w'.Tracked h :=
  ⟨ht.before, fun hb => (ht.after hb).still hs⟩

theorem Since.still (hc : Since start w h) (hs : Still w w') : Since start w' h := by
  obtain ⟨hqueue, hstream, hmark, hover, hended⟩ := hs
  refine ⟨?_, ?_, ?_, ?_⟩
  · rw [hstream]
    exact hc.sent
  · rw [hmark]
    exact hc.mark
  · rw [hover]
    exact hc.overflowed
  · rw [hqueue]
    exact fun hstart => ⟨hended (hc.ended hstart).1, (hc.ended hstart).2⟩

theorem Follows.send (hf : w.Follows h) (notification : Notification) : (w.send notification).Follows h := by
  have hdrop := drop_mark_append hf.mark notification
  have hlen : w.mark ≤ (w.stream ++ [notification]).length := by
    rw [List.length_append]
    exact Nat.le_add_right_of_le hf.mark
  have hfirst : taken h <+: (w.stream ++ [notification]).drop w.mark := by
    rw [hdrop]
    exact hf.first.trans (List.prefix_append _ _)
  rcases w.send_cases notification with ⟨hroom, heq⟩ | ⟨hfull, heq⟩
  · rw [heq]
    refine ⟨hlen, hfirst, fun hover => ?_, fun hj hover => ?_⟩
    · show taken h ++ (w.queue ++ [notification]) = (w.stream ++ [notification]).drop w.mark
      rw [hdrop, ← hf.all hover, List.append_assoc]
    · exact absurd (hf.full hj hover).1 (Nat.not_le_of_lt hroom)
  · rw [heq]
    refine ⟨hlen, hfirst, nofun, fun hj _ => ⟨hfull, ?_⟩⟩
    show taken h ++ w.queue <+: (w.stream ++ [notification]).drop w.mark
    rw [hdrop]
    exact (hf.next hj).trans (List.prefix_append _ _)

theorem Since.send (hc : Since start w h) (hstreaming : w.streaming = true) (notification : Notification) :
    Since start (w.send notification) h := by
  have hended : start.streaming = false → False := by
    intro hstart
    rw [(hc.ended hstart).1] at hstreaming
    cases hstreaming
  have hsent : start.stream.length ≤ (w.stream ++ [notification]).length := by
    rw [List.length_append]
    exact Nat.le_add_right_of_le hc.sent
  rcases w.send_cases notification with ⟨-, heq⟩ | ⟨-, heq⟩
  · rw [heq]
    exact ⟨hsent, hc.mark, hc.overflowed, fun hstart => (hended hstart).elim⟩
  · rw [heq]
    exact ⟨hsent, hc.mark, fun hstart => ⟨rfl, (hc.overflowed hstart).2⟩, fun hstart => (hended hstart).elim⟩

/-- **Nothing the task does** takes from what a call and the world agree on. -/
theorem Tracked.arrive {arrival : Arrival} (ht : w.Tracked h) (ha : w.arrive arrival w') : w'.Tracked h := by
  rcases arrive_cases ha with ⟨-, notification, hs⟩ | hs
  · exact (show (w.send notification).Tracked h from ⟨ht.before, fun hb => (ht.after hb).send notification⟩).still hs
  · exact ht.still hs

theorem Since.arrive {arrival : Arrival} (hc : Since start w h) (ha : w.arrive arrival w') : Since start w' h := by
  rcases arrive_cases ha with ⟨hstreaming, notification, hs⟩ | hs
  · exact (hc.send hstreaming notification).still hs
  · exact hc.still hs

/-! ## The call's own moves -/

/-- The flag is found not set only when it is not. -/
theorem flag_of_effect {o : GattOp} {r : o.Res} (he : w.effect o r w') (hflag : (⟨o, r⟩ : Event Gatt) = flag false) :
    w.overflowed = false := by
  cases hflag
  exact he.1.symm

theorem taken_of_ne {o : GattOp} {r : o.Res} (hpoll : o ≠ .pollRecv) : taken (⟨o, r⟩ :: h) = taken h := by
  rw [taken_cons]
  cases o with
  | pollRecv => exact absurd rfl hpoll
  | _ => exact List.append_nil _

/-- An operation that is no receive. -/
theorem Tracked.quiet {o : GattOp} {r : o.Res} (ht : w.Tracked h) (he : w.effect o r w') (htry : o ≠ .tryRecv)
    (hpoll : o ≠ .pollRecv) : w'.Tracked (⟨o, r⟩ :: h) := by
  have hs := still_of_effect he htry hpoll
  refine ⟨?_, ?_⟩
  · rw [barred_cons _ htry, taken_of_ne hpoll]
    exact ht.before
  rw [barred_cons _ htry]
  intro hb
  obtain ⟨hmark, hfirst, hall, -⟩ := (ht.after hb).still hs
  refine ⟨hmark, ?_, ?_, ?_⟩
  · rw [taken_of_ne hpoll]
    exact hfirst
  · rw [taken_of_ne hpoll]
    exact hall
  · rintro ⟨before, heq⟩ hover
    have hclear := flag_of_effect he (List.cons.inj heq).1
    rw [hs.overflowed, hclear] at hover
    cases hover

theorem Since.quiet {o : GattOp} {r : o.Res} (hc : Since start w h) (he : w.effect o r w') (htry : o ≠ .tryRecv)
    (hpoll : o ≠ .pollRecv) : Since start w' (⟨o, r⟩ :: h) := by
  obtain ⟨hsent, hmark, hover, hended⟩ := hc.still (still_of_effect he htry hpoll)
  refine ⟨hsent, ?_, ?_, ?_⟩
  · rw [barred_cons _ htry]
    exact hmark
  · refine fun hstart => ⟨(hover hstart).1, fun hmem => ?_⟩
    rcases List.mem_cons.1 hmem with heq | hmem
    · have hclear := flag_of_effect he heq.symm
      rw [(hc.overflowed hstart).1] at hclear
      cases hclear
    · exact (hover hstart).2 hmem
  · rw [barred_cons _ htry, taken_of_ne hpoll]
    exact hended

/-- **A try before the barrier**: it takes one that nobody waits for, or passes the barrier. -/
theorem try_cases {r : TryRecv} (he : w.effect .tryRecv r w') :
    (r = .empty ∧ w.queue = [] ∧ w' = { w with mark := w.stream.length }) ∨
    (r ≠ .empty ∧ ∃ rest, w' = { w with queue := rest }) := by
  unfold effect at he
  dsimp only at he
  split at he
  · obtain ⟨rfl, rfl⟩ := he
    exact .inr ⟨nofun, _, rfl⟩
  · next hqueue =>
    split at he
    · obtain ⟨rfl, rfl⟩ := he
      exact .inl ⟨rfl, hqueue, rfl⟩
    · obtain ⟨rfl, rfl⟩ := he
      exact .inr ⟨nofun, w'.queue, rfl⟩

theorem not_barred_tried {r : TryRecv} (hr : r ≠ .empty) (hb : ¬ Barred h) : ¬ Barred (tried r :: h) := by
  intro hmem
  rcases List.mem_cons.1 hmem with heq | hmem
  · cases heq
    exact hr rfl
  · exact hb hmem

theorem Tracked.tried {r : TryRecv} (ht : w.Tracked h) (he : w.effect .tryRecv r w') (hb : ¬ Barred h) :
    w'.Tracked (tried r :: h) := by
  have htaken : taken (Heard.tried r :: h) = [] := by
    rw [taken_of_ne (by decide)]
    exact ht.before hb
  rcases try_cases he with ⟨rfl, hqueue, rfl⟩ | ⟨hr, rest, rfl⟩
  · refine ⟨fun _ => htaken, fun _ => ⟨Nat.le_refl _, ?_, fun _ => ?_, ?_⟩⟩
    · rw [htaken]
      exact List.nil_prefix
    · show taken (Heard.tried .empty :: h) ++ w.queue = w.stream.drop w.stream.length
      rw [htaken, hqueue, List.drop_length]
      rfl
    · rintro ⟨before, heq⟩
      cases heq
  · exact ⟨fun _ => htaken, fun hb' => absurd hb' (not_barred_tried hr hb)⟩

theorem unflagged_cons {ev : Event Gatt} (hev : ev ≠ flag false) (hnot : flag false ∉ h) : flag false ∉ ev :: h := by
  intro hmem
  rcases List.mem_cons.1 hmem with heq | hmem
  · exact hev heq.symm
  · exact hnot hmem

theorem Since.tried {r : TryRecv} (hc : Since start w h) (ht : w.Tracked h) (he : w.effect .tryRecv r w')
    (hb : ¬ Barred h) : Since start w' (tried r :: h) := by
  rcases try_cases he with ⟨rfl, hqueue, rfl⟩ | ⟨hr, rest, rfl⟩
  · refine ⟨hc.sent, fun _ => hc.sent, fun hstart => ?_, fun hstart => ⟨(hc.ended hstart).1, fun _ => ⟨hqueue, ?_⟩⟩⟩
    · exact ⟨(hc.overflowed hstart).1, unflagged_cons (by nofun) (hc.overflowed hstart).2⟩
    · rw [taken_of_ne (by decide)]
      exact ht.before hb
  · refine ⟨hc.sent, fun hb' => absurd hb' (not_barred_tried hr hb), fun hstart => ?_, fun hstart =>
      ⟨(hc.ended hstart).1, fun hb' => absurd hb' (not_barred_tried hr hb)⟩⟩
    exact ⟨(hc.overflowed hstart).1, unflagged_cons (by nofun) (hc.overflowed hstart).2⟩

/-- **A poll after the barrier** takes the oldest in the queue, or nothing. -/
theorem poll_cases {r : Polled} (he : w.effect .pollRecv r w') :
    (takenBy (polled r) = none ∧ w' = w) ∨
    ∃ notification rest, w.queue = notification :: rest ∧ r = .ready (some notification) ∧ w' = { w with queue := rest } := by
  unfold effect at he
  dsimp only at he
  rcases he with ⟨rfl, rfl⟩ | he
  · exact .inl ⟨rfl, rfl⟩
  split at he
  · next notification rest hqueue =>
    obtain ⟨rfl, rfl⟩ := he
    exact .inr ⟨notification, rest, hqueue, rfl, rfl⟩
  · obtain ⟨-, rfl, rfl⟩ := he
    exact .inl ⟨rfl, rfl⟩

theorem Tracked.polled {r : Polled} (ht : w.Tracked h) (he : w.effect .pollRecv r w') (hb : Barred h)
    (hj : JustFlagged h) : w'.Tracked (polled r :: h) := by
  have hf := ht.after hb
  have hnext := hf.next hj
  have hnew : ¬ JustFlagged (Heard.polled r :: h) := by
    rintro ⟨before, heq⟩
    cases heq
  refine ⟨fun hnot => absurd (List.mem_cons_of_mem _ hb) hnot, fun _ => ?_⟩
  rcases poll_cases he with ⟨hnone, rfl⟩ | ⟨notification, rest, hqueue, rfl, rfl⟩
  · have htaken : taken (Heard.polled r :: h) = taken h := by
      rw [taken_cons, hnone]
      exact List.append_nil _
    refine ⟨hf.mark, ?_, ?_, fun hj' => absurd hj' hnew⟩
    · rw [htaken]
      exact hf.first
    · rw [htaken]
      exact hf.all
  · have htaken : taken (Heard.polled (.ready (some notification)) :: h) = taken h ++ [notification] := taken_cons
    rw [hqueue] at hnext
    have hsplit : taken h ++ notification :: rest = taken h ++ [notification] ++ rest := by
      rw [List.append_assoc]
      rfl
    refine ⟨hf.mark, ?_, fun hover => ?_, fun hj' => absurd hj' hnew⟩
    · rw [htaken]
      refine List.IsPrefix.trans ?_ hnext
      rw [hsplit]
      exact List.prefix_append _ _
    · show taken (Heard.polled (.ready (some notification)) :: h) ++ rest = w.stream.drop w.mark
      rw [htaken, ← hsplit, ← hqueue]
      exact hf.all hover

theorem Since.polled {r : Polled} (hc : Since start w h) (he : w.effect .pollRecv r w') (hb : Barred h) :
    Since start w' (polled r :: h) := by
  rcases poll_cases he with ⟨hnone, rfl⟩ | ⟨notification, rest, hqueue, rfl, rfl⟩
  · refine ⟨hc.sent, fun _ => hc.mark hb, fun hstart => ?_, fun hstart => ⟨(hc.ended hstart).1, fun _ => ?_⟩⟩
    · exact ⟨(hc.overflowed hstart).1, unflagged_cons (by nofun) (hc.overflowed hstart).2⟩
    · refine ⟨((hc.ended hstart).2 hb).1, ?_⟩
      rw [taken_cons, hnone, ((hc.ended hstart).2 hb).2]
      rfl
  · refine ⟨hc.sent, fun _ => hc.mark hb, fun hstart => ?_, fun hstart => ?_⟩
    · exact ⟨(hc.overflowed hstart).1, unflagged_cons (by nofun) (hc.overflowed hstart).2⟩
    · have hempty := ((hc.ended hstart).2 hb).1
      rw [hqueue] at hempty
      cases hempty

/-- **Every move of the call** keeps what it and the world agree on. -/
theorem Tracked.op {o : GattOp} {r : o.Res} (ht : w.Tracked h) (he : w.effect o r w') (ho : InboxRule h o) :
    w'.Tracked (⟨o, r⟩ :: h) := by
  by_cases htry : o = .tryRecv
  · subst htry
    exact ht.tried he ho
  by_cases hpoll : o = .pollRecv
  · subst hpoll
    exact ht.polled he ho.1 ho.2
  exact ht.quiet he htry hpoll

theorem Since.op {o : GattOp} {r : o.Res} (hc : Since start w h) (ht : w.Tracked h) (he : w.effect o r w')
    (ho : InboxRule h o) : Since start w' (⟨o, r⟩ :: h) := by
  by_cases htry : o = .tryRecv
  · subst htry
    exact hc.tried ht he ho
  by_cases hpoll : o = .pollRecv
  · subst hpoll
    exact hc.polled he ho.1
  exact hc.quiet he htry hpoll

end Gatt.World

/-! ## Runs of the session -/

variable [DecidableEq ι]

/-- What is known of the call that holds the session. -/
structure Serving (c : Config (Gatt.session ι)) (i : ι) : Prop where
  holder : c.world.holder = some i
  tracked : c.world.Tracked (history i c.log)
  since : ∀ start, started i c.log = some start → Gatt.World.Since start c.world (history i c.log)

/-- **One call at a time**: whoever runs one holds the session. -/
def Served (c : Config (Gatt.session ι)) : Prop := ∀ i p, c.thread i = some p → Serving c i

variable {c c' : Config (Gatt.session ι)} {w : Gatt.World ι}
  {m : Move Gatt ι BleWrite (Except BleError BleWriteReceipt) Arrival}
  {ok : Config (Gatt.session ι) → Move Gatt ι BleWrite (Except BleError BleWriteReceipt) Arrival → Prop}

/-- While one client runs a call, no other does. -/
theorem Served.alone (hc : Served c) {i j : ι} {p q} (hi : c.thread i = some p) (hj : c.thread j = some q) : i = j :=
  Option.some.inj ((hc i p hi).holder.symm.trans (hc j q hj).holder)

theorem Served.step (run : Reaches (Gatt.session ι) ok (.idle w) c) (hc : Served c)
    (next : Step (Gatt.session ι) c m c') : Served c' := by
  intro i p hi
  cases next with
  | @op j o k r w' hrun hmoves =>
    have hij : i = j := by
      by_cases hne : i = j
      · exact hne
      · exact hc.alone ((Function.update_of_ne hne _ _).symm.trans hi) hrun
    subst hij
    obtain ⟨hholder, htracked, hsince⟩ := hc i _ hrun
    obtain ⟨-, -, hrule⟩ := run.issued BleWrite.keeps (.op hrun hmoves)
    refine ⟨?_, ?_, ?_⟩
    · exact (Gatt.World.holder_of_effect hmoves).trans hholder
    · rw [Config.after_log, Machine.history_op]
      exact htracked.op hmoves hrule
    · intro start hstart
      rw [Config.after_log, Machine.history_op]
      exact (hsince start hstart).op htracked hmoves hrule
  | @enter j call w' hfree hmoves =>
    obtain ⟨hnone, rfl⟩ := hmoves
    have hij : i = j := by
      by_cases hne : i = j
      · exact hne
      · have hother := (hc i p ((Function.update_of_ne hne _ _).symm.trans hi)).holder
        rw [hnone] at hother
        cases hother
    subst hij
    refine ⟨rfl, ?_, ?_⟩
    · rw [Config.after_log, Machine.history_enter]
      exact ⟨fun _ => rfl, fun hb => absurd hb not_barred_nil⟩
    · intro start hstart
      rw [Config.after_log, Machine.started_enter, Option.some.injEq] at hstart
      rw [Config.after_log, Machine.history_enter, ← hstart]
      exact ⟨Nat.le_refl _, fun hb => absurd hb not_barred_nil, fun hover => ⟨hover, List.not_mem_nil⟩,
        fun hended => ⟨hended, fun hb => absurd hb not_barred_nil⟩⟩
  | @returned j a w' hdone hmoves =>
    by_cases hne : i = j
    · subst hne
      rw [Config.after_thread, Function.update_self] at hi
      cases hi
    · exact absurd (hc.alone ((Function.update_of_ne hne _ _).symm.trans hi) hdone) hne
  | @stopped j q w' hrun hmoves =>
    by_cases hne : i = j
    · subst hne
      rw [Config.after_thread, Function.update_self] at hi
      cases hi
    · exact absurd (hc.alone ((Function.update_of_ne hne _ _).symm.trans hi) hrun) hne
  | @env arrival w' hmoves =>
    obtain ⟨hholder, htracked, hsince⟩ := hc i p hi
    exact ⟨(Gatt.World.holder_of_arrive hmoves).trans hholder, htracked.arrive hmoves,
      fun start hstart => (hsince start hstart).arrive hmoves⟩

theorem Served.reaches (run : Reaches (Gatt.session ι) ok (.idle w) c) : Served c := by
  induction run with
  | refl => exact fun _ _ hnone => nomatch hnone
  | step before _ next ih => exact ih.step before next

/-- **A write is acknowledged by its own acknowledgement only.**  In every run of a session's writes and its task,
whatever is answered and sent and whenever: a value is returned when the packet was written, the notifications taken since
are the first that the task sent after the barrier, all but the last foreign to the report, and the last its
acknowledgement.  The queue had not overflowed and the stream had not ended when the call began. -/
theorem write_acknowledged (run : Reaches (Gatt.session ι) ok (.idle w) c) {i : ι} {receipt : BleWriteReceipt}
    (next : Step (Gatt.session ι) c (.leave i (some (.ok receipt))) c') :
    ∃ call start skipped, running i c.log = some call ∧ started i c.log = some start ∧
      receipt = ⟨call.reportId, 0⟩ ∧
      Acked call.reportId call.packet skipped (history i c.log) ∧
      (∀ value ∈ skipped, ForeignTo call.reportId value) ∧
      (skipped ++ [acknowledgement call.reportId]).map .ok <+: c.world.stream.drop c.world.mark ∧
      start.stream.length ≤ c.world.mark ∧
      start.overflowed = false ∧ start.streaming = true := by
  obtain ⟨call, hcall, hdone⟩ := run.returned BleWrite.keeps next
  obtain ⟨hreceipt, skipped, hacked⟩ := hdone receipt rfl
  obtain ⟨start, hstart⟩ := Machine.started_of_running _ hcall
  obtain ⟨p, hp⟩ : ∃ p, c.thread i = some p := by
    cases next with
    | returned hthread _ => exact ⟨_, hthread⟩
  obtain ⟨-, htracked, hsince⟩ := Served.reaches run i p hp
  have hs := hsince start hstart
  refine ⟨call, start, skipped, hcall, hstart, hreceipt, hacked, hacked.foreign, ?_, hs.mark hacked.barred, ?_, ?_⟩
  · rw [← hacked.taken]
    exact (htracked.after hacked.barred).first
  · cases hover : start.overflowed with
    | false => rfl
    | true => exact absurd hacked.flagged (hs.overflowed hover).2
  · cases hended : start.streaming with
    | true => rfl
    | false =>
      have hnone := ((hs.ended hended).2 hacked.barred).2
      rw [hacked.taken, List.map_append] at hnone
      exact absurd hnone (List.append_ne_nil_of_right_ne_nil _ (List.cons_ne_nil _ _))

namespace Rig

/-- A write of one byte under a report's name. -/
def oneByteWrite : BleWrite := ⟨0x0c, [0x0a], ⟨1000, 0⟩, 2⟩

/-- The runs of one client of a session. -/
abbrev Runs (c : Config (Gatt.session Unit)) : Prop := Reaches (Gatt.session Unit) (fun _ _ => True) (.idle {}) c

theorem callsWrite (call : BleWrite) : Runs ((Config.idle (M := Gatt.session Unit) {}).after (.enter () call) { holder := some () }
    (Function.update (fun _ => none) () (some call.write.run))) :=
  Reaches.refl.step trivial (.enter rfl ⟨rfl, rfl⟩)

theorem performs {c : Config (Gatt.session Unit)} (run : Runs c) (o : GattOp) (r : o.Res) {w : Gatt.World Unit}
    {k : o.Res → Prog Gatt (Except BleError BleWriteReceipt)} (running : c.thread () = some (Prog.call (S := Gatt) o k))
    (moves : c.world.effect o r w) : Runs (c.after (.op () o r) w (Function.update c.thread () (some (k r)))) :=
  run.step trivial (.op running moves)

theorem arrives {c : Config (Gatt.session Unit)} (run : Runs c) (bytes : List UInt8) (streaming : c.world.streaming = true) :
    Runs (c.after (.env (.value bytes)) (c.world.send (.ok bytes)) c.thread) :=
  run.step trivial (.env ⟨streaming, rfl⟩)

theorem returns {c : Config (Gatt.session Unit)} (_run : Runs c) (receipt : BleWriteReceipt)
    (done : c.thread () = some (.pure (.ok receipt))) : Step (Gatt.session Unit) c (.leave () (some (.ok receipt)))
      (c.after (.leave () (some (.ok receipt))) { c.world with holder := none } (Function.update c.thread () none)) :=
  .returned done rfl

theorem hears_acknowledgement : ∃ (c c' : Config (Gatt.session Unit)) (call : BleWrite) (skipped : List (List UInt8)),
    Runs c ∧ Step (Gatt.session Unit) c (.leave () (some (.ok ⟨0x0c, 0⟩))) c' ∧
      Acked call.reportId call.packet skipped (history () c.log) := by
  have barred := performs (performs (performs (callsWrite oneByteWrite) .isClosed false rfl ⟨rfl, rfl⟩) .overflowed false rfl ⟨rfl, rfl⟩)
    .tryRecv .empty rfl ⟨rfl, rfl⟩
  have written := performs (performs barred (.write [0x0c, 0x0a]) (.ok ()) rfl rfl) .now (0 : Nat) rfl rfl
  have waiting := performs (performs written .now (0 : Nat) rfl rfl) .overflowed false rfl ⟨rfl, rfl⟩
  -- another report's acknowledgement comes first
  have came := arrives (arrives waiting (acknowledgement 0x04) rfl) (acknowledgement 0x0c) rfl
  have skipped := performs came .pollRecv (.ready (some (.ok (acknowledgement 0x04)))) rfl (.inr ⟨rfl, rfl⟩)
  have again := performs (performs skipped .now (0 : Nat) rfl rfl) .overflowed false rfl ⟨rfl, rfl⟩
  have heard := performs again .pollRecv (.ready (some (.ok (acknowledgement 0x0c)))) rfl (.inr ⟨rfl, rfl⟩)
  have last := returns heard ⟨0x0c, 0⟩ rfl
  obtain ⟨call, start, passed, -, -, -, hacked, -⟩ := write_acknowledged heard last
  exact ⟨_, _, call, passed, heard, last, hacked⟩

end Rig
end AttackSharkX3
