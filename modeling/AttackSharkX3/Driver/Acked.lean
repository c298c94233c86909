import AttackSharkX3.Driver.Ble
/-!
# Acked — what one write hears

A write empties the queue, hands its packet over, and takes notifications until one acknowledges its report.  Whatever the
session answers, a value is returned only when that one says so, and every notification before it is foreign to the report.
-/
namespace AttackSharkX3

open Effects (Prog Fallible Tries Either)
open Effects.Prog (Event History Keeps)

/-! ## Acknowledgements -/

/-- The notification that acknowledges a report. -/
def acknowledgement (reportId : UInt8) : List UInt8 := [0x10, 0x50, 0x00, reportId]

/-- The notification says nothing of the report. -/
def ForeignTo (reportId : UInt8) (notification : List UInt8) : Prop :=
  decodeAck notification = .ok none ∨ ∃ ack, decodeAck notification = .ok (some ack) ∧ ack.reportId ≠ reportId

/-- Only the four bytes of an acknowledgement are read as one. -/
theorem decodeAck_ok {notification : List UInt8} {ack : BleAck} (h : decodeAck notification = .ok (some ack)) :
    notification = [0x10, 0x50, ack.status, ack.reportId] := by
  unfold decodeAck at h
  split at h
  · cases h
  next hshape =>
  rw [not_or, Classical.not_not, Classical.not_not] at hshape
  obtain ⟨hlen, hhead⟩ := hshape
  obtain ⟨a, b, status, reportId, rfl⟩ : ∃ a b c d, notification = [a, b, c, d] := by
    match notification, hlen with
    | [a, b, c, d], _ => exact ⟨a, b, c, d, rfl⟩
  split at h
  · cases h
    obtain ⟨rfl, hrest⟩ := List.cons.inj hhead
    obtain ⟨rfl, -⟩ := List.cons.inj hrest
    rfl
  · cases h

/-! ## Events -/

namespace Heard

abbrev checked (closed : Bool) : Event Gatt := ⟨GattOp.isClosed, closed⟩
abbrev flag (overflowed : Bool) : Event Gatt := ⟨GattOp.overflowed, overflowed⟩
abbrev tried (r : TryRecv) : Event Gatt := ⟨GattOp.tryRecv, r⟩
abbrev polled (r : Polled) : Event Gatt := ⟨GattOp.pollRecv, r⟩
abbrev wrote (packet : List UInt8) (r : Except String Unit) : Event Gatt := ⟨GattOp.write packet, r⟩
abbrev read (time : Nat) : Event Gatt := ⟨GattOp.now, time⟩
abbrev timer (remaining : Nat) (elapsed : Bool) : Event Gatt := ⟨GattOp.elapsed remaining, elapsed⟩
abbrev rested (duration : Nat) : Event Gatt := ⟨GattOp.sleep duration, ()⟩
abbrev heard (value : List UInt8) : Event Gatt := polled (.ready (some (.ok value)))

end Heard

open Heard

/-- The barrier is passed: the queue was found empty. -/
def Barred (h : History Gatt) : Prop := tried .empty ∈ h

/-- The last thing done was to find the queue not overflowed. -/
def JustFlagged (h : History Gatt) : Prop := ∃ before, h = flag false :: before

/-- The notification a poll took. -/
def takenBy : Event Gatt → Option Notification
  | ⟨.pollRecv, .ready notification⟩ => notification
  | _ => none

/-- **The notifications a call took after the barrier**, the oldest first. -/
def taken (h : History Gatt) : List Notification := (h.filterMap takenBy).reverse

/-- **What a call may do next.**  It tries the queue until it is empty, and polls it only afterwards, each time on a flag
that is not set. -/
def InboxRule (h : History Gatt) : GattOp → Prop
  | .tryRecv => ¬ Barred h
  | .pollRecv => Barred h ∧ JustFlagged h
  | _ => True

/-! ## A write -/

/-- The queue is being emptied: it had not overflowed, and held no error so far. -/
inductive Draining : History Gatt → Prop where
  | begun : Draining [flag false, checked false]
  | discarded {h} (value : List UInt8) : Draining h → Draining (tried (.item (.ok value)) :: h)

/-- **The acknowledgement is awaited**: the packet was written after the barrier, and what was taken since is foreign to
the report, each taken on a flag that was not set and before any timer went off. -/
inductive Awaiting (reportId : UInt8) (packet : List UInt8) : List (List UInt8) → History Gatt → Prop where
  | wrote {h} : Draining h → Awaiting reportId packet [] (wrote packet (.ok ()) :: tried .empty :: h)
  | read {skipped h} (time : Nat) : Awaiting reportId packet skipped h → Awaiting reportId packet skipped (read time :: h)
  | pending {skipped h} (remaining : Nat) : Awaiting reportId packet skipped h →
      Awaiting reportId packet skipped (timer remaining false :: polled .pending :: flag false :: h)
  | skipped {skipped h} (value : List UInt8) : Awaiting reportId packet skipped h → ForeignTo reportId value →
      Awaiting reportId packet (skipped ++ [value]) (heard value :: flag false :: h)

/-- **The write is acknowledged**: the notification taken last is the report's acknowledgement. -/
inductive Acked (reportId : UInt8) (packet : List UInt8) (skipped : List (List UInt8)) : History Gatt → Prop where
  | heard {h} : Awaiting reportId packet skipped h →
      Acked reportId packet skipped (heard (acknowledgement reportId) :: flag false :: h)
  | rested {h} (duration : Nat) : Acked reportId packet skipped h → Acked reportId packet skipped (rested duration :: h)

/-! ## What a history tells -/

@[simp] theorem taken_nil : taken [] = [] := rfl

theorem taken_cons {ev : Event Gatt} {h : History Gatt} : taken (ev :: h) = taken h ++ (takenBy ev).toList := by
  unfold taken
  cases hev : takenBy ev with
  | none => rw [List.filterMap_cons_none hev, Option.toList_none, List.append_nil]
  | some n => rw [List.filterMap_cons_some hev, List.reverse_cons, Option.toList_some]

theorem barred_cons (ev : Event Gatt) {h : History Gatt} (hop : ev.1 ≠ .tryRecv) : Barred (ev :: h) ↔ Barred h := by
  unfold Barred
  rw [List.mem_cons]
  refine or_iff_right fun heq => hop ?_
  rw [← heq]

theorem barred_item {notification : Notification} {h : History Gatt} :
    Barred (tried (.item notification) :: h) ↔ Barred h := by
  unfold Barred
  rw [List.mem_cons]
  refine or_iff_right fun heq => ?_
  cases heq

theorem not_barred_nil : ¬ Barred [] := List.not_mem_nil

theorem Draining.not_barred {h : History Gatt} (hd : Draining h) : ¬ Barred h := by
  induction hd with
  | begun =>
    rw [barred_cons _ (by decide), barred_cons _ (by decide)]
    exact not_barred_nil
  | discarded value _ ih => exact fun hb => ih (barred_item.1 hb)

theorem Draining.taken {h : History Gatt} (hd : Draining h) : taken h = [] := by
  induction hd with
  | begun => rfl
  | discarded value _ ih => rw [taken_cons, ih]; rfl

variable {reportId : UInt8} {packet : List UInt8} {skipped : List (List UInt8)} {h : History Gatt}

theorem Awaiting.barred (ha : Awaiting reportId packet skipped h) : Barred h := by
  induction ha with
  | wrote _ => exact List.mem_cons_of_mem _ List.mem_cons_self
  | read _ _ ih => exact List.mem_cons_of_mem _ ih
  | pending _ _ ih => exact List.mem_cons_of_mem _ (List.mem_cons_of_mem _ (List.mem_cons_of_mem _ ih))
  | skipped _ _ _ ih => exact List.mem_cons_of_mem _ (List.mem_cons_of_mem _ ih)

theorem Awaiting.taken (ha : Awaiting reportId packet skipped h) : taken h = skipped.map .ok := by
  induction ha with
  | wrote hd =>
    rw [taken_cons, taken_cons, hd.taken]
    rfl
  | read _ _ ih =>
    rw [taken_cons, ih]
    exact List.append_nil _
  | pending _ _ ih =>
    rw [taken_cons, taken_cons, taken_cons, ih]
    simp [takenBy]
  | skipped value _ _ ih =>
    rw [taken_cons, taken_cons, ih, List.map_append]
    simp [takenBy]

theorem Awaiting.foreign (ha : Awaiting reportId packet skipped h) : ∀ value ∈ skipped, ForeignTo reportId value := by
  induction ha with
  | wrote _ => exact fun _ hmem => absurd hmem List.not_mem_nil
  | read _ _ ih | pending _ _ ih => exact ih
  | skipped value _ hforeign ih =>
    intro v hv
    rcases List.mem_append.1 hv with hv | hv
    · exact ih v hv
    · exact List.mem_singleton.1 hv ▸ hforeign

theorem Acked.barred (ha : Acked reportId packet skipped h) : Barred h := by
  induction ha with
  | heard hw => exact List.mem_cons_of_mem _ (List.mem_cons_of_mem _ hw.barred)
  | rested _ _ ih => exact List.mem_cons_of_mem _ ih

theorem Acked.flagged (ha : Acked reportId packet skipped h) : flag false ∈ h := by
  induction ha with
  | heard _ => exact List.mem_cons_of_mem _ List.mem_cons_self
  | rested _ _ ih => exact List.mem_cons_of_mem _ ih

theorem Acked.foreign (ha : Acked reportId packet skipped h) : ∀ value ∈ skipped, ForeignTo reportId value := by
  induction ha with
  | heard hw => exact hw.foreign
  | rested _ _ ih => exact ih

theorem Acked.taken (ha : Acked reportId packet skipped h) :
    taken h = (skipped ++ [acknowledgement reportId]).map .ok := by
  induction ha with
  | heard hw =>
    rw [taken_cons, taken_cons, hw.taken, List.map_append]
    simp [takenBy]
  | rested _ _ ih =>
    rw [taken_cons, ih]
    exact List.append_nil _

/-! ## The programs -/

theorem tries_spin {α : Type} {pre : History Gatt → Prop} {post : α → History Gatt → Prop}
    {fails : BleError → History Gatt → Prop} : Tries InboxRule pre (Ble.spin : Ble α) post fails :=
  .perform (fun _ _ => trivial) fun _ r => nomatch r

theorem tries_drain : ∀ polls : Nat, Tries InboxRule Draining (Ble.drain polls)
    (fun _ h => ∃ before, h = tried .empty :: before ∧ Draining before) (fun _ _ => True)
  | 0 => tries_spin
  | polls + 1 => by
    refine .bind (Q := fun r h => ∃ before, h = tried r :: before ∧ Draining before)
      (.perform (fun h hd => hd.not_barred) fun h r hd => ⟨h, rfl, hd⟩) fun r => ?_
    match r with
    | .item (.ok value) =>
      refine (tries_drain polls).before ?_
      rintro _ ⟨before, rfl, hd⟩
      exact .discarded value hd
    | .item (.error e) => exact .throw fun _ _ => trivial
    | .empty => exact .pure fun _ hh => hh
    | .disconnected => exact .throw fun _ _ => trivial

/-- **The barrier**: it is passed on a flag that is not set. -/
theorem tries_drainIdle (polls : Nat) : Tries InboxRule (· = [checked false]) (Ble.drainIdle polls)
    (fun _ h => ∃ before, h = tried .empty :: before ∧ Draining before) (fun _ _ => True) := by
  refine .bind (Q := fun r h => h = [flag r, checked false])
    (.perform (fun _ _ => trivial) fun h r hh => congrArg _ hh) fun r => ?_
  cases r with
  | true => exact .throw fun _ _ => trivial
  | false =>
    refine (tries_drain polls).before ?_
    rintro _ rfl
    exact .begun

/-- What a wait for the next notification makes of the history. -/
def NextTaken (reportId : UInt8) (packet : List UInt8) (skipped : List (List UInt8)) :
    Option (Option Notification) → History Gatt → Prop
  | some (some (.ok value)), h => ∃ before, h = heard value :: flag false :: before ∧ Awaiting reportId packet skipped before
  | _, _ => True

theorem tries_timeoutNext {remaining : Nat} : ∀ polls : Nat,
    Tries InboxRule (Awaiting reportId packet skipped) (Ble.timeoutNext remaining polls)
      (NextTaken reportId packet skipped) (fun _ _ => True)
  | 0 => tries_spin
  | polls + 1 => by
    refine .bind (Q := fun r h => ∃ before, h = flag r :: before ∧ Awaiting reportId packet skipped before)
      (.perform (fun _ _ => trivial) fun h r ha => ⟨h, rfl, ha⟩) fun overflowed => ?_
    cases overflowed with
    | true => exact .pure fun _ _ => trivial
    | false =>
      refine .bind (Q := fun r h => ∃ before, h = polled r :: flag false :: before ∧ Awaiting reportId packet skipped before)
        (.perform ?_ ?_) fun r => ?_
      · rintro _ ⟨before, rfl, ha⟩
        exact ⟨List.mem_cons_of_mem _ ha.barred, before, rfl⟩
      · rintro _ r ⟨before, rfl, ha⟩
        exact ⟨before, rfl, ha⟩
      match r with
      | .ready (some (.ok value)) => exact .pure fun _ hh => hh
      | .ready (some (.error e)) => exact .pure fun _ _ => trivial
      | .ready none => exact .pure fun _ _ => trivial
      | .pending =>
        refine .bind (Q := fun elapsed h => ∃ before, h = timer remaining elapsed :: polled .pending :: flag false :: before ∧
          Awaiting reportId packet skipped before) (.perform (fun _ _ => trivial) ?_) fun elapsed => ?_
        · rintro _ r ⟨before, rfl, ha⟩
          exact ⟨before, rfl, ha⟩
        cases elapsed with
        | true => exact .pure fun _ _ => trivial
        | false =>
          refine (tries_timeoutNext polls).before ?_
          rintro _ ⟨before, rfl, ha⟩
          exact .pending remaining ha

/-- What a value of the waiting loop says of the history. -/
def Completed (reportId : UInt8) (packet : List UInt8) (receipt : BleWriteReceipt) (h : History Gatt) : Prop :=
  receipt = ⟨reportId, 0⟩ ∧ ∃ skipped, Acked reportId packet skipped h

/-- The notifications that are waited for, by induction on their number: a foreign one is skipped. -/
theorem tries_awaitAck {deadline polls : Nat} : ∀ (rounds : Nat) (skipped : List (List UInt8)),
    Tries InboxRule (Awaiting reportId packet skipped) (Ble.awaitAck reportId deadline polls rounds)
      (Completed reportId packet) (fun _ _ => True)
  | 0, _ => tries_spin
  | rounds + 1, skipped => by
    refine .bind (Q := fun _ => Awaiting reportId packet skipped)
      (.perform (fun _ _ => trivial) fun h time ha => .read time ha) fun now => ?_
    show Tries _ _ (if deadline - now = 0 then _ else _) _ _
    split
    · exact .throw fun _ _ => trivial
    refine .bind (tries_timeoutNext polls) fun next => ?_
    match next with
    | none => exact .throw fun _ _ => trivial
    | some none => exact .throw fun _ _ => trivial
    | some (some (.error e)) => exact .throw fun _ _ => trivial
    | some (some (.ok value)) =>
      dsimp only
      cases hdecoded : decodeAck value with
      | error e => exact .throw fun _ _ => trivial
      | ok found =>
        cases found with
        | none =>
          refine (tries_awaitAck rounds (skipped ++ [value])).before ?_
          rintro _ ⟨before, rfl, ha⟩
          exact .skipped value ha (.inl hdecoded)
        | some ack =>
          show Tries _ _ (if ack.reportId ≠ reportId then _ else _) _ _
          split
          · next hforeign =>
            refine (tries_awaitAck rounds (skipped ++ [value])).before ?_
            rintro _ ⟨before, rfl, ha⟩
            exact .skipped value ha (.inr ⟨ack, hdecoded, hforeign⟩)
          · next hown =>
            split
            · exact .throw fun _ _ => trivial
            · next hstatus =>
              refine .pure ?_
              rintro _ ⟨before, rfl, ha⟩
              have hvalue := decodeAck_ok hdecoded
              rw [Classical.not_not.1 hown, Classical.not_not.1 hstatus] at hvalue
              subst hvalue
              exact ⟨congrArg _ (Classical.not_not.1 hstatus), skipped, .heard ha⟩

theorem tries_completeBleWrite {ackTimeout polls : Nat} :
    Tries InboxRule (fun h => ∃ before, h = tried .empty :: before ∧ Draining before)
      (Ble.completeBleWrite reportId ackTimeout polls (Ble.writeCharacteristic packet))
      (Completed reportId packet) (fun _ _ => True) := by
  refine .bind (Q := fun _ => Awaiting reportId packet []) (.perform (fun _ _ => trivial) ?_) fun _ => ?_
  · rintro _ r ⟨before, rfl, hd⟩
    cases r with
    | ok u => exact .wrote hd
    | error text => trivial
  refine .bind (Q := fun _ => Awaiting reportId packet [])
    (.perform (fun _ _ => trivial) fun h time ha => .read time ha) fun now => ?_
  exact tries_awaitAck polls []

namespace BleWrite

variable (call : BleWrite)

theorem tries_writeBluest : Tries InboxRule (· = [checked false]) call.writeBluest
    (Completed call.reportId call.packet) (fun _ _ => True) :=
  .bind (tries_drainIdle call.polls) fun _ => tries_completeBleWrite

/-- **A write that is returned was acknowledged**, whatever the session answered. -/
theorem tries_write : Tries InboxRule (· = []) call.write (Completed call.reportId call.packet) (fun _ _ => True) := by
  refine .bind (Q := fun closed h => h = [checked closed])
    (.perform (fun _ _ => trivial) fun h r hh => congrArg _ hh) fun closed => ?_
  cases closed with
  | true => exact .throw fun _ _ => trivial
  | false =>
    refine .bind (Q := fun result h => ∀ receipt, result = .ok receipt → Completed call.reportId call.packet receipt h)
      (.attempt (call.tries_writeBluest.mono (fun _ => id) ?_ ?_)) fun result => ?_
    · intro receipt h hc other heq
      cases heq
      exact hc
    · intro e h _ other heq
      cases heq
    cases result with
    | ok receipt =>
      show Tries _ _ (if call.policy.writeQuietPeriod ≠ 0 then _ else _) _ _
      split
      · refine .bind (Q := fun _ => Completed call.reportId call.packet receipt) (.perform (fun _ _ => trivial) ?_) fun _ =>
          .pure fun _ => id
        intro h u hh
        obtain ⟨hreceipt, skipped, ha⟩ := hh receipt rfl
        exact ⟨hreceipt, skipped, .rested _ ha⟩
      · exact .pure fun h hh => hh receipt rfl
    | error e =>
      show Tries _ _ (if e.isConnectionLost then _ else _) _ _
      split
      · refine .bind (Q := fun _ _ => True) (.perform (fun _ _ => trivial) fun _ _ _ => trivial) fun _ => ?_
        refine .bind (Q := fun _ _ => True) (.perform (fun _ _ => trivial) fun _ _ _ => trivial) fun _ => ?_
        exact .throw fun _ _ => trivial
      · exact .throw fun _ _ => trivial

/-- The write as a call of the session. -/
theorem keeps : Keeps ((fun _ => InboxRule) call)
    ((fun (call : BleWrite) result h => ∀ receipt, result = .ok receipt → Completed call.reportId call.packet receipt h) call)
    call.write.run [] := by
  refine Keeps.mono (fun _ _ => id) (fun result h hr receipt heq => ?_) _ [] (call.tries_write [] rfl)
  subst heq
  exact hr

end BleWrite
end AttackSharkX3
