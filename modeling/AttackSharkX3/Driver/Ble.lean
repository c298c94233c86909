import AttackSharkX3.Effects.Fallible
import AttackSharkX3.Effects.Machine
import AttackSharkX3.Protocol
/-!
# Ble — writes that the mouse acknowledges

Over Bluetooth a report is written to one characteristic and acknowledged by a notification of another.  A task puts the
notifications into a bounded queue; a write empties the queue first, and then waits for the notification that names its
report.  What arrives and when, and what the clock shows, is left open.
-/
namespace AttackSharkX3

open Effects (Sig Prog Fallible Machine Move)

def NOTIFICATION_QUEUE_CAPACITY : Nat := 16

/-- The errors of BLE calls; services and characteristics are named by their identifiers. -/
inductive BleError where
  | protocol (source : ProtocolError)
  | adapterUnavailable
  | backend (text : String)
  | operation (operation details : String)
  | deviceNotFound
  | ambiguousDevice (count : Nat)
  | deviceOpen (id : String)
  | disconnected
  | missingService (uuid : Nat)
  | ambiguousService (uuid : Nat)
  | missingCharacteristic (uuid : Nat)
  | ambiguousCharacteristic (uuid : Nat)
  | invalidCharacteristicProperties (uuid : Nat)
  | unsupportedReport (reportId : UInt8)
  | ackRejected (reportId : UInt8)
  | ackTimeout (reportId : UInt8)
  | malformedAck
  | notificationOverflow
  | notification (text : String)
deriving DecidableEq

/-- The session is closed for good after such an error. -/
def BleError.isConnectionLost : BleError → Bool
  | disconnected | adapterUnavailable | backend _ | deviceOpen _ | missingService _ | missingCharacteristic _
  | notification _ => true
  | _ => false

/-- Durations are counted in nanoseconds. -/
structure BlePolicy where
  ackTimeout : Nat
  writeQuietPeriod : Nat

structure BleWriteReceipt where
  reportId : UInt8
  ackStatus : UInt8
deriving DecidableEq

structure BleAck where
  reportId : UInt8
  status : UInt8
deriving DecidableEq

/-- **Decodes a notification**; one that is no acknowledgement is passed over. -/
def decodeAck (notification : List UInt8) : Except BleError (Option BleAck) :=
  if notification.length ≠ 4 ∨ notification.take 2 ≠ [0x10, 0x50] then .ok none
  else if notification.getD 2 0 = 0x00 ∨ notification.getD 2 0 = 0x01 then
    .ok (some ⟨notification.getD 3 0, notification.getD 2 0⟩)
  else .error .malformedAck

/-! ## The session's operations -/

/-- What the task puts into the queue. -/
abbrev Notification : Type := Except BleError (List UInt8)

inductive TryRecv where
  | item (notification : Notification)
  | empty
  | disconnected

/-- An answer of the queue to a task that may wait; nothing is ready at the end of the stream. -/
inductive Polled where
  | ready (notification : Option Notification)
  | pending

/-- **What a session does to the outside.**  `spin` stands for a loop that goes on for longer than it is followed here:
nothing comes after it. -/
inductive GattOp where
  | isClosed
  | setClosed
  /-- The task is told to stop, and awaited. -/
  | closeNotifications
  /-- A load of the queue's flag. -/
  | overflowed
  | tryRecv
  | pollRecv
  | write (packet : List UInt8)
  | now
  /-- Whether a timer for so long went off. -/
  | elapsed (remaining : Nat)
  | sleep (duration : Nat)
  | spin
deriving DecidableEq

abbrev GattOp.Res : GattOp → Type
  | isClosed | overflowed | elapsed _ => Bool
  | setClosed | sleep _ => Unit
  | closeNotifications | write _ => Except String Unit
  | tryRecv => TryRecv
  | pollRecv => Polled
  | now => Nat
  | spin => Empty

abbrev Gatt : Sig := ⟨GattOp, GattOp.Res⟩

/-- A call of the session. -/
abbrev Ble := Fallible Gatt BleError

namespace Ble

def isClosed : Ble Bool := .perform (S := Gatt) GattOp.isClosed .ok
def setClosed : Ble Unit := .perform (S := Gatt) GattOp.setClosed .ok
def closeNotifications : Ble (Except String Unit) := .perform (S := Gatt) GattOp.closeNotifications .ok
def overflowed : Ble Bool := .perform (S := Gatt) GattOp.overflowed .ok
def tryRecv : Ble TryRecv := .perform (S := Gatt) GattOp.tryRecv .ok
def pollRecv : Ble Polled := .perform (S := Gatt) GattOp.pollRecv .ok
def now : Ble Nat := .perform (S := Gatt) GattOp.now .ok
def elapsed (remaining : Nat) : Ble Bool := .perform (S := Gatt) (GattOp.elapsed remaining) .ok
def sleep (duration : Nat) : Ble Unit := .perform (S := Gatt) (GattOp.sleep duration) .ok
def spin {α : Type} : Ble α := .perform (S := Gatt) GattOp.spin fun r => nomatch r

def writeCharacteristic (packet : List UInt8) : Ble Unit :=
  .perform (S := Gatt) (GattOp.write packet) fun r =>
    (r : Except String Unit).mapError (BleError.operation "write packet to FEE3")

/-! ## The inbox -/

/-- The queue emptied, for a number of notifications. -/
def drain : Nat → Ble Unit
  | 0 => spin
  | polls + 1 => do
    match ← tryRecv with
    | .item (.ok _) => drain polls
    | .item (.error e) => throw e
    | .empty => return ()
    | .disconnected => throw .disconnected

/-- **The barrier before a write.** -/
def drainIdle (polls : Nat) : Ble Unit := do
  if ← overflowed then throw .notificationOverflow
  drain polls

/-- The next notification, waited for so long and followed for a number of polls: nothing once the timer went off, and
nothing more at the end of the stream. -/
def timeoutNext (remaining : Nat) : Nat → Ble (Option (Option Notification))
  | 0 => spin
  | polls + 1 => do
    if ← overflowed then return some (some (.error .notificationOverflow))
    match ← pollRecv with
    | .ready notification => return some notification
    | .pending => if ← elapsed remaining then return none else timeoutNext remaining polls

/-! ## Writes -/

/-- The loop that waits for the acknowledgement, followed for a number of notifications. -/
def awaitAck (reportId : UInt8) (deadline polls : Nat) : Nat → Ble BleWriteReceipt
  | 0 => spin
  | rounds + 1 => do
    let now ← now
    let remaining := deadline - now
    if remaining = 0 then throw (.ackTimeout reportId)
    match ← timeoutNext remaining polls with
    | some (some (.ok value)) =>
      match decodeAck value with
      | .error e => throw e
      | .ok none => awaitAck reportId deadline polls rounds
      | .ok (some ack) =>
        if ack.reportId ≠ reportId then awaitAck reportId deadline polls rounds
        else if ack.status ≠ 0 then throw (.ackRejected reportId)
        else return ⟨reportId, ack.status⟩
    | some (some (.error e)) => throw e
    | some none => throw .disconnected
    | none => throw (.ackTimeout reportId)

/-- **A write completed** by the first notification that acknowledges its report. -/
def completeBleWrite (reportId : UInt8) (ackTimeout polls : Nat) (write : Ble Unit) : Ble BleWriteReceipt := do
  write
  let deadline := (← now) + ackTimeout
  awaitAck reportId deadline polls polls

end Ble

/-- **A write of one packet**, which is not empty; its first byte names the report. -/
structure BleWrite where
  reportId : UInt8
  rest : List UInt8
  policy : BlePolicy
  /-- How many turns of each loop are followed. -/
  polls : Nat

namespace BleWrite

open Ble

def packet (call : BleWrite) : List UInt8 := call.reportId :: call.rest

def writeBluest (call : BleWrite) : Ble BleWriteReceipt := do
  drainIdle call.polls
  completeBleWrite call.reportId call.policy.ackTimeout call.polls (writeCharacteristic call.packet)

/-- **The write of a session**, under its lock. -/
def write (call : BleWrite) : Ble BleWriteReceipt := do
  if ← isClosed then throw .disconnected
  match ← Fallible.attempt call.writeBluest with
  | .ok receipt =>
    if call.policy.writeQuietPeriod ≠ 0 then sleep call.policy.writeQuietPeriod
    return receipt
  | .error e =>
    if e.isConnectionLost then
      setClosed
      let _ ← closeNotifications
    throw e

end BleWrite

/-! ## The session and its task -/

/-- **A session, its queue and the task that fills it.**  `stream` is all the task ever sent, the oldest first, and `mark`
is how much of it had been sent when the queue was last found empty; no program reads either. -/
structure Gatt.World (ι : Type) where
  queue : List Notification := []
  overflowed : Bool := false
  /-- The task has not left its loop. -/
  streaming : Bool := true
  /-- The task's end of the queue is not dropped. -/
  connected : Bool := true
  closed : Bool := false
  /-- The caller that holds the session's lock. -/
  holder : Option ι := none
  stream : List Notification := []
  mark : Nat := 0

/-- What the task meets: a notification, an error of the stream, its end; and its own end. -/
inductive Arrival where
  | value (bytes : List UInt8)
  | failed (text : String)
  | ended
  | dropped

namespace Gatt.World

variable {ι : Type}

/-- `NotificationSender::send`: what does not fit is lost, and the flag is set. -/
def send (w : World ι) (notification : Notification) : World ι :=
  if w.queue.length < NOTIFICATION_QUEUE_CAPACITY then
    { w with queue := w.queue ++ [notification], stream := w.stream ++ [notification] }
  else { w with overflowed := true, stream := w.stream ++ [notification] }

/-- **A step of the task.** -/
def arrive (w : World ι) : Arrival → World ι → Prop
  | .value bytes, w' => w.streaming = true ∧ w' = w.send (.ok bytes)
  | .failed text, w' => w.streaming = true ∧ w' = { w.send (.error (.notification text)) with streaming := false }
  | .ended, w' => w.streaming = true ∧ w' = { w.send (.error .disconnected) with streaming := false }
  | .dropped, w' => w.streaming = false ∧ w' = { w with connected := false }

/-- **What an operation may answer and do.** -/
def effect (w : World ι) : (o : GattOp) → o.Res → World ι → Prop
  | .isClosed, r, w' => r = w.closed ∧ w' = w
  | .setClosed, _, w' => w' = { w with closed := true }
  | .closeNotifications, _, w' => w' = { w with streaming := false, connected := false }
  | .overflowed, r, w' => r = w.overflowed ∧ w' = w
  | .tryRecv, r, w' => match w.queue with
    | notification :: rest => r = .item notification ∧ w' = { w with queue := rest }
    | [] => if w.connected then r = .empty ∧ w' = { w with mark := w.stream.length } else r = .disconnected ∧ w' = w
  | .pollRecv, r, w' => (r = .pending ∧ w' = w) ∨ match w.queue with
    | notification :: rest => r = .ready (some notification) ∧ w' = { w with queue := rest }
    | [] => w.connected = false ∧ r = .ready none ∧ w' = w
  | .write _, _, w' | .now, _, w' | .elapsed _, _, w' | .sleep _, _, w' => w' = w
  | .spin, _, _ => False

/-- **What a move may do.**  A call begins when it is given the lock, and gives it back when it returns or is dropped. -/
def step (w : World ι) : Move Gatt ι BleWrite (Except BleError BleWriteReceipt) Arrival → World ι → Prop
  | .op _ o r, w' => w.effect o r w'
  | .enter i _, w' => w.holder = none ∧ w' = { w with holder := some i }
  | .leave _ _, w' => w' = { w with holder := none }
  | .env arrival, w' => w.arrive arrival w'

end Gatt.World

/-- **The callers of one session.** -/
abbrev Gatt.session (ι : Type) : Machine Gatt ι BleWrite (Except BleError BleWriteReceipt) Arrival where
  World := World ι
  body call := call.write.run
  step := World.step

end AttackSharkX3
