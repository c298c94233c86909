import AttackSharkX3.Effects.Fallible
import AttackSharkX3.Report.Sections
/-!
# Feature — the worker that reads and writes the mouse's reports

The worker owns a feature transport.  A read is armed by a selector, polled until the mailbox is ready, and fetched; a
write is read back.  What the transport answers, and what the clock shows, is left open.
-/
namespace AttackSharkX3

open Effects (Sig Prog Fallible)

/-! ## Policies and errors -/

/-- Durations are counted in nanoseconds. -/
structure ReadPolicy where
  maxAttempts : UInt8
  nonzero : maxAttempts ≠ 0
  readinessTimeout : Nat
  pollInterval : Nat
  writeDelay : Nat

/-- The failures a read is repeated after. -/
inductive ReadFailure where
  | protocol (source : ProtocolError)
  | readinessTimeout
deriving DecidableEq

/-- The errors of the worker's calls. -/
inductive DriverError where
  | protocol (source : ProtocolError)
  | transport (text : String)
  | readAttemptsExhausted (sectionName : String) (profile : Option ProfileId) (attempts : UInt8) (last : ReadFailure)
  | writeVerificationMismatch (sectionName : String) (profile : ProfileId)
  | profileAlreadyActive (profile : ProfileId)
  | profileNotEnabled (profile maximum : ProfileId)
  | maximumProfileBelowCurrent (maximum current : ProfileId)
deriving DecidableEq

/-! ## The transport -/

/-- What the worker does to the outside.  `spin` stands for a readiness loop that goes on for longer than it is
followed here: nothing comes after it. -/
inductive FeatureOp where
  | send (report : List UInt8)
  | get (reportId : UInt8) (capacity : Nat)
  | elapsed
  | sleep (duration : Nat)
  | spin

/-- A read answers the length it claims and what the buffer holds. -/
abbrev FeatureOp.Res : FeatureOp → Type
  | send _ => Except String Unit
  | get _ capacity => Except String (Nat × Bytes capacity)
  | elapsed => Nat
  | sleep _ => Unit
  | spin => Empty

/-- **The worker's transport and clock.** -/
abbrev Feature : Sig := ⟨FeatureOp, FeatureOp.Res⟩

/-- A call of the worker. -/
abbrev Driver := Fallible Feature DriverError

namespace Driver

def sendFeatureReport (report : List UInt8) : Driver Unit :=
  .perform (S := Feature) (FeatureOp.send report) fun r => (r : Except String Unit).mapError DriverError.transport

def getFeatureReport (reportId : UInt8) (capacity : Nat) : Driver (Nat × Bytes capacity) :=
  .perform (S := Feature) (FeatureOp.get reportId capacity) fun r =>
    (r : Except String (Nat × Bytes capacity)).mapError DriverError.transport

def elapsed : Driver Nat := .perform (S := Feature) FeatureOp.elapsed .ok
def sleep (duration : Nat) : Driver Unit := .perform (S := Feature) (FeatureOp.sleep duration) .ok
def spin {T : Type} : Driver T := .perform (S := Feature) FeatureOp.spin fun r => nomatch r

/-- Sleeps, unless the setting the duration comes from is zero. -/
def sleepUnlessZero (setting duration : Nat) : Driver Unit := if setting = 0 then pure () else sleep duration

end Driver

def READINESS_REPORT_ID : UInt8 := 0xa0
def READINESS_LENGTH : Nat := 8
/-- Half a second. -/
def RECEIVER_READINESS_DELAY : Nat := 500000000

structure Worker where
  policy : ReadPolicy
  transportKind : TransportKind

namespace Worker

open Driver

variable {T : Type}

/-! ## Armed reads -/

/-- An answer as a packet, and what the packet decodes to. -/
def decodeAnswer {capacity : Nat} (decode : List UInt8 → Except ProtocolError T) (answer : Nat × Bytes capacity) :
    Except ReadFailure T :=
  if capacity < answer.1 then .error (.protocol (.invalidReportLength capacity answer.1))
  else (decode (answer.2.toList.take answer.1)).mapError .protocol

def readReadinessStatus : Driver (Except ReadFailure ReadinessStatus) := do
  let status ← getFeatureReport READINESS_REPORT_ID READINESS_LENGTH
  return decodeAnswer ReadinessStatus.decode status

/-- The readiness loop, followed for a number of polls.  The time left is what the deadline leaves, if that is not zero. -/
def awaitReady (worker : Worker) : Nat → Driver (Except ReadFailure Unit)
  | 0 => spin
  | polls + 1 => do
    match ← readReadinessStatus with
    | .ok .ready => return .ok ()
    | .ok .notReady =>
      let elapsed ← elapsed
      if elapsed < worker.policy.readinessTimeout then
        let remaining := worker.policy.readinessTimeout - elapsed
        sleepUnlessZero worker.policy.pollInterval (min worker.policy.pollInterval remaining)
        worker.awaitReady polls
      else return .error .readinessTimeout
    | .error failure => return .error failure

/-- The report itself, once the mailbox is ready. -/
def fetch (request : ReadbackRequest) (decode : List UInt8 → Except ProtocolError T) : Driver (Except ReadFailure T) := do
  let report ← getFeatureReport request.reportId request.reportLength.toNat
  return decodeAnswer decode report

/-- The receiver's round trip needs a delay before the first poll. -/
def readinessDelay (worker : Worker) : Driver Unit :=
  if worker.transportKind = .receiver then sleep RECEIVER_READINESS_DELAY else pure ()

/-- **One attempt.**  An error of the transport ends the call; a failure is the attempt's own. -/
def readAttempt (worker : Worker) (polls : Nat) (request : ReadbackRequest)
    (decode : List UInt8 → Except ProtocolError T) : Driver (Except ReadFailure T) := do
  sendFeatureReport (ReadSelector.encode request)
  worker.readinessDelay
  match ← worker.awaitReady polls with
  | .ok () => fetch request decode
  | .error failure => return .error failure

/-- The attempts that are left, after the last failure. -/
def attempts (worker : Worker) (polls : Nat) (request : ReadbackRequest)
    (decode : List UInt8 → Except ProtocolError T) : Nat → ReadFailure → Driver T
  | 0, lastFailure => throw (.readAttemptsExhausted request.sectionName request.targetProfile
      worker.policy.maxAttempts lastFailure)
  | left + 1, _ => do
    match ← worker.readAttempt polls request decode with
    | .ok value => return value
    | .error failure => worker.attempts polls request decode left failure

/-- **A read**: as many attempts as the policy allows. -/
def armedRead (worker : Worker) (polls : Nat) (request : ReadbackRequest)
    (decode : List UInt8 → Except ProtocolError T) : Driver T :=
  worker.attempts polls request decode worker.policy.maxAttempts.toNat .readinessTimeout

/-! ## Reads -/

def decodeMetadata (worker : Worker) (packet : List UInt8) : Except ProtocolError ProfileMetadata :=
  return (← ProfileMetadataReport.decodeForTransport packet worker.transportKind).metadata

def decodeDpi (worker : Worker) (profile : ProfileId) (packet : List UInt8) : Except ProtocolError DpiState :=
  return (← DpiReport.decode packet worker.transportKind profile).state

def decodePreferences (worker : Worker) (profile : ProfileId) (packet : List UInt8) :
    Except ProtocolError PreferencesState :=
  return (← PreferencesReport.decodeForTransport packet worker.transportKind profile).state

def decodeButtons (worker : Worker) (profile : ProfileId) (packet : List UInt8) : Except ProtocolError ButtonsState :=
  return (← ButtonsReport.decodeForTransport packet worker.transportKind profile).state

def decodeRate (worker : Worker) (alias_ : ProfileId) (packet : List UInt8) : Except ProtocolError PollingRate :=
  return (← PollingRateReport.decodeForTransport packet worker.transportKind alias_).rate

def readProfileMetadata (worker : Worker) (polls : Nat) : Driver ProfileMetadata :=
  worker.armedRead polls .profileMetadata worker.decodeMetadata

def readDpi (worker : Worker) (polls : Nat) (profile : ProfileId) : Driver DpiState :=
  worker.armedRead polls (.dpi profile) (worker.decodeDpi profile)

def readPreferences (worker : Worker) (polls : Nat) (profile : ProfileId) : Driver PreferencesState :=
  worker.armedRead polls (.preferences profile) (worker.decodePreferences profile)

def readButtons (worker : Worker) (polls : Nat) (profile : ProfileId) : Driver ButtonsState :=
  worker.armedRead polls (.buttons profile) (worker.decodeButtons profile)

def readLivePollingRate (worker : Worker) (polls : Nat) (alias_ : ProfileId) : Driver PollingRate :=
  worker.armedRead polls (.pollingRate alias_) (worker.decodeRate alias_)

/-! ## Writes -/

def sleepAfterWrite (worker : Worker) : Driver Unit := sleepUnlessZero worker.policy.writeDelay worker.policy.writeDelay

/-- **A verified write**: the report, the delay, and a readback that must equal what was asked for. -/
def verified [DecidableEq T] (worker : Worker) (sent : Driver Unit) (readback : Driver T) (sectionName : String)
    (profile : ProfileId) (requested : T) : Driver T := do
  sent
  worker.sleepAfterWrite
  let actual ← readback
  .ensure (actual = requested) (.writeVerificationMismatch sectionName profile)
  return actual

def dpiReport (worker : Worker) (state : DpiState) : Except ProtocolError (List UInt8) :=
  return (← DpiReport.encode state worker.transportKind).asBytes

def sendDpi (worker : Worker) (state : DpiState) : Driver Unit := do
  let report ← .ofExcept .protocol (worker.dpiReport state)
  sendFeatureReport report

def writeDpi (worker : Worker) (polls : Nat) (state : DpiState) : Driver DpiState :=
  worker.verified (worker.sendDpi state) (worker.readDpi polls state.profile) "dpi" state.profile state

def preferencesReport (state : PreferencesState) : List UInt8 := (PreferencesReport.encodeFramed state .compact).asBytes

def sendPreferences (state : PreferencesState) : Driver Unit := sendFeatureReport (preferencesReport state)

def writePreferences (worker : Worker) (polls : Nat) (state : PreferencesState) : Driver PreferencesState :=
  worker.verified (sendPreferences state) (worker.readPreferences polls state.profile) "preferences" state.profile state

def sendButtons (state : ButtonsState) : Driver Unit := sendFeatureReport (ButtonsReport.encode state)

def writeButtons (worker : Worker) (polls : Nat) (state : ButtonsState) : Driver ButtonsState :=
  worker.verified (sendButtons state) (worker.readButtons polls state.profile) "buttons" state.profile state

def sendPollingRateUnchecked (profile : ProfileId) (rate : PollingRate) : Driver Unit :=
  sendFeatureReport (PollingRateReport.encode profile rate)

def writePollingRateUnchecked (worker : Worker) (polls : Nat) (profile : ProfileId) (rate : PollingRate) :
    Driver PollingRate :=
  worker.verified (sendPollingRateUnchecked profile rate) (worker.readLivePollingRate polls profile) "polling rate"
    profile rate

/-! ## Profile control -/

def controlFraming (worker : Worker) : ProfileControlFraming :=
  match worker.transportKind with
  | .receiver => .full
  | .wired | .ble => .compact

def controlReport (worker : Worker) (expected : ProfileMetadata) : List UInt8 :=
  (ProfileControlReport.encode expected worker.controlFraming).asBytes

/-- The control report of a checked pair, verified by reading the metadata again. -/
def writeMetadata (worker : Worker) (polls : Nat) (expected : ProfileMetadata) (profile : ProfileId) :
    Driver ProfileMetadata :=
  worker.verified (sendFeatureReport (worker.controlReport expected)) (worker.readProfileMetadata polls)
    "profile metadata" profile expected

def setMaximumProfile (worker : Worker) (polls : Nat) (maximum : ProfileId) : Driver ProfileMetadata := do
  let current ← worker.readProfileMetadata polls
  .ensure (¬ maximum.get < current.current.get) (.maximumProfileBelowCurrent maximum current.current)
  if maximum = current.maximum then return current
  else
    let expected ← .ofExcept .protocol (ProfileMetadata.new current.current maximum)
    worker.writeMetadata polls expected expected.current

def activateProfile (worker : Worker) (polls : Nat) (profile : ProfileId) : Driver ProfileMetadata := do
  let current ← worker.readProfileMetadata polls
  .ensure (¬ current.current = profile) (.profileAlreadyActive profile)
  .ensure (¬ current.maximum.get < profile.get) (.profileNotEnabled profile current.maximum)
  let expected ← .ofExcept .protocol (ProfileMetadata.new profile current.maximum)
  worker.writeMetadata polls expected profile

end Worker
end AttackSharkX3
