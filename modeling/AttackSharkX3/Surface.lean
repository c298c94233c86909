import AttackSharkX3.Ceremony
import AttackSharkX3.Discover
/-!
# Surface — a ceremony as the frontend shows it

The worker projects each progress report to a popup, and remembers the kind and the target of the running ceremony
between its commands.  After a restart it takes both from the journal.
-/
namespace AttackSharkX3

open Effects (Fallible)

/-! ## Copy -/

/-- What the primary button of the popup does. -/
inductive CeremonyPrompt where
  | none
  | reconnect
  | stamp
  | adopt
  | associate
  | done
deriving DecidableEq

def ceremonyTitle : IdentityCeremonyKind → String
  | .initialEnrollment | .addMouse => "add another mouse"
  | .restore => "restore a saved mouse"
  | .foreignAdoption => "adopt this mouse"
  | .bleAssociation => "pair a bluetooth mouse"

def ceremonySuccessCopy : IdentityCeremonyKind → String
  | .initialEnrollment => "Both mice are set up and each keeps its own identity."
  | .addMouse => "The mouse was added."
  | .restore => "The saved mouse is restored to this mouse."
  | .foreignAdoption => "The mouse was added."
  | .bleAssociation => "The bluetooth mouse is paired."

def ceremonyInstruction (progress : IdentityCeremonyProgress) : String :=
  match progress.stage with
  | .ready => "Ready."
  | .awaitingReconnect => match progress.kind with
    | .initialEnrollment =>
      if progress.step = some 1 then "Reconnect the mouse you're adding." else "Now reconnect your other mouse."
    | .addMouse => "Reconnect the mouse you want to add."
    | .restore =>
      "Disconnect the saved mouse if it's connected, then reconnect the mouse you're assigning to it."
    | .foreignAdoption =>
      "This mouse was set up on another computer. Make sure it's connected, then continue."
    | .bleAssociation => "Make sure the bluetooth mouse is on and nearby, then pair it."
  | .capturing => "Reading the mouse and capturing its settings. Keep it connected."
  | .stamping => "The app is setting up this mouse. Keep it connected."
  | .verified => "The mouse confirmed its identity."
  | .complete => ceremonySuccessCopy progress.kind
  | .cancelled => "Setup was cancelled. Nothing was changed."
  | .failed _ => "Setup stopped. Nothing was changed."

def ceremonyPromptLabel (prompt : CeremonyPrompt) (kind : IdentityCeremonyKind) : String :=
  match prompt with
  | .none => ""
  | .reconnect => "I've reconnected the mouse"
  | .stamp => if kind = .restore then "restore this mouse" else "add this mouse"
  | .adopt => "adopt this mouse"
  | .associate => "pair this bluetooth mouse"
  | .done => "done"

/-- The step, where there are several, and the mouse's name. -/
def ceremonyDetail (progress : IdentityCeremonyProgress) (targetName : Option String) : String :=
  let steps := match progress.step, progress.totalSteps with
    | some step, some total => if 1 < total then [s!"step {step} of {total}"] else []
    | _, _ => []
  " · ".intercalate (steps ++ targetName.toList)

def formatErrorString (context : String) (error : ManagerError) : String :=
  let message := match error with
    | .protocol .. => "that change isn't valid"
    | .deviceOperationBusy .. => "the mouse is busy; wait a moment and try again"
    | .missingBaseline resource _ => s!"saved {resource} settings are needed for this change"
    | .attachmentNotAuthenticated .. =>
      "that's a different physical mouse than the saved one; adopt it as a new mouse or reconnect the matching unit"
    | other => other.display
  s!"{context}: {message}"

/-! ## The popup -/

/-- **The popup of one progress report.** -/
structure CeremonyView where
  title : String
  instruction : String
  detail : String
  prompt : CeremonyPrompt
  promptLabel : String
  canCancel : Bool
  migrationOffered : Bool
  failed : Option String
deriving DecidableEq

def ceremonyPrompt (progress : IdentityCeremonyProgress) : CeremonyPrompt :=
  match progress.stage with
  | .ready => .none
  | .awaitingReconnect => if progress.kind = .bleAssociation then .associate else .reconnect
  | .capturing | .stamping => if progress.kind = .foreignAdoption then .adopt else .stamp
  | .verified | .complete | .cancelled | .failed _ => .done

/-- A report after which nothing is left to do. -/
def IdentityCeremonyStage.isTerminal : IdentityCeremonyStage → Bool
  | .complete | .cancelled | .failed _ => true
  | _ => false

def ceremonyView (progress : IdentityCeremonyProgress) (discovered : List DiscoveredDevice) : CeremonyView :=
  let targetName := progress.identity.bind fun id =>
    (discovered.find? (·.identity.id = id)).map fun device => device.identity.displayName.getD id.asStr
  let prompt := ceremonyPrompt progress
  { title := ceremonyTitle progress.kind
    instruction := ceremonyInstruction progress
    detail := ceremonyDetail progress targetName
    prompt
    promptLabel := ceremonyPromptLabel prompt progress.kind
    canCancel := match progress.stage with
      | .ready | .awaitingReconnect | .stamping => true
      | _ => false
    migrationOffered := progress.kind = .initialEnrollment && !progress.stage.isTerminal
    failed := match progress.stage with
      | .failed error => some error
      | _ => none }

/-! ## The worker -/

/-- What the worker remembers of the running ceremony, and the devices of its last scan. -/
structure CeremonyWorker where
  kind : Option IdentityCeremonyKind
  target : Option DeviceId
  hint : Option DeviceEndpoint
  discovered : List DiscoveredDevice
deriving DecidableEq

/-- What the worker tells the popup. -/
inductive CeremonyEvent where
  | progress (view : CeremonyView)
  | error (text : String)
deriving DecidableEq

/-- The ceremony forgotten. -/
def CeremonyWorker.forget (worker : CeremonyWorker) : CeremonyWorker :=
  { worker with kind := none, target := none, hint := none }

def identityCeremonyProgress : Manager (Option IdentityCeremonyProgress) := do
  let state ← Manager.load
  return state.identitySetup.map ceremonyProgressFromJournal

/-- The worker's memory of the ceremony replaced by what the report tells. -/
def CeremonyWorker.resume (worker : CeremonyWorker) (progress : IdentityCeremonyProgress) : CeremonyWorker :=
  { worker with kind := some progress.kind, target := progress.identity, hint := none }

/-- **The running ceremony, taken from the journal.** -/
def emitCurrentCeremony (worker : CeremonyWorker) : Manager (CeremonyWorker × Option CeremonyEvent) := do
  match ← Manager.attempt identityCeremonyProgress with
  | .ok (some progress) => return (worker.resume progress, some (.progress (ceremonyView progress worker.discovered)))
  | .ok none => return (worker, none)
  | .error error => return (worker, some (.error (formatErrorString "could not read setup progress" error)))

variable [Crc32fast]

/-- **One report applied**: a terminal one ends the worker's memory of the ceremony and refreshes its scan. -/
def handleCeremonyProgress (worker : CeremonyWorker) (progress : IdentityCeremonyProgress) :
    Manager (CeremonyWorker × CeremonyEvent) :=
  if progress.stage.isTerminal then do
    let refreshed ← Manager.attempt (discover .auto)
    let discovered := match refreshed with
      | .ok view => view.devices
      | .error _ => worker.discovered
    return ({ worker.forget with discovered }, .progress (ceremonyView progress discovered))
  else return (worker, .progress (ceremonyView progress worker.discovered))

/-! ## The commands -/

/-- A connection that can drive a ceremony of the kind. -/
def matchesKind (kind : IdentityCeremonyKind) (endpoint : DeviceEndpoint) (resolution : IdentityResolution) : Bool :=
  match resolution with
  | .resolved _ => false
  | .unassociated reason _ => match kind with
    | .bleAssociation => endpoint.transport = .ble && reason = .absent
    | .foreignAdoption => isUsbTransport endpoint.transport && reason = .unknown
    | _ => isUsbTransport endpoint.transport && (reason = .absent || reason = .malformed)

/-- The endpoint a ceremony acts on: the hinted connection, or else the first that fits. -/
def presentedEndpoint (kind : IdentityCeremonyKind) (hint : Option DeviceEndpoint)
    (connections : List ResolvedConnection) : Option DeviceEndpoint :=
  let eligible (connection : ResolvedConnection) : Bool := connection.connected &&
    if kind = .initialEnrollment then isUsbTransport connection.endpoint.transport
    else matchesKind kind connection.endpoint connection.resolution
  let hinted := hint.bind fun hint => connections.find? fun connection => eligible connection && connection.endpoint = hint
  (hinted.or (connections.find? eligible)).map (·.endpoint)

/-- A scan for the mouse the user presents. -/
def selectPresentedEndpoint (kind : IdentityCeremonyKind) (worker : CeremonyWorker) :
    Manager (Option DeviceEndpoint × CeremonyWorker) := do
  let view ← discover .auto
  return (presentedEndpoint kind worker.hint view.connections, { worker with discovered := view.devices })

/-- The kind whose connection an action presents. -/
def presentedKind (worker : CeremonyWorker) (action : IdentityCeremonyAction) : IdentityCeremonyKind :=
  if action = .associate then .bleAssociation else worker.kind.getD .addMouse

/-- The target an action is given: the command's own, or else the remembered one. -/
def actionTarget (worker : CeremonyWorker) (target : Option DeviceId) : Option DeviceId := target.or worker.target

end AttackSharkX3
