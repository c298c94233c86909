import AttackSharkX3.Surface
import AttackSharkX3.Worker
/-!
# Commands — what an answer about an unknown mouse sets off

The answer names a question of the last scan and one of its candidates.  The worker turns it into a decision about the
endpoint, and a decision that attaches nothing into a ceremony.  Each command is handled anew, on what the worker remembers.
-/
namespace AttackSharkX3

open Effects (Fallible)

/-- An unassociated connection, as the worker lists it. -/
structure UnassociatedEntry where
  endpoint : DeviceEndpoint
  resolution : IdentityResolution
deriving DecidableEq

def entriesFromConnections (connections : List ResolvedConnection) : List UnassociatedEntry :=
  connections.filterMap fun connection => match connection.resolution with
    | .resolved _ => none
    | resolution => some ⟨connection.endpoint, resolution⟩

/-- **What the worker remembers** of the last scan, and of the running ceremony. -/
structure WorkerState where
  ceremony : CeremonyWorker
  mode : IdentityMode
  unassociated : List UnassociatedEntry
  pendingEndpoints : List (DeviceEndpoint × PendingEndpoint)
deriving DecidableEq

/-- The worker's memory after a scan and its questions. -/
def WorkerState.scanned (worker : WorkerState) (view : DiscoveryView) (resolution : ScanResolution) : WorkerState where
  ceremony := { worker.ceremony with discovered := view.devices }
  mode := view.mode
  unassociated := entriesFromConnections view.connections
  pendingEndpoints := resolution.pending

inductive Command where
  | refresh
  | beginCeremony (kind : IdentityCeremonyKind) (target : Option DeviceId) (subject : Option Nat)
  | decideEndpoint (endpoint : DeviceEndpoint) (device : Option DeviceId)
  | decidePendingEndpoint (endpoint : Nat) (candidate : Int)
deriving DecidableEq

inductive UiEvent where
  | busy (text : String)
  | operationError (text : String)
  | autoAttached (keepStored : Bool)
  | ceremony (event : CeremonyEvent)
deriving DecidableEq

/-- A call of the manager that an answer comes down to, with what the manager answered. -/
inductive Asked where
  | began (kind : IdentityCeremonyKind) (target : Option DeviceId) (answer : Except ManagerError IdentityCeremonyProgress)
  | remembered (endpoint : DeviceEndpoint) (device : DeviceId) (answer : Except ManagerError Unit)

/-- **What handling a command comes to**: the worker's memory, what it emits, the command that is pending, and the manager's
answers. -/
structure Handled where
  worker : WorkerState
  events : List UiEvent
  pending : Option Command := none
  asked : List Asked := []

def LIST_CHANGED : String := "the mouse list changed; press Refresh and try again"

/-- Nothing is done but for the error. -/
def WorkerState.refuses (worker : WorkerState) : Handled := ⟨worker, [.operationError LIST_CHANGED], none, []⟩

/-- The unassociated row of an endpoint. -/
def WorkerState.subjectOf (worker : WorkerState) (endpoint : DeviceEndpoint) : Option Nat :=
  worker.unassociated.findIdx? fun entry => entry.endpoint = endpoint

/-- The token that the question about an endpoint came with. -/
def WorkerState.presentedToken (worker : WorkerState) (endpoint : DeviceEndpoint) : Option PhysicalId :=
  (worker.pendingEndpoints.find? fun entry => entry.1 = endpoint).bind (·.2.presentedToken)

namespace WorkerState

/-- **An answer**, by its place among the questions and the candidates; a negative candidate sets up a new mouse. -/
def decidePendingEndpoint (worker : WorkerState) (endpoint : Nat) (candidate : Int) : Handled :=
  match worker.pendingEndpoints[endpoint]? with
  | none => worker.refuses
  | some (handle, row) =>
    if candidate < 0 then { worker, events := [], pending := some (.decideEndpoint handle none) }
    else match row.candidates[candidate.toNat]? with
      | none => worker.refuses
      | some pick => match DeviceId.new pick.identity with
        | .error _ => worker.refuses
        | .ok id => { worker, events := [], pending := some (.decideEndpoint handle (some id)) }

/-- A ceremony for the unassociated row of the endpoint. -/
def beginFor (worker : WorkerState) (endpoint : DeviceEndpoint) (kind : IdentityCeremonyKind) : Handled :=
  match worker.subjectOf endpoint with
  | none => worker.refuses
  | some subject => { worker, events := [], pending := some (.beginCeremony kind none (some subject)) }

/-- The ceremony that sets up the endpoint's mouse as a new one. -/
def newMouseKind (worker : WorkerState) (endpoint : DeviceEndpoint) : IdentityCeremonyKind :=
  if endpoint.transport = .ble then .bleAssociation
  else if (worker.presentedToken endpoint).isSome then .foreignAdoption
  else if worker.mode = .legacy then .initialEnrollment
  else .addMouse

/-- The decision to attach the endpoint to a saved mouse.  A token that is not the mouse's own is adopted instead. -/
def decideFor (worker : WorkerState) (endpoint : DeviceEndpoint) (id : DeviceId) : Manager Handled := do
  let adoptInstead ← (match worker.presentedToken endpoint with
    | some token => return (← devicePhysicalId id) ≠ some token
    | none => return false : Manager Bool)
  if adoptInstead then return worker.beginFor endpoint .foreignAdoption
  else do
    let answer ← Manager.attempt (rememberResolution endpoint id)
    match answer with
    | .error error =>
      return { worker, events := [.operationError (formatErrorString "could not attach the mouse" error)]
               asked := [.remembered endpoint id (.error error)] }
    | .ok () => do
      let keepStored ← hasEvidence id
      return { worker, events := [.autoAttached keepStored], pending := some .refresh
               asked := [.remembered endpoint id (.ok ())] }

/-- **A decision about an endpoint.** -/
def decideEndpoint (worker : WorkerState) (endpoint : DeviceEndpoint) : Option DeviceId → Manager Handled
  | some id => worker.decideFor endpoint id
  | none => return worker.beginFor endpoint (worker.newMouseKind endpoint)

/-- The kind the manager is asked for: the first further mouse of an installation is enrolled. -/
def ceremonyKind (worker : WorkerState) (kind : IdentityCeremonyKind) : IdentityCeremonyKind :=
  if kind = .addMouse ∧ worker.mode = .legacy then .initialEnrollment else kind

variable [Crc32fast]

/-- The ceremony itself, with the memory of it. -/
def begin (worker : WorkerState) (kind : IdentityCeremonyKind) (target : Option DeviceId)
    (hint : Option DeviceEndpoint) : Manager Handled := do
  let kind := worker.ceremonyKind kind
  let remembered : CeremonyWorker := { worker.ceremony with kind := some kind, target, hint }
  let answer ← Manager.attempt (beginIdentityCeremony kind target)
  let (ceremony, event) ← (match answer with
    | .ok progress => do
      let (ceremony, event) ← handleCeremonyProgress remembered progress
      return (ceremony, some event)
    | .error (.identitySetupInProgress _) => emitCurrentCeremony remembered
    | .error error =>
      return (remembered.forget, some (.error (formatErrorString "could not start setup" error))) :
      Manager (CeremonyWorker × Option CeremonyEvent))
  return { worker := { worker with ceremony }, events := .busy "starting setup…" :: event.toList.map .ceremony
           asked := [.began kind target answer] }

/-- **A ceremony begun**, for the mouse of a row where there is one. -/
def beginCeremony (worker : WorkerState) (kind : IdentityCeremonyKind) (target : Option DeviceId) (subject : Option Nat) :
    Manager Handled :=
  match subject with
  | none => worker.begin kind target worker.ceremony.hint
  | some index => match worker.unassociated[index]? with
    | none => return { worker, events := [.ceremony (.error LIST_CHANGED)] }
    | some entry => worker.begin kind target (some entry.endpoint)

/-- **One command.** -/
def handle (worker : WorkerState) : Command → Manager Handled
  | .refresh => return { worker, events := [], pending := some .refresh }
  | .beginCeremony kind target subject => worker.beginCeremony kind target subject
  | .decideEndpoint endpoint device => worker.decideEndpoint endpoint device
  | .decidePendingEndpoint endpoint candidate => return worker.decidePendingEndpoint endpoint candidate

/-- A command and those it leaves pending, up to the next scan. -/
def pursue (worker : WorkerState) : Nat → Command → Manager Handled
  | 0, command => return { worker, events := [], pending := some command }
  | n + 1, command => do
    let first ← worker.handle command
    match first.pending with
    | none | some .refresh => return first
    | some next => do
      let rest ← first.worker.pursue n next
      return { rest with events := first.events ++ rest.events, asked := first.asked ++ rest.asked }

/-- **What an answer sets off**: the answer, the decision and the ceremony are the longest chain there is. -/
def answer (worker : WorkerState) (endpoint : Nat) (candidate : Int) : Manager Handled :=
  worker.pursue 3 (.decidePendingEndpoint endpoint candidate)

end WorkerState
end AttackSharkX3
