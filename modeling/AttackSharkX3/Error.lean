import AttackSharkX3.Operation
/-!
# Error — the errors of the manager's calls

Each error carries what it is about; `display` is the text a user reads.
-/
namespace AttackSharkX3

/-- `{:?}` of an option. -/
def debugOption {α : Type} (show_ : α → String) : Option α → String
  | none => "None"
  | some a => s!"Some({show_ a})"

def DeviceEndpoint.debug (endpoint : DeviceEndpoint) : String :=
  "DeviceEndpoint \x7b transport: " ++ endpoint.transport.debug ++
    ", vendor_id: " ++ debugOption (fun n => toString n.toNat) endpoint.vendorId ++
    ", product_id: " ++ debugOption (fun n => toString n.toNat) endpoint.productId ++
    ", serial_number: " ++ debugOption debugString endpoint.serialNumber ++
    ", locator: " ++ endpoint.locator.debug ++
    ", display_name: " ++ debugOption debugString endpoint.displayName ++ " \x7d"

def ProfileId.debug (profile : ProfileId) : String := s!"ProfileId({profile.get})"

def WatermarkDecode.debug : WatermarkDecode → String
  | absent => "Absent"
  | malformed => "Malformed"
  | unsupportedVersion version => "UnsupportedVersion \x7b version: " ++ toString version ++ " \x7d"
  | valid id => s!"Valid({id.debug})"

def IdentitySetupPhase.debug : IdentitySetupPhase → String
  | initialEnrollment => "InitialEnrollment"
  | addMouse => "AddMouse"
  | restore => "Restore"
  | foreignAdoption => "ForeignAdoption"
  | bleAssociation => "BleAssociation"

def IdentitySetupStage.debug : IdentitySetupStage → String
  | awaitingCapture => "AwaitingCapture"
  | stamping => "Stamping"
  | finalizing => "Finalizing"

def IdentityCeremonyKind.debug : IdentityCeremonyKind → String
  | initialEnrollment => "InitialEnrollment"
  | addMouse => "AddMouse"
  | restore => "Restore"
  | foreignAdoption => "ForeignAdoption"
  | bleAssociation => "BleAssociation"

def IdentityCeremonyAction.debug : IdentityCeremonyAction → String
  | begin kind => s!"Begin({kind.debug})"
  | reconnected => "Reconnected"
  | capture => "Capture"
  | stamp => "Stamp"
  | adopt => "Adopt"
  | associate => "Associate"
  | acceptMigration => "AcceptMigration"
  | skipMigration => "SkipMigration"
  | cancel => "Cancel"

def StateError.display : StateError → String
  | statePathUnavailable reason => s!"unable to determine a base path for manager state: {reason}"
  | io path source => s!"I/O error at {path}: {source}"
  | serde source => s!"invalid state JSON: {source}"
  | lockBusy path => s!"manager state is locked by another process at {path}"
  | unsupportedSchema found expected => s!"unsupported local-data format/version {found}; expected {expected}"
  | invalidState detail => s!"invalid manager state: {detail}"

/-- **The errors of the manager's calls.**  A transport's own error is carried as its text. -/
inductive ManagerError where
  | state (source : StateError)
  | driver (detail : String)
  | unsupportedOperation (operation : String) (transport : TransportKind)
  | explicitAuthorizationRequired (operation : String) (transport : TransportKind)
  | missingBaseline (resource : String) (profile : Option ProfileId)
  | deviceNotFound (device : DeviceId)
  | powerCycleDisappearanceTimeout (device : DeviceId) (timeout : String)
  | powerCycleReappearanceTimeout (device : DeviceId) (timeout : String)
  | noAlternateProfile (target maximum : ProfileId)
  | verificationMismatch (resource : String) (profile : Option ProfileId)
  | refreshRestorationFailed (restore : String)
  | refreshRestoreFailed (refresh restore : String)
  | protocol (operation : String) (source : ProtocolError)
  | invalidUpdate (detail : String)
  | deviceOperationBusy (device : DeviceId) (operation timeout path : String)
  | identitySetupInProgress (phase : IdentitySetupPhase)
  | noIdentityCeremony
  | invalidCeremonyAction (action : IdentityCeremonyAction) (phase : IdentitySetupPhase) (stage : IdentitySetupStage)
  | identityCeremonyRefused (phase : IdentitySetupPhase) (reason detail : String)
  | intactIdentityMarker (endpoint : DeviceEndpoint) (detail : String)
  | deviceInvolvedInSetup (device : DeviceId) (phase : IdentitySetupPhase)
  | tokenGeneration (source : String)
  | reservedPhysicalId (physicalId : PhysicalId)
  | attachmentNotAuthenticated (device : DeviceId) (endpoint : DeviceEndpoint) (detail : String)
deriving DecidableEq

def ManagerError.display : ManagerError → String
  | state source => source.display
  | driver detail => detail
  | unsupportedOperation operation transport => s!"{operation} isn't supported over {transport.debug}"
  | explicitAuthorizationRequired operation transport => s!"{operation} on {transport.debug} needs your permission"
  | missingBaseline resource profile => s!"no saved {resource} for profile {debugOption ProfileId.debug profile}"
  | deviceNotFound device => s!"device not found: {device}"
  | powerCycleDisappearanceTimeout device timeout =>
    s!"timed out waiting for USB device {device} to disconnect during the power-cycle check after {timeout}"
  | powerCycleReappearanceTimeout device timeout =>
    s!"timed out waiting for USB device {device} to reconnect during the power-cycle check after {timeout}"
  | noAlternateProfile target maximum =>
    s!"no alternate profile available for target {target.get} (maximum {maximum.get})"
  | verificationMismatch resource profile =>
    s!"confirmation mismatch for {resource} on profile {debugOption ProfileId.debug profile}"
  | refreshRestorationFailed restore =>
    s!"read the profiles, but couldn't restore the original setup ({restore}); the mouse may be left on a different profile or with extra profiles enabled"
  | refreshRestoreFailed refresh restore =>
    s!"reading the profiles failed ({refresh}); restoring the original setup also failed ({restore}); the mouse may be left on a different profile or with extra profiles enabled"
  | protocol operation _ => s!"invalid update for {operation}"
  | invalidUpdate detail => s!"invalid update: {detail}"
  | deviceOperationBusy device operation timeout path =>
    s!"device {device} is busy: operation {operation} timed out after {timeout} waiting for lock at {path}"
  | identitySetupInProgress phase =>
    s!"an identity setup is already in progress ({phase.debug}); resume or cancel it first"
  | noIdentityCeremony => "no identity ceremony is in progress; begin one first"
  | invalidCeremonyAction action phase stage =>
    s!"identity ceremony action {action.debug} is not valid while {phase.debug} is at {stage.debug}"
  | identityCeremonyRefused phase _ detail => s!"identity ceremony {phase.debug} refused: {detail}"
  | intactIdentityMarker endpoint detail =>
    s!"identity marker on {endpoint.debug} must not be overwritten: {detail}"
  | deviceInvolvedInSetup device phase =>
    s!"device {device} is involved in the in-progress identity setup ({phase.debug}); ordinary operations are blocked until it completes or is cancelled"
  | tokenGeneration source => s!"failed to generate a random physical identity token: {source}"
  | reservedPhysicalId physicalId => s!"token {physicalId.debug} is reserved and never assignable to a device"
  | attachmentNotAuthenticated device endpoint detail =>
    s!"endpoint {endpoint.debug} is not authenticated as {device}: {detail}"

end AttackSharkX3
