import AttackSharkX3.Capture
/-!
# Open — the session an ordinary operation works on

`openLocked` takes the mouse's operation lock, refuses a mouse a ceremony is about, opens its selected endpoint and, on
USB, checks that the watermark there is the mouse's own.  The watermark is read at most once for each cached endpoint.
-/
namespace AttackSharkX3

open Effects (Fallible)

variable [Crc32fast]

/-- The current profile and what its tail decodes to. -/
def currentWatermark (session : Session) : Manager (ProfileId × WatermarkDecode) := do
  let metadata ← session.readProfileMetadata
  let dpi ← session.readDpi metadata.current
  return (metadata.current, decodeWatermark dpi.preservedTail.toList)

/-- The watermark of an endpoint discovery opens for it; a transport that reads none has none. -/
def readEndpointIdentity (endpoint : DeviceEndpoint) : Manager WatermarkDecode := do
  let session ← Manager.open_ endpoint
  match ← Manager.attempt (currentWatermark session) with
  | .ok (_, decode) => return decode
  | .error (.unsupportedOperation ..) => return .absent
  | .error e => throw e

/-- The watermark of an open attachment, from the cache when it has this endpoint's. -/
def authenticateAttachment (endpoint : DeviceEndpoint) (session : Session) : Manager WatermarkDecode := do
  let cache ← Manager.cached
  match cache.lookup endpoint with
  | some decode => return decode
  | none => do
    let (_, decode) ← currentWatermark session
    Manager.cacheInsert endpoint decode
    return decode

/-- What is wrong with the watermark of an attachment. -/
def attachmentDetail : WatermarkDecode → String
  | .valid other => s!"watermark {other.debug} does not match this logical mouse"
  | .absent => "no watermark present; the physical identity is lost and must be restored"
  | .malformed => "watermark marker is malformed; the device is not authenticated"
  | .unsupportedVersion version => s!"unsupported watermark version {version}"

/-- Refuses a mouse the running ceremony is about. -/
def refuseInvolved (journal : Option IdentitySetupJournal) (device : DeviceId) : Manager Unit :=
  match journal with
  | some journal =>
    Fallible.ensure (journalBlocksDevice journal device = false) (.deviceInvolvedInSetup device journal.phase)
  | none => pure ()

/-- The watermark gate of a USB attachment: it passes only the mouse's own token. -/
def gateAttachment (device : DeviceId) (physicalId : Option PhysicalId) (endpoint : DeviceEndpoint) (session : Session) :
    Manager Unit :=
  match physicalId, isUsbTransport endpoint.transport with
  | some physicalId, true => do
    let decode ← authenticateAttachment endpoint session
    Fallible.ensure (decode = .valid physicalId)
      (.attachmentNotAuthenticated device endpoint (attachmentDetail decode))
  | _, _ => pure ()

/-- **The identity and session of an operation on the mouse**, authenticated where the transport allows it. -/
def openLocked (device : DeviceId) (operation : String) : Manager (DeviceIdentity × Session) := do
  Manager.acquireOperationLock device operation
  let state ← Manager.load
  refuseInvolved state.identitySetup device
  let deviceState ← Fallible.ofOption (.deviceNotFound device) state.devices[device]?
  let endpoint ← Fallible.ofOption (.deviceNotFound device) deviceState.identity.selectedEndpoint
  let session ← Manager.open_ endpoint
  gateAttachment device deviceState.identity.physicalId endpoint session
  return (deviceState.identity, session)

end AttackSharkX3
