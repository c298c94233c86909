import AttackSharkX3.Effects.Fallible
import AttackSharkX3.Store
/-!
# Backend — what the manager asks of the world

The manager's calls are programs over `Backend`: the durable store, the operation locks, one manager's own identity
cache, the transports and their sessions, the clock and the random source.  `MouseHandle` and `BleHandle` are behind
`SessionCall`: a session answers each call with a value or an error.
-/
namespace AttackSharkX3

open Effects (Prog Fallible)

/-- A USB connection's place: the transport and what opens it. -/
structure AttachmentKey where
  transport : TransportKind
  locator : DeviceLocator
deriving DecidableEq

def DeviceEndpoint.key (endpoint : DeviceEndpoint) : AttachmentKey := ⟨endpoint.transport, endpoint.locator⟩

/-- **The watermarks a manager has read**, each with the endpoint object it was read from. -/
abbrev IdentityCache := AttachmentKey → Option (WatermarkDecode × DeviceEndpoint)

/-- The entry of the endpoint's place, if it was made for this endpoint object. -/
def IdentityCache.lookup (cache : IdentityCache) (endpoint : DeviceEndpoint) : Option WatermarkDecode :=
  ((cache endpoint.key).filter fun entry => entry.2 = endpoint).map (·.1)

/-- A listed connection whose watermark discovery reads. -/
def DiscoveredEndpoint.authenticates (disc : DiscoveredEndpoint) : Bool :=
  disc.connected && isUsbTransport disc.endpoint.transport

/-- The entries a scan keeps: those of a listed connection whose endpoint object it saw again. -/
def IdentityCache.retain (cache : IdentityCache) (discovered : List DiscoveredEndpoint) : IdentityCache := fun key =>
  (cache key).filter fun entry =>
    (discovered.any fun disc => disc.authenticates && disc.endpoint.key = key) &&
      discovered.any fun disc => disc.connected && disc.endpoint = entry.2

/-- **The calls of a device session.** -/
inductive SessionCall where
  | readProfileMetadata
  | readProfile (profile : ProfileId)
  | readDpi (profile : ProfileId)
  | readPreferences (profile : ProfileId)
  | readButtons (profile : ProfileId)
  | readLivePollingRate (alias_ : ProfileId)
  | readBattery
  | writeDpi (state : DpiState) (verification : VerificationMethod)
  | writePreferences (state : PreferencesState) (verification : VerificationMethod)
  | writeButtons (state : ButtonsState) (verification : VerificationMethod)
  | writePollingRateUnchecked (profile : ProfileId) (rate : PollingRate) (verification : VerificationMethod)
  | writeProfileMetadata (metadata : ProfileMetadata)
deriving DecidableEq

/-- What a session answers when it does not fail. -/
def SessionCall.Value : SessionCall → Type
  | readProfileMetadata => ProfileMetadata
  | readProfile _ => ProfileSnapshot
  | readDpi _ => DpiState
  | readPreferences _ => PreferencesState
  | readButtons _ => ButtonsState
  | readLivePollingRate _ => PollingRate
  | readBattery => UInt8
  | writeDpi .. => SessionWrite DpiState
  | writePreferences .. => SessionWrite PreferencesState
  | writeButtons .. => SessionWrite ButtonsState
  | writePollingRateUnchecked .. => SessionWrite PollingRate
  | writeProfileMetadata _ => SessionWrite ProfileMetadata

/-- **The operations of the manager's calls.** -/
inductive Op where
  | load
  | commit (txn : Txn)
  | acquire (device : DeviceId) (operation : String)
  | cached
  | cacheInsert (endpoint : DeviceEndpoint) (decode : WatermarkDecode)
  | cacheRetain (discovered : List DiscoveredEndpoint)
  | list (selection : TransportSelection)
  | open_ (endpoint : DeviceEndpoint)
  | session (endpoint : DeviceEndpoint) (call : SessionCall)
  | now
  | random
  /-- An `expect` or `unreachable!` that failed: it has no answer. -/
  | abort (site : String)
deriving DecidableEq

/-- The answers of each operation. -/
def Op.Res : Op → Type
  | load => Except StateError StateFile
  | commit txn => Except StateError (Except ManagerError txn.Out)
  | acquire .. => Except ManagerError Unit
  | cached => IdentityCache
  | cacheInsert .. | cacheRetain _ => Unit
  | list _ => Except ManagerError (List DiscoveredEndpoint)
  | open_ _ => Except ManagerError Unit
  | session _ call => Except ManagerError call.Value
  | now => Timestamp
  | random => Except String (Bytes 16)
  | abort _ => Empty

/-- A failed assertion. -/
def Op.asserts : Op → Bool
  | .abort _ => true
  | _ => false

/-- **The interface the manager is written against.** -/
abbrev Backend : Effects.Sig := ⟨Op, Op.Res⟩

/-- **A call of the manager**: operations, and an error that ends it. -/
abbrev Manager (α : Type) : Type := Fallible Backend ManagerError α

/-- An open session; the guard of the session lives as long as the call. -/
structure Session where
  endpoint : DeviceEndpoint
deriving DecidableEq

def Session.transport (session : Session) : TransportKind := session.endpoint.transport

namespace Manager

variable {α : Type}

def load : Manager StateFile := Fallible.perform (S := Backend) Op.load fun r : Except StateError StateFile => r.mapError .state

/-- A transaction: the store's error first, then the closure's own. -/
def commit (t : Txn) : Manager t.Out :=
  Fallible.perform (S := Backend) (Op.commit t) fun r : Except StateError (Except ManagerError t.Out) =>
    match r with
    | .ok answer => answer
    | .error e => .error (.state e)

def acquireOperationLock (device : DeviceId) (operation : String) : Manager Unit :=
  Fallible.perform (S := Backend) (Op.acquire device operation) fun r : Except ManagerError Unit => r

def cached : Manager IdentityCache := Fallible.perform (S := Backend) Op.cached fun c : IdentityCache => .ok c

def cacheInsert (endpoint : DeviceEndpoint) (decode : WatermarkDecode) : Manager Unit :=
  Fallible.perform (S := Backend) (Op.cacheInsert endpoint decode) fun _ : Unit => .ok ()

def cacheRetain (discovered : List DiscoveredEndpoint) : Manager Unit :=
  Fallible.perform (S := Backend) (Op.cacheRetain discovered) fun _ : Unit => .ok ()

def list (selection : TransportSelection) : Manager (List DiscoveredEndpoint) :=
  Fallible.perform (S := Backend) (Op.list selection) fun r : Except ManagerError (List DiscoveredEndpoint) => r

def open_ (endpoint : DeviceEndpoint) : Manager Session :=
  Fallible.perform (S := Backend) (Op.open_ endpoint) fun r : Except ManagerError Unit => r.map fun _ => ⟨endpoint⟩

def now : Manager Timestamp := Fallible.perform (S := Backend) Op.now fun t : Timestamp => .ok t

def random : Manager (Bytes 16) :=
  Fallible.perform (S := Backend) Op.random fun r : Except String (Bytes 16) => r.mapError .tokenGeneration

/-- A failed assertion. -/
def abort (site : String) : Manager α := Fallible.perform (S := Backend) (Op.abort site) fun e : Empty => e.elim

/-- `expect`. -/
def expect (site : String) : Option α → Manager α
  | some a => pure a
  | none => abort site

/-- The result of `x` as a value: its error does not end the call. -/
def attempt (x : Manager α) : Manager (Except ManagerError α) := Fallible.attempt x

end Manager

namespace Session

def call (session : Session) (c : SessionCall) : Manager c.Value :=
  Fallible.perform (S := Backend) (Op.session session.endpoint c) fun r : Except ManagerError c.Value => r

def readProfileMetadata (session : Session) : Manager ProfileMetadata := session.call .readProfileMetadata
def readProfile (session : Session) (profile : ProfileId) : Manager ProfileSnapshot := session.call (.readProfile profile)
def readDpi (session : Session) (profile : ProfileId) : Manager DpiState := session.call (.readDpi profile)
def readPreferences (session : Session) (profile : ProfileId) : Manager PreferencesState :=
  session.call (.readPreferences profile)
def readButtons (session : Session) (profile : ProfileId) : Manager ButtonsState := session.call (.readButtons profile)
def readLivePollingRate (session : Session) (alias_ : ProfileId) : Manager PollingRate :=
  session.call (.readLivePollingRate alias_)
def readBattery (session : Session) : Manager UInt8 := session.call .readBattery
def writeDpi (session : Session) (state : DpiState) (verification : VerificationMethod) : Manager (SessionWrite DpiState) :=
  session.call (.writeDpi state verification)
def writePreferences (session : Session) (state : PreferencesState) (verification : VerificationMethod) :
    Manager (SessionWrite PreferencesState) :=
  session.call (.writePreferences state verification)
def writeButtons (session : Session) (state : ButtonsState) (verification : VerificationMethod) :
    Manager (SessionWrite ButtonsState) :=
  session.call (.writeButtons state verification)
def writePollingRateUnchecked (session : Session) (profile : ProfileId) (rate : PollingRate)
    (verification : VerificationMethod) : Manager (SessionWrite PollingRate) :=
  session.call (.writePollingRateUnchecked profile rate verification)
def writeProfileMetadata (session : Session) (metadata : ProfileMetadata) : Manager (SessionWrite ProfileMetadata) :=
  session.call (.writeProfileMetadata metadata)

end Session
end AttackSharkX3
