import AttackSharkX3.Open
/-!
# Discover — a scan of the connections

A scan lists the connections, reads the watermarks the cache lacks, resolves each connection, attaches a sole unknown one
where it may, and stores the associations of the mice it saw.  Legacy mode reads no watermark and has one mouse.
-/
namespace AttackSharkX3

open Effects (Fallible)

variable [Crc32fast]

/-- The listed connections whose watermark the cache does not have. -/
def unreadEndpoints (cache : IdentityCache) (discovered : List DiscoveredEndpoint) : List DeviceEndpoint :=
  (discovered.filter fun disc => disc.authenticates && (cache.lookup disc.endpoint).isNone).map (·.endpoint)

/-- Reads and caches each watermark. -/
def readIdentities : List DeviceEndpoint → Manager Unit
  | [] => pure ()
  | endpoint :: rest => do
    let decode ← readEndpointIdentity endpoint
    Manager.cacheInsert endpoint decode
    readIdentities rest

/-- **The watermarks of a scan**: the missing ones are read, and those of connections not seen are dropped. -/
def authenticateScan (discovered : List DiscoveredEndpoint) : Manager Unit := do
  let cache ← Manager.cached
  readIdentities (unreadEndpoints cache discovered)
  Manager.cacheRetain discovered

/-- What the scan knows of a connection's watermark. -/
def scanDecode (mode : IdentityMode) (identities : IdentityCache) (disc : DiscoveredEndpoint) : Option WatermarkDecode :=
  if mode = .persistent ∧ disc.authenticates then identities.lookup disc.endpoint else none

/-- **Every connection resolved by what it presents**, same-scan duplicates folded. -/
def resolveScanRows (mode : IdentityMode) (identities : IdentityCache) (state : StateFile)
    (discovered : List DiscoveredEndpoint) : List ResolvedConnection :=
  let legacyId := if mode = .legacy then state.devices.values.head?.map (·.identity.id) else none
  markScanDuplicates <| discovered.map fun disc => {
    endpoint := disc.endpoint
    connected := disc.connected
    resolution := resolveConnection state.devices state.identitySetup legacyId disc.endpoint
      (scanDecode mode identities disc) }

/-- Stores each attachment, one transaction at a time. -/
def attachAll : List (DeviceEndpoint × DeviceId) → Manager Unit
  | [] => pure ()
  | (endpoint, device) :: rest => do
    let now ← Manager.now
    Manager.commit (.attachSilently endpoint device now)
    attachAll rest

/-- **The unknown connections resolved without asking**, stored first. -/
def autoResolveUnknowns (rows : List ResolvedConnection) : Manager (List ResolvedConnection) := do
  let state ← Manager.load
  let silent := silentAttachments state rows
  if silent.isEmpty then return rows
  else
    attachAll silent
    let state ← Manager.load
    return reresolve state rows

def syncEndpointAssociations (rows : List ResolvedConnection) (selection : TransportSelection) : Manager Unit :=
  if rows.any fun row => !(row.resolution matches .unassociated ..) then
    Manager.commit (.syncEndpointAssociations rows selection)
  else pure ()

/-- Legacy mode's one mouse, made on the first scan that sees a connection. -/
def ensureLegacyMouse (mode : IdentityMode) (discovered : List DiscoveredEndpoint) : Manager Unit :=
  if mode = .legacy ∧ discovered ≠ [] then Manager.commit (.ensureLegacyMouse discovered) else pure ()

/-- **A scan.** -/
def discover (selection : TransportSelection) : Manager DiscoveryView := do
  let discovered ← Manager.list selection
  let before ← Manager.load
  let mode := before.identityMode
  ensureLegacyMouse mode discovered
  (if mode = .persistent then authenticateScan discovered else pure () : Manager Unit)
  let identities ← Manager.cached
  let state ← Manager.load
  let rows := resolveScanRows mode identities state discovered
  let rows ← (if mode = .persistent then autoResolveUnknowns rows else pure rows : Manager (List ResolvedConnection))
  syncEndpointAssociations rows selection
  let state ← Manager.load
  return ⟨mode, aggregateDiscoveredDevices state rows, rows⟩

/-- The endpoint remembered for the mouse, as a user or a frontend decided. -/
def rememberResolution (endpoint : DeviceEndpoint) (device : DeviceId) : Manager Unit := do
  let now ← Manager.now
  Manager.commit (.rememberResolution endpoint device now)

end AttackSharkX3
