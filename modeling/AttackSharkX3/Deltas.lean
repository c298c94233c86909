import AttackSharkX3.Update
/-!
# Deltas — updates of preferences and buttons

A sparse update is merged into a complete baseline, as a sparse DPI update is, sent over one session and recorded.
-/
namespace AttackSharkX3

open Effects (Fallible)

/-- Sends a preferences image and records it. -/
def writePreferencesWithSession (device : DeviceId) (profile : ProfileId) (desired : PreferencesState)
    (verification : VerificationMethod) (session : Session) : Manager (WriteOutcome PreferencesState) := do
  let write ← session.writePreferences desired verification
  let now ← Manager.now
  let outcome ← Manager.commit (.persistPreferences device profile desired write now)
  Fallible.ofExcept id (finishWrite outcome "preferences" profile)

/-- Sends a button table and records it under the profile it names. -/
def writeButtonsWithSession (device : DeviceId) (session : Session) (requested : ButtonsState)
    (verification : VerificationMethod) : Manager (WriteOutcome ButtonsState) := do
  let result ← session.writeButtons requested verification
  let now ← Manager.now
  let outcome ← Manager.commit (.persistButtons device requested.profile requested result now)
  Fallible.ofExcept id (finishWrite outcome "buttons" requested.profile)

variable [Crc32fast]

def hasPreferencesBaseline (state : StateFile) (device : DeviceId) (profile : ProfileId) : Bool :=
  (state.resource .preferences device profile).any (·.hasEvidence)

/-- **Writes a complete preferences image.** -/
def updatePreferences (device : DeviceId) (profile : ProfileId) (desired : PreferencesState) (policy : UpdatePolicy) :
    Manager (WriteOutcome PreferencesState) := do
  Fallible.ensure (desired.profile = profile)
    (.invalidUpdate "preferences state profile does not match requested profile")
  let (_, session) ← openLocked device "update_preferences"
  if session.transport = .ble ∧ policy.allowExplicitDefaults = false then do
    let state ← Manager.load
    Fallible.ensure (hasPreferencesBaseline state device profile) (.missingBaseline "preferences" (some profile))
  writePreferencesWithSession device profile desired policy.verification session

/-- **Applies a sparse preferences update.** -/
def updatePreferencesDelta (device : DeviceId) (profile : ProfileId) (delta : PreferencesDelta) (policy : UpdatePolicy) :
    Manager (WriteOutcome PreferencesState) := do
  Fallible.ensure (delta.isEmpty = false) (.invalidUpdate "preferences delta must provide at least one field")
  let (_, session) ← openLocked device "update_preferences_delta"
  let baseline ← resolveBaseline session.transport policy (loadStoredPreferencesBaseline device profile)
    (session.readPreferences profile)
  writePreferencesWithSession device profile (mergePreferencesDelta baseline delta) policy.verification session

/-- **Updates one button slot** of a complete table. -/
def updateButtonSlot (device : DeviceId) (profile : ProfileId) (delta : ButtonSlotDelta) (policy : UpdatePolicy) :
    Manager (WriteOutcome ButtonsState) := do
  let (_, session) ← openLocked device "update_button_slot"
  let baseline ← resolveBaseline session.transport policy (loadStoredButtonsBaseline device profile)
    (session.readButtons profile)
  writeButtonsWithSession device session (baseline.assign delta) policy.verification

end AttackSharkX3
