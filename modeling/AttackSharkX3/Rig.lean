import AttackSharkX3.Effects.Play
import AttackSharkX3.Bench
import AttackSharkX3.Mice
import AttackSharkX3.Solo
/-!
# Rig — one way a run goes

A rig plays the machine of the mice: the store takes every valid transaction, every attached mouse answers, each scan
lists the same connections, and each client draws one token.  The runs made with rigs show what a condition leaves out,
and that it leaves something.
-/
namespace AttackSharkX3

open Effects.Machine (Config Player Reaches Step Turn)

/-- CRC-32, bit by bit: `crc32fast::hash`. -/
def crc32 (bytes : List UInt8) : UInt32 :=
  ~~~ bytes.foldl (fun crc b =>
    (List.range 8).foldl (fun c _ => if c &&& 1 = 1 then (c >>> 1) ^^^ 0xedb88320 else c >>> 1) (crc ^^^ b.toUInt32))
    0xffffffff

/-- What a rig leaves open. -/
structure Rig (ι : Type) where
  listed : List DiscoveredEndpoint
  random : ι → Bytes 16
  now : Timestamp

namespace Rig

variable {U ι μ : Type} [DecidableEq U] [DecidableEq ι] [DecidableEq μ] {owner : ι → μ}

/-- The answer of the attached mouse. -/
def session (s : Mice U) (u : U) : (call : SessionCall) → Except ManagerError call.Value × Mice U
  | .readProfileMetadata => (.ok (s.mouse u).metadata, s)
  | .readDpi profile => (.ok ((s.mouse u).dpi profile), s)
  | .readProfile profile => (.ok ⟨(s.mouse u).metadata, profile, (s.mouse u).dpi profile,
      ⟨profile, 0, 0, 0, ⟨[0, 0, 0], rfl⟩, 0, 0⟩, ⟨profile, List.replicate BUTTON_SLOT_COUNT ⟨0, 0, 0⟩, rfl⟩⟩, s)
  | .readPreferences profile => (.ok ⟨profile, 0, 0, 0, ⟨[0, 0, 0], rfl⟩, 0, 0⟩, s)
  | .readButtons profile => (.ok ⟨profile, List.replicate BUTTON_SLOT_COUNT ⟨0, 0, 0⟩, rfl⟩, s)
  | .readLivePollingRate _ => (.ok PollingRate.hz1000, s)
  | .readBattery => (.error (.unsupportedOperation "read_battery" .wired), s)
  | .writeDpi image _ => (.ok (.readbackVerified image), s.writeDpi u image)
  | .writePreferences state _ => (.ok (.readbackVerified state), s)
  | .writeButtons state _ => (.ok (.readbackVerified state), s)
  | .writePollingRateUnchecked _ rate _ => (.ok (.readbackVerified rate), s)
  | .writeProfileMetadata metadata => (.ok (.readbackVerified metadata), s.writeMetadata u metadata)

/-- **The answer to an operation of client `i`**, if it has one. -/
def answer (rig : Rig ι) (m : μ) (w : World (mice U) ι μ) (i : ι) : (o : Op) → Option (o.Res × World (mice U) ι μ)
  | .load => some ((.ok w.store : Except StateError StateFile), w)
  | .commit t => some ((commitReliably t w.store).1, { w with store := (commitReliably t w.store).2 })
  | .acquire device _ =>
    if w.lock device = none then
      some ((.ok () : Except ManagerError Unit), { w with lock := Function.update w.lock device (some i) })
    else none
  | .cached => some (w.cache m, w)
  | .cacheInsert endpoint decode =>
    some ((), w.setCache m (Function.update (w.cache m) endpoint.key (some (decode, endpoint))))
  | .cacheRetain discovered => some ((), w.setCache m ((w.cache m).retain discovered))
  | .list selection => some ((.ok (rig.listed.filter fun disc => selection = .auto ∨
      selection = .exact disc.endpoint.transport) : Except ManagerError (List DiscoveredEndpoint)), w)
  | .open_ endpoint =>
    if (w.mice.attached endpoint.key).isSome then some ((.ok () : Except ManagerError Unit), w) else none
  | .session endpoint call => (w.mice.attached endpoint.key).map fun u =>
    ((session w.mice u call).1, { w with hardware := (session w.mice u call).2 })
  | .now => some (rig.now, w)
  | .random => some ((.ok (rig.random i) : Except String (Bytes 16)), w)
  | .abort _ => none

theorem session_answers {s : Mice U} {endpoint : DeviceEndpoint} {u : U} (h : s.attached endpoint.key = some u)
    (call : SessionCall) : s.answers endpoint call (session s u call).1 (session s u call).2 := by
  cases call with
  | readProfileMetadata | readDpi =>
    refine ⟨rfl, fun _ hr => ⟨u, h, ?_⟩⟩
    cases hr
    rfl
  | readProfile =>
    refine ⟨rfl, fun _ hr => ⟨u, h, ?_⟩⟩
    cases hr
    exact ⟨rfl, rfl⟩
  | writeDpi | writeProfileMetadata =>
    refine .inr ⟨u, h, rfl, fun _ hr => ?_⟩
    cases hr
    rfl
  | _ => rfl

omit [DecidableEq ι] in
theorem answer_effect (rig : Rig ι) {m : μ} {w w' : World (mice U) ι μ} {i : ι} {o : Op} {r : o.Res}
    (h : rig.answer m w i o = some (r, w')) : w.effect m i o r w' := by
  cases o with
  | load => cases h; exact ⟨.inl rfl, rfl⟩
  | commit t => cases h; exact ⟨_, commits_reliably t w.store, rfl⟩
  | acquire device operation =>
    rw [answer] at h
    split at h
    · next hfree => cases h; exact .inl ⟨rfl, hfree, rfl⟩
    · cases h
  | cached => cases h; exact ⟨rfl, rfl⟩
  | cacheInsert endpoint decode => cases h; rfl
  | cacheRetain discovered => cases h; rfl
  | list selection => cases h; exact ⟨w.hardware, rfl, rfl⟩
  | open_ endpoint =>
    rw [answer] at h
    split at h
    · next hsome => cases h; exact ⟨w.hardware, ⟨rfl, fun _ => hsome⟩, rfl⟩
    · cases h
  | session endpoint call =>
    obtain ⟨u, hu, heq⟩ := Option.map_eq_some_iff.1 h
    cases heq
    exact ⟨_, session_answers hu call, rfl⟩
  | now => cases h; rfl
  | random => cases h; rfl
  | abort site => cases h

/-- **The player of a rig.** -/
def player [Crc32fast] (rig : Rig ι) (owner : ι → μ) : Player (machine (mice U) owner) where
  answer w i o := rig.answer (owner i) w i o
  enter w _ _ := w
  leave w i _ := w.release i
  env w hand := { w with hardware := w.mice.after hand }
  answer_step h := rig.answer_effect h
  enter_step _ _ _ := rfl
  leave_step
    | _, _, some _ => rfl
    | _, _, none => .inl rfl
  env_step w hand := ⟨w.mice.after hand, rfl, rfl⟩

section Play

variable [Crc32fast]

/-- A run from `start` whose end passes a test, each of its moves checked. -/
theorem checked (rig : Rig ι) (owner : ι → μ) (start : World (mice U) ι μ)
    {ok : Config (machine (mice U) owner) → Effects.Move Backend ι Call Outcome (Hand U) → Prop}
    (check : Config (machine (mice U) owner) → Effects.Move Backend ι Call Outcome (Hand U) → Bool)
    (hok : ∀ c m, check c m = true → ok c m) (turns : List (Turn Backend ι Call (Hand U)))
    (test : Config (machine (mice U) owner) → Bool)
    (h : ((rig.player owner).play check turns (.idle start)).any test = true) :
    ∃ c, Reaches (machine (mice U) owner) ok (.idle start) c ∧ test c = true :=
  Player.played hok turns test h

/-- A run from `start` whose end passes a test. -/
theorem played (rig : Rig ι) (owner : ι → μ) (start : World (mice U) ι μ) (turns : List (Turn Backend ι Call (Hand U)))
    (test : Config (machine (mice U) owner) → Bool)
    (h : ((rig.player owner).play (fun _ _ => true) turns (.idle start)).any test = true) :
    ∃ c, Reaches (machine (mice U) owner) (fun _ _ => True) (.idle start) c ∧ test c = true :=
  rig.checked owner start _ (fun _ _ _ => trivial) turns test h

/-- A session of an attached mouse goes on. -/
theorem session_step (rig : Rig ι) {c : Config (machine (mice U) owner)} {i : ι} {endpoint : DeviceEndpoint}
    {call : SessionCall} (hn : c.next i = some (.session endpoint call))
    (ha : (c.world.mice.attached endpoint.key).isSome = true) :
    ∃ r c', Step (machine (mice U) owner) c (.op i (.session endpoint call) r) c' := by
  have hanswer : ((rig.player owner).answer c.world i (.session endpoint call)).isSome = true :=
    Option.isSome_map.trans ha
  exact (rig.player owner).next_step hn hanswer

/-- A commit goes on, and leaves what it leaves of the store. -/
theorem commit_step (rig : Rig ι) {c : Config (machine (mice U) owner)} {i : ι} {t : Txn}
    (hn : c.next i = some (.commit t)) :
    ∃ r c', Step (machine (mice U) owner) c (.op i (.commit t) r) c' ∧
      c'.world.store = (commitReliably t c.world.store).2 := by
  obtain ⟨k, hrun⟩ := Config.next_eq hn
  exact ⟨_, _, .op hrun ((rig.player owner).answer_step (o := .commit t) rfl), rfl⟩

end Play

/-! ## What a rig is set up with -/

scoped instance : Crc32fast := ⟨crc32⟩

def token (n : UInt8) : PhysicalId := ⟨⟨List.replicate 16 n, List.length_replicate⟩⟩

def wired (path : String) : DeviceEndpoint := ⟨.wired, some 0x1d57, some 0xfa61, none, .usbPath path, none⟩
def ble (id : String) : DeviceEndpoint := ⟨.ble, none, none, none, .blePlatformId id, none⟩

def mouse1 : DeviceId := ⟨"mouse-1", by decide⟩
def mouse2 : DeviceId := ⟨"mouse-2", by decide⟩

def first : ProfileId := .MIN_ID

/-- The watermark of a token, or a tail without one. -/
def tail (physicalId : Option PhysicalId) : Tail :=
  physicalId.elim ⟨List.replicate 25 0, List.length_replicate⟩ PhysicalId.toWatermarkBytes

def image (physicalId : Option PhysicalId) (profile : ProfileId) : DpiState :=
  ⟨profile, [⟨800, DpiValue.range_800⟩], ⟨1, StageIndex.one_range⟩, {}, tail physicalId⟩

/-- A mouse with a token, or none, on each profile. -/
def unit (carries : ProfileId → Option PhysicalId) : Mouse :=
  ⟨⟨first, .MAX_ID, by decide⟩, fun profile => image (carries profile) profile⟩

/-- The installation with these saved mice, each at one endpoint. -/
def saved (mice : List (DeviceId × PhysicalId × DeviceEndpoint)) : StateFile :=
  { StateFile.default with
    nextDeviceNumber := mice.length + 1
    devices := mice.foldl (fun devices (id, physicalId, endpoint) => devices.insert id
      (.new ({ DeviceIdentity.new id none with physicalId := some physicalId }.upsertEndpoint endpoint))) ∅
    identityMode := .persistent }

/-- A world in which nothing is cached or locked. -/
def world (store : StateFile) (mouse : U → Mouse) (attached : List (DeviceEndpoint × U)) : World (mice U) ι μ where
  store
  hardware := ⟨mouse, fun key => (attached.find? (·.1.key = key)).map (·.2)⟩
  cache _ _ := none
  lock _ := none

def addMouse : Call := .ceremony (.begin .addMouse) none none
def presentWired : Call := .ceremony .reconnected (some (wired "a")) none
def stamp : Call := .ceremony .stamp none none

/-- One client, no saved mouse, and a unit with these tokens on a cable. -/
def alone (carries : ProfileId → Option PhysicalId) : World (mice Unit) Unit Unit :=
  world (saved []) (fun _ => unit carries) [(wired "a", ())]

/-- The sole client draws the first token. -/
def drawingOne : Rig Unit := ⟨[], fun _ => (token 1).token, ⟨0⟩⟩

/-- The kinds of operations a turn runs up to. -/
def isSession : Op → Bool
  | .session .. => true
  | _ => false

def isCommit : Op → Bool
  | .commit _ => true
  | _ => false

def isOpen : Op → Bool
  | .open_ _ => true
  | _ => false

def finishesStamping : Op → Bool
  | .commit (.finishStamping ..) => true
  | _ => false

/-- The token of the mouse at hand. -/
def tokenAtHand (store : StateFile) : Option PhysicalId :=
  store.identitySetup.bind fun journal => journal.subjects.getLast?.bind (·.token)

def listing (endpoints : List DeviceEndpoint) : List DiscoveredEndpoint := endpoints.map (⟨·, true⟩)

/-! ## Sections on record -/

def fifth : ProfileId := .MAX_ID

/-- The plain preferences and buttons of every mouse. -/
def preferences (profile : ProfileId) : PreferencesState := ⟨profile, 0, 0, 0, ⟨[0, 0, 0], rfl⟩, 0, 0⟩
def buttons (profile : ProfileId) : ButtonsState := ⟨profile, List.replicate BUTTON_SLOT_COUNT ⟨0, 0, 0⟩, rfl⟩

/-- A value that was acknowledged. -/
def acknowledged {T : Type} (value : T) : ResourceState T := ResourceState.empty.recordAckWrite value .userWrite ⟨0⟩

/-- One saved mouse with these sections on record. -/
def holding (endpoint : DeviceEndpoint) (profileMetadata : ResourceState ProfileMetadata)
    (profiles : List (ProfileId × ProfileState)) : StateFile :=
  { saved [(mouse1, token 1, endpoint)] with
    devices := (∅ : BTreeMap DeviceId DeviceState).insert mouse1
      { DeviceState.new ({ DeviceIdentity.new mouse1 none with physicalId := some (token 1) }.upsertEndpoint endpoint) with
        profileMetadata
        profiles := profiles.foldl (fun profiles entry => profiles.insert entry.1 entry.2) ∅ } }

/-! ## A bench -/

/-- **The bench with these mice plugged in**, and nothing else. -/
def bench (plugged : List (DeviceEndpoint × Mouse)) : Bench where
  list selection := .ok ((listing (plugged.map (·.1))).filter fun disc => selection = .auto ∨
    selection = .exact disc.endpoint.transport)
  open_ endpoint := if plugged.any (·.1 = endpoint) then .ok () else .error (.driver "not attached")
  session endpoint call := match plugged.find? (·.1 = endpoint) with
    | some (_, mouse) => (session ⟨fun _ : Unit => mouse, fun _ => none⟩ () call).1
    | none => .error (.driver "not attached")
  now := ⟨0⟩
  random := .ok (token 1).token
  usbConnected selection listed h disc hdisc _ := by
    cases h
    obtain ⟨endpoint, -, rfl⟩ := List.mem_map.1 (List.mem_filter.1 hdisc).1
    rfl

/-- Where nothing is listed, nothing listed is unconnected. -/
theorem connected_of_nil : ∀ (selection : TransportSelection) (listed : List DiscoveredEndpoint),
    (fun _ : TransportSelection => (.ok [] : Except ManagerError (List DiscoveredEndpoint))) selection = .ok listed →
      ∀ disc ∈ listed, isUsbTransport disc.endpoint.transport = true → disc.connected = true := by
  intro selection listed h disc hdisc
  cases h
  cases hdisc

/-- A call on a bench whose end passes a test. -/
theorem benched {α : Type} (plugged : List (DeviceEndpoint × Mouse)) (x : Manager α) (desk : Desk)
    (test : α → Desk → Bool)
    (h : ((bench plugged).call x desk).any (fun r => r.1.toOption.any (test · r.2)) = true) :
    ∃ a desk', (bench plugged).call x desk = some (.ok a, desk') ∧ test a desk' = true := by
  obtain ⟨⟨r, desk'⟩, hcall, htest⟩ := (Option.any_eq_true ..).1 h
  obtain ⟨a, hr, htest⟩ := (Option.any_eq_true ..).1 htest
  cases r with
  | error e => cases hr
  | ok a' =>
    cases hr
    exact ⟨a, desk', hcall, htest⟩

/-! ## A script -/

/-- The metadata of a mouse on which the profile was made current. -/
def switchedTo (profile : ProfileId) : ProfileMetadata := ⟨profile, .MAX_ID, profile.range.2⟩

/-- **The script of one mouse**, at every endpoint that is opened: each profile is read once it is current. -/
def scripted (mouse : Mouse) : Script where
  list _ _ := .ok []
  open_ _ _ := .ok ()
  session _ _
    | .readProfile profile =>
      .ok ⟨switchedTo profile, profile, mouse.dpi profile, ⟨profile, 0, 0, 0, ⟨[0, 0, 0], rfl⟩, 0, 0⟩,
        ⟨profile, List.replicate BUTTON_SLOT_COUNT ⟨0, 0, 0⟩, rfl⟩⟩
    | call => (session ⟨fun _ : Unit => mouse, fun _ => none⟩ () call).1
  now _ := ⟨0⟩
  random _ := .ok (token 1).token

def solo (store : StateFile) : Solo := ⟨store, fun _ => none, 0⟩

/-- A call of the process whose end passes a test. -/
theorem called {α : Type} (script : Script) (x : Manager α) (s : Solo) (test : α → Solo → Bool)
    (h : (script.call x s).any (fun r => r.1.toOption.any (test · r.2)) = true) :
    ∃ a s', script.call x s = some (.ok a, s') ∧ test a s' = true := by
  obtain ⟨⟨r, s'⟩, hcall, htest⟩ := (Option.any_eq_true ..).1 h
  obtain ⟨a, hr, htest⟩ := (Option.any_eq_true ..).1 htest
  cases r with
  | error e => cases hr
  | ok a' =>
    cases hr
    exact ⟨a, s', hcall, htest⟩

/-- Where a call leaves the process. -/
def left {α : Type} (script : Script) (x : Manager α) (s : Solo) : Solo := ((script.call x s).map (·.2)).getD s

theorem call_left {α : Type} {script : Script} {x : Manager α} {s : Solo}
    (h : (script.call x s).any (·.1.toOption.isSome) = true) : ∃ a, script.call x s = some (.ok a, left script x s) := by
  obtain ⟨⟨r, s'⟩, hcall, hok⟩ := (Option.any_eq_true ..).1 h
  cases r with
  | error e => cases hok
  | ok a => exact ⟨a, by rw [left, hcall]; rfl⟩

/-- An installation with one saved mouse and this ceremony begun. -/
def begun (phase : IdentitySetupPhase) : StateFile :=
  { saved [(mouse1, token 1, wired "old")] with identitySetup := some ⟨phase, .awaitingCapture, []⟩ }

/-! ## Journals -/

/-- A subject of which these profiles are captured, each as far as this. -/
def subjectAt (path : String) (n : UInt8) (profiles : List (ProfileId × IdentityStampProgress)) : IdentitySetupSubject where
  endpoint := wired path
  deviceId := none
  token := some (token n)
  oldToken := none
  captured := some ⟨.empty, profiles.foldl (fun images entry => images.insert entry.1 .empty) ∅⟩
  stampProgress := profiles.foldl (fun progress entry => progress.insert entry.1 entry.2) ∅

/-- First-time setup once both mice are stamped. -/
def parked : IdentitySetupJournal :=
  ⟨.initialEnrollment, .finalizing, [subjectAt "a" 2 [(first, .stamped)], subjectAt "b" 3 [(first, .stamped)]]⟩

/-- A mouse to add, with one of two profiles stamped. -/
def halfStamped : IdentitySetupJournal :=
  ⟨.addMouse, .stamping, [subjectAt "a" 2 [(first, .stamped), (.MAX_ID, .captured)]]⟩

def legacyWith (journal : IdentitySetupJournal) : StateFile := { StateFile.default with identitySetup := some journal }

def persistentWith (journal : IdentitySetupJournal) : StateFile := { saved [] with identitySetup := some journal }

end Rig
end AttackSharkX3
