import AttackSharkX3.Answers
import AttackSharkX3.Decision
/-!
# Carried — which answers about an unknown mouse are carried out

An answer is carried out where the manager begins a ceremony for it, or remembers the mouse that was picked and lets it open
at the connection.  A mouse picked for a USB connection without a watermark has one of its own, so it is not let in there;
and the association that sets up a new Bluetooth mouse has no mouse to associate.
-/
namespace AttackSharkX3

open Effects (Fallible)

variable [Crc32fast] {bench : Bench} {desk desk' : Desk} {endpoint : DeviceEndpoint} {d : DeviceId} {device : DeviceState}
  {A : PhysicalId}

/-! ## The gate at one connection -/

/-- The watermark that the hardware has at an endpoint. -/
def Bench.watermark (bench : Bench) (endpoint : DeviceEndpoint) : Except ManagerError WatermarkDecode := do
  let metadata ← bench.session endpoint .readProfileMetadata
  let dpi ← bench.session endpoint (.readDpi metadata.current)
  return decodeWatermark dpi.preservedTail.toList

/-- **The transports answer**: every endpoint opens, and over USB its watermark can be read. -/
structure Bench.Responds (bench : Bench) : Prop where
  opens : ∀ endpoint, bench.open_ endpoint = .ok ()
  reads : ∀ endpoint, isUsbTransport endpoint.transport = true → ∃ decode, bench.watermark endpoint = .ok decode

/-- The watermark that the gate goes by: the cached one, or else the hardware's. -/
def Bench.watermarkAt (bench : Bench) (desk : Desk) (endpoint : DeviceEndpoint) : Option WatermarkDecode :=
  (desk.cache.lookup endpoint).or (bench.watermark endpoint).toOption

/-- **The mouse is refused at the endpoint**, for what the attachment there presents. -/
def Bench.Refuses (bench : Bench) (desk : Desk) (d : DeviceId) (endpoint : DeviceEndpoint) : Prop :=
  ∃ operation detail desk', bench.call (openLocked d operation) desk =
    some (.error (.attachmentNotAuthenticated d endpoint detail), desk')

theorem call_currentWatermark {decode : WatermarkDecode} (h : bench.watermark endpoint = .ok decode) :
    ∃ profile, bench.call (currentWatermark ⟨endpoint⟩) desk = some (.ok (profile, decode), desk) := by
  obtain ⟨metadata, hmetadata, h⟩ := Wire.bind_ok.1 h
  obtain ⟨dpi, hdpi, h⟩ := Wire.bind_ok.1 h
  cases h
  have hfirst : bench.call (Session.readProfileMetadata ⟨endpoint⟩) desk = some (.ok metadata, desk) :=
    congrArg (fun r => some (r, desk)) hmetadata
  have hsecond : bench.call (Session.readDpi ⟨endpoint⟩ metadata.current) desk = some (.ok dpi, desk) :=
    congrArg (fun r => some (r, desk)) hdpi
  refine ⟨metadata.current, ?_⟩
  rw [currentWatermark, Bench.call_bind_ok hfirst, Bench.call_bind_ok hsecond]
  rfl

theorem call_authenticateAttachment (hresponds : bench.Responds) (husb : isUsbTransport endpoint.transport = true) :
    ∃ decode desk', bench.watermarkAt desk endpoint = some decode ∧
      bench.call (authenticateAttachment endpoint ⟨endpoint⟩) desk = some (.ok decode, desk') := by
  have hcache : bench.call Manager.cached desk = some (.ok desk.cache, desk) := rfl
  rw [authenticateAttachment, Bench.call_bind_ok hcache, Bench.watermarkAt]
  cases desk.cache.lookup endpoint with
  | some decode => exact ⟨decode, desk, rfl, rfl⟩
  | none =>
    obtain ⟨decode, hdecode⟩ := hresponds.reads endpoint husb
    obtain ⟨profile, hread⟩ := @call_currentWatermark _ bench desk endpoint decode hdecode
    have hinsert : bench.call (do
        Manager.cacheInsert endpoint decode
        return decode : Manager WatermarkDecode) desk = some (.ok decode,
          { desk with cache := Function.update desk.cache endpoint.key (some (decode, endpoint)) }) := rfl
    refine ⟨decode, _, ?_, (Bench.call_bind_ok hread).trans hinsert⟩
    rw [hdecode]
    rfl

/-- The gate of a USB connection goes by its watermark. -/
theorem call_gateAttachment (hresponds : bench.Responds) (husb : isUsbTransport endpoint.transport = true) :
    ∃ decode desk', bench.watermarkAt desk endpoint = some decode ∧
      bench.call (gateAttachment d (some A) endpoint ⟨endpoint⟩) desk =
        some (if decode = .valid A then .ok () else
          .error (.attachmentNotAuthenticated d endpoint (attachmentDetail decode)), desk') := by
  obtain ⟨decode, desk', hdecode, hauth⟩ := @call_authenticateAttachment _ bench desk endpoint hresponds husb
  refine ⟨decode, desk', hdecode, ?_⟩
  simp only [gateAttachment, husb]
  rw [Bench.call_bind_ok hauth]
  split
  · next hown => exact Fallible.exec_ensure_true hown desk'
  · next hother => exact Fallible.exec_ensure_false hother desk'

/-- **A saved mouse is refused at the endpoint that it opens, where that presents anything but the mouse's token.** -/
theorem refuses_iff (hresponds : bench.Responds) (hidle : desk.store.identitySetup = none)
    (hd : desk.store.devices[d]? = some device) (hA : device.identity.physicalId = some A) :
    bench.Refuses desk d endpoint ↔ device.identity.selectedEndpoint = some endpoint ∧
      isUsbTransport endpoint.transport = true ∧ bench.watermarkAt desk endpoint ≠ some (.valid A) := by
  have hopened : ∀ operation, bench.call (openLocked d operation) desk = bench.call (do
      let opened ← Fallible.ofOption (.deviceNotFound d) device.identity.selectedEndpoint
      let session ← Manager.open_ opened
      gateAttachment d device.identity.physicalId opened session
      return (device.identity, session) : Manager (DeviceIdentity × Session)) desk := by
    intro operation
    have hlock : bench.call (Manager.acquireOperationLock d operation) desk = some (.ok (), desk) := rfl
    have hinvolved : bench.call (refuseInvolved desk.store.identitySetup d) desk = some (.ok (), desk) := by
      rw [hidle]
      rfl
    have hfound : bench.call (Fallible.ofOption (.deviceNotFound d) desk.store.devices[d]?) desk =
        some (.ok device, desk) := by
      rw [hd]
      rfl
    rw [openLocked, Bench.call_bind_ok hlock, Bench.call_bind_ok (bench.call_load desk), Bench.call_bind_ok hinvolved,
      Bench.call_bind_ok hfound]
  unfold Bench.Refuses
  simp only [hopened]
  cases hselected : device.identity.selectedEndpoint with
  | none =>
    constructor
    · rintro ⟨operation, detail, desk', h⟩
      cases h
    · rintro ⟨h, -⟩
      cases h
  | some opened =>
    have hsession : bench.call (Manager.open_ opened) desk = some (.ok ⟨opened⟩, desk) := by
      show some ((bench.open_ opened).map _, desk) = _
      rw [hresponds.opens]
      rfl
    have hsome : bench.call (Fallible.ofOption (.deviceNotFound d) (some opened)) desk = some (.ok opened, desk) := rfl
    rw [Bench.call_bind_ok hsome, Bench.call_bind_ok hsession, hA]
    cases husb : isUsbTransport opened.transport with
    | false =>
      have hgate : bench.call (gateAttachment d (some A) opened ⟨opened⟩) desk = some (.ok (), desk) := by
        simp only [gateAttachment, husb]
        rfl
      rw [Bench.call_bind_ok hgate]
      constructor
      · rintro ⟨operation, detail, desk', h⟩
        cases h
      · rintro ⟨hsame, hother, -⟩
        cases hsame
        rw [husb] at hother
        cases hother
    | true =>
      obtain ⟨decode, desk₁, hdecode, hgate⟩ := @call_gateAttachment _ bench desk opened d A hresponds husb
      by_cases hown : decode = .valid A
      · rw [if_pos hown] at hgate
        rw [Bench.call_bind_ok hgate]
        constructor
        · rintro ⟨operation, detail, desk', h⟩
          cases h
        · rintro ⟨hsame, -, hother⟩
          cases hsame
          exact (hother (hown ▸ hdecode)).elim
      · rw [if_neg hown] at hgate
        rw [show bench.call _ desk = _ from Fallible.exec_bind_error hgate]
        constructor
        · rintro ⟨operation, detail, desk', h⟩
          cases h
          refine ⟨rfl, husb, fun hsame => hown ?_⟩
          exact Option.some.inj (hdecode.symm.trans hsame)
        · rintro ⟨hsame, -, -⟩
          cases hsame
          exact ⟨"", _, _, rfl⟩

/-! ## What the manager is asked -/

/-- The store holds a valid document of persistent mode, and no ceremony runs. -/
structure AtRest (state : StateFile) : Prop where
  valid : state.validate = .ok ()
  persistent : state.identityMode = .persistent
  idle : state.identitySetup = none

omit [Crc32fast] in
/-- **A saved mouse is remembered for an accepted endpoint.** -/
theorem call_rememberResolution (hs : AtRest desk.store) (hd : desk.store.devices[d]? = some device)
    (he : endpoint.Accepted) : ∃ desk', bench.call (rememberResolution endpoint d) desk = some (.ok (), desk') ∧
      desk'.cache = desk.cache ∧ desk'.store.identitySetup = none ∧
      desk'.store.devices[d]? = some { device with identity := device.identity.upsertEndpoint endpoint } := by
  have hafter : (Txn.rememberResolution endpoint d bench.now).after desk.store =
      Txn.attach desk.store d device endpoint bench.now := by
    rw [rememberResolution_after, hd]
  have hanswer : (Txn.rememberResolution endpoint d bench.now).answer desk.store = .ok () := by
    show ((do
      let state ← get
      let deviceState ← Mutation.orError (.deviceNotFound d) state.devices[d]?
      set (Txn.attach state d deviceState endpoint bench.now) : Mutation Unit).apply desk.store).1 = _
    simp [Mutation.apply_bind, hd]
    rfl
  have hcommit : commitReliably (.rememberResolution endpoint d bench.now) desk.store =
      (.ok (.ok ()), Txn.attach desk.store d device endpoint bench.now) := by
    rw [← hafter, ← hanswer]
    refine commitReliably_valid ?_
    rw [hafter]
    exact validate_attach hs.valid hs.persistent hs.idle hd he
  refine ⟨{ desk with
    store := Txn.attach desk.store d device endpoint bench.now
    asked := (desk.store, .rememberResolution endpoint d bench.now) :: desk.asked }, ?_, rfl, hs.idle, ?_⟩
  · have hnow : bench.call Manager.now desk = some (.ok bench.now, desk) := rfl
    refine (Bench.call_bind_ok hnow).trans ((bench.call_commit _ desk).trans ?_)
    rw [hcommit]
    rfl
  · simp [Txn.attach, rememberEndpointMapping]

omit [Crc32fast] in
/-- The manager begins what needs no target. -/
theorem call_beginIdentityCeremony {kind : IdentityCeremonyKind} (hs : AtRest desk.store)
    (hkind : kind = .addMouse ∨ kind = .foreignAdoption) : ∃ progress desk',
      bench.call (beginIdentityCeremony kind none) desk = some (.ok progress, desk') ∧ progress.stage = .awaitingReconnect := by
  have hphase : kind.phase ≠ .initialEnrollment ∧ kind.phase ≠ .restore ∧ kind.phase ≠ .bleAssociation := by
    rcases hkind with rfl | rfl
    · decide
    · decide
  obtain ⟨henrollment, hrestore, hble⟩ := hphase
  have hmode : bench.call (requireMode kind.phase desk.store.identityMode) desk = some (.ok (), desk) := by
    rw [requireMode, if_neg henrollment]
    exact Fallible.exec_ensure_true hs.persistent desk
  have htarget : bench.call (requireTarget desk.store kind.phase none) desk = some (.ok (), desk) := by
    rw [requireTarget, if_neg (not_or.2 ⟨hrestore, hble⟩)]
    rfl
  have hconnected : bench.call (refuseConnected desk.store kind.phase none) desk = some (.ok (), desk) := by
    rw [refuseConnected, if_neg hrestore]
    rfl
  let begun : Desk := { desk with
    store := { desk.store with identitySetup := some ⟨kind.phase, .awaitingCapture, []⟩ }
    asked := (desk.store, .beginCeremony kind.phase) :: desk.asked }
  have hbegun : bench.call (Manager.commit (.beginCeremony kind.phase)) desk = some (.ok (), begun) := by
    have hcommit : commitReliably (.beginCeremony kind.phase) desk.store =
        (.ok (.ok ()), { desk.store with identitySetup := some ⟨kind.phase, .awaitingCapture, []⟩ }) :=
      commitReliably_valid (validate_begun hs.valid hs.persistent henrollment)
    rw [Bench.call_commit, hcommit]
  have hmade : bench.call (Manager.expect "journal just created" begun.store.identitySetup) begun =
      some (.ok ⟨kind.phase, .awaitingCapture, []⟩, begun) := rfl
  refine ⟨ceremonyProgressFromJournal ⟨kind.phase, .awaitingCapture, []⟩, begun, ?_, rfl⟩
  rw [beginIdentityCeremony, Bench.call_bind_ok (bench.call_load desk)]
  simp only [hs.idle, pure_bind]
  rw [Bench.call_bind_ok hmode, Bench.call_bind_ok htarget, Bench.call_bind_ok hconnected]
  refine (Bench.call_bind_ok hbegun).trans ?_
  rw [Bench.call_bind_ok (bench.call_load begun), Bench.call_bind_ok hmade]
  rfl

omit [Crc32fast] in
/-- **An association without a target is refused.** -/
theorem call_beginIdentityCeremony_ble (hs : AtRest desk.store) : ∃ detail,
    bench.call (beginIdentityCeremony .bleAssociation none) desk =
      some (.error (.identityCeremonyRefused .bleAssociation "requires-target" detail), desk) := by
  have hmode : bench.call (requireMode .bleAssociation desk.store.identityMode) desk = some (.ok (), desk) :=
    Fallible.exec_ensure_true hs.persistent desk
  let detail := "restore and BLE association require the logical mouse to operate on"
  have htarget : bench.call (requireTarget desk.store .bleAssociation none) desk =
      some (.error (.identityCeremonyRefused .bleAssociation "requires-target" detail), desk) := rfl
  refine ⟨detail, ?_⟩
  rw [beginIdentityCeremony, Bench.call_bind_ok (bench.call_load desk)]
  simp only [hs.idle, pure_bind]
  exact (Bench.call_bind_ok hmode).trans (Fallible.exec_bind_error htarget)

/-! ## The chain of commands -/

variable {worker : WorkerState} {command next : Command} {n : Nat} {asked : List Asked}

/-- **The command comes to these calls of the manager.** -/
def Bench.Pursues (bench : Bench) (desk : Desk) (worker : WorkerState) (n : Nat) (command : Command) (asked : List Asked)
    (desk' : Desk) : Prop :=
  ∃ handled, bench.call (worker.pursue n command) desk = some (.ok handled, desk') ∧ handled.asked = asked

/-- A command that only leaves another one pending. -/
theorem pursues_next (hfirst : bench.call (worker.handle command) desk = some (.ok ⟨worker, [], some next, []⟩, desk))
    (hnext : next ≠ .refresh) (h : bench.Pursues desk worker n next asked desk') :
    bench.Pursues desk worker (n + 1) command asked desk' := by
  obtain ⟨handled, hrest, rfl⟩ := h
  refine ⟨handled, ?_, rfl⟩
  rw [WorkerState.pursue, Bench.call_bind_ok hfirst]
  cases next with
  | refresh => exact (hnext rfl).elim
  | beginCeremony | decideEndpoint | decidePendingEndpoint =>
    dsimp only
    rw [Bench.call_bind_ok hrest]
    rfl

/-- A command after which the chain ends. -/
theorem pursues_last {handled : Handled} (h : bench.call (worker.handle command) desk = some (.ok handled, desk'))
    (hlast : handled.pending = none ∨ handled.pending = some .refresh) (hasked : handled.asked = asked) :
    bench.Pursues desk worker (n + 1) command asked desk' := by
  refine ⟨handled, ?_, hasked⟩
  rw [WorkerState.pursue, Bench.call_bind_ok h]
  rcases hlast with hnone | hrefresh
  · rw [hnone]
    rfl
  · rw [hrefresh]
    rfl

/-- **A ceremony the manager begins, or refuses for another reason than a running one**, is all its command comes to. -/
theorem call_begin {kind : IdentityCeremonyKind} {hint : Option DeviceEndpoint}
    {answer : Except ManagerError IdentityCeremonyProgress} (hmode : worker.mode = .persistent)
    (h : bench.call (beginIdentityCeremony kind none) desk = some (answer, desk'))
    (hanswer : (∃ progress, answer = .ok progress ∧ progress.stage.isTerminal = false) ∨
      ∃ phase reason detail, answer = .error (.identityCeremonyRefused phase reason detail)) :
    ∃ handled, bench.call (worker.begin kind none hint) desk = some (.ok handled, desk') ∧ handled.pending = none ∧
      handled.asked = [.began kind none answer] := by
  have hkind : worker.ceremonyKind kind = kind := by simp [WorkerState.ceremonyKind, hmode]
  have hattempt : bench.call (Manager.attempt (beginIdentityCeremony kind none)) desk = some (.ok answer, desk') :=
    Fallible.exec_attempt h
  unfold WorkerState.begin
  simp only [hkind]
  rw [Bench.call_bind_ok hattempt]
  rcases hanswer with ⟨progress, rfl, hstage⟩ | ⟨phase, reason, detail, rfl⟩
  · dsimp only
    simp only [handleCeremonyProgress, hstage, Bool.false_eq_true, if_false]
    exact ⟨_, rfl, rfl, rfl⟩
  · refine ⟨_, rfl, rfl, rfl⟩

/-! ## One question, answered -/

/-- The answers the question offers: a new mouse, or one of the candidates. -/
def PendingEndpoint.Offers (question : PendingEndpoint) (candidate : Int) : Prop :=
  candidate < 0 ∨ candidate.toNat < question.candidates.length

/-- The answer picks this mouse. -/
def PendingEndpoint.Picks (question : PendingEndpoint) (candidate : Int) (d : DeviceId) : Prop :=
  0 ≤ candidate ∧ ∃ pick, question.candidates[candidate.toNat]? = some pick ∧ pick.identity = d.asStr

/-- **The answer is carried out**: it ends in a ceremony that the manager begins, or in the mouse that was picked being
remembered, and then not refused at the endpoint. -/
def CarriedOut (bench : Bench) (desk : Desk) (worker : WorkerState) (index : Nat) (candidate : Int) : Prop :=
  ∃ handled desk', bench.call (worker.answer index candidate) desk = some (.ok handled, desk') ∧
    ((∃ kind target progress, handled.asked = [.began kind target (.ok progress)]) ∨
      ∃ endpoint question d, worker.pendingEndpoints[index]? = some (endpoint, question) ∧ question.Picks candidate d ∧
        handled.asked = [.remembered endpoint d (.ok ())] ∧ ¬ bench.Refuses desk' d endpoint)

/-- **The answers that are not**: a new mouse over Bluetooth, and a saved mouse for a USB connection without a token, where
the mouse then opens and the watermark is not its own. -/
def Doomed (bench : Bench) (desk : Desk) (endpoint : DeviceEndpoint) (question : PendingEndpoint) (candidate : Int) : Prop :=
  candidate < 0 ∧ endpoint.transport = .ble ∨
    ∃ (d : DeviceId) (device : DeviceState), question.Picks candidate d ∧ desk.store.devices[d]? = some device ∧
      question.presentedToken = none ∧ isUsbTransport endpoint.transport = true ∧
      (device.identity.upsertEndpoint endpoint).selectedEndpoint = some endpoint ∧
      bench.watermarkAt desk endpoint ≠ device.identity.physicalId.map .valid

/-- **The worker asks the question** of a store at rest: it lists the connection, which is accepted and presents no saved
mouse's token, and the candidates are saved. -/
structure AskedOf (desk : Desk) (worker : WorkerState) (endpoint : DeviceEndpoint) (question : PendingEndpoint) : Prop where
  rest : AtRest desk.store
  mode : worker.mode = .persistent
  accepted : endpoint.Accepted
  token : worker.presentedToken endpoint = question.presentedToken
  listed : ∃ entry ∈ worker.unassociated, entry.endpoint = endpoint
  foreign : ∀ T, question.presentedToken = some T →
    isUsbTransport endpoint.transport = true ∧ ∀ d, physicalIdOf desk.store d ≠ some T
  saved : ∀ pick ∈ question.candidates, ∃ (d : DeviceId) (device : DeviceState), pick.identity = d.asStr ∧ desk.store.devices[d]? = some device

namespace AskedOf

variable {question : PendingEndpoint} {index : Nat} {candidate : Int}

omit [Crc32fast] in
/-- The ceremony is for the row of the endpoint. -/
theorem beginFor_eq (ha : AskedOf desk worker endpoint question) (kind : IdentityCeremonyKind) :
    ∃ subject entry, worker.unassociated[subject]? = some entry ∧
      worker.beginFor endpoint kind = ⟨worker, [], some (.beginCeremony kind none (some subject)), []⟩ := by
  obtain ⟨entry, hmem, hentry⟩ := ha.listed
  have hsome : (worker.subjectOf endpoint).isSome = true := by
    unfold WorkerState.subjectOf
    rw [List.findIdx?_isSome, List.any_eq_true]
    exact ⟨entry, hmem, decide_eq_true hentry⟩
  obtain ⟨subject, hsubject⟩ := Option.isSome_iff_exists.1 hsome
  obtain ⟨hlt, -⟩ := List.findIdx?_eq_some_iff_getElem.1 hsubject
  refine ⟨subject, worker.unassociated[subject], List.getElem?_eq_getElem hlt, ?_⟩
  simp [WorkerState.beginFor, hsubject]

/-- **A ceremony without a target is begun.** -/
theorem begins {kind : IdentityCeremonyKind} (ha : AskedOf desk worker endpoint question)
    (hkind : kind = .addMouse ∨ kind = .foreignAdoption)
    (hhandle : bench.call (worker.handle command) desk = some (.ok (worker.beginFor endpoint kind), desk)) :
    ∃ progress desk', bench.Pursues desk worker (n + 2) command [.began kind none (.ok progress)] desk' := by
  obtain ⟨subject, entry, hentry, hbegin⟩ := ha.beginFor_eq kind
  obtain ⟨progress, desk', hbegun, hstage⟩ := @call_beginIdentityCeremony bench desk kind ha.rest hkind
  obtain ⟨handled, hcall, hpending, hasked⟩ := @call_begin _ bench desk desk' worker kind (some entry.endpoint) _ ha.mode
    hbegun (.inl ⟨progress, rfl, by rw [hstage]; rfl⟩)
  rw [hbegin] at hhandle
  refine ⟨progress, desk', pursues_next hhandle nofun (pursues_last ?_ (.inl hpending) hasked)⟩
  show bench.call (worker.beginCeremony kind none (some subject)) desk = _
  rw [WorkerState.beginCeremony, hentry]
  exact hcall

/-- **An association without a target is not.** -/
theorem associates (ha : AskedOf desk worker endpoint question)
    (hhandle : bench.call (worker.handle command) desk = some (.ok (worker.beginFor endpoint .bleAssociation), desk)) :
    ∃ e desk', bench.Pursues desk worker (n + 2) command [.began .bleAssociation none (.error e)] desk' := by
  obtain ⟨subject, entry, hentry, hbegin⟩ := ha.beginFor_eq .bleAssociation
  obtain ⟨detail, hrefused⟩ := @call_beginIdentityCeremony_ble bench desk ha.rest
  obtain ⟨handled, hcall, hpending, hasked⟩ := @call_begin _ bench desk desk worker .bleAssociation (some entry.endpoint) _
    ha.mode hrefused (.inr ⟨_, _, _, rfl⟩)
  rw [hbegin] at hhandle
  refine ⟨_, desk, pursues_next hhandle nofun (pursues_last ?_ (.inl hpending) hasked)⟩
  show bench.call (worker.beginCeremony .bleAssociation none (some subject)) desk = _
  rw [WorkerState.beginCeremony, hentry]
  exact hcall

/-- The first command of a new mouse. -/
theorem handle_new (hindex : worker.pendingEndpoints[index]? = some (endpoint, question))
    (hnew : candidate < 0) : bench.call (worker.handle (.decidePendingEndpoint index candidate)) desk =
      some (.ok ⟨worker, [], some (.decideEndpoint endpoint none), []⟩, desk) := by
  simp only [WorkerState.handle, WorkerState.decidePendingEndpoint, hindex, if_pos hnew]
  rfl

/-- The first command of a pick. -/
theorem handle_pick (hindex : worker.pendingEndpoints[index]? = some (endpoint, question))
    (hpick : question.Picks candidate d) : bench.call (worker.handle (.decidePendingEndpoint index candidate)) desk =
      some (.ok ⟨worker, [], some (.decideEndpoint endpoint (some d)), []⟩, desk) := by
  obtain ⟨hnew, pick, hcandidate, hd⟩ := hpick
  have hid : DeviceId.new pick.identity = .ok d := by
    rw [hd]
    exact d.new_of_asStr
  simp only [WorkerState.handle, WorkerState.decidePendingEndpoint, hindex, if_neg (Int.not_lt.2 hnew), hcandidate, hid]
  rfl

/-- A new mouse is enrolled or adopted, except over Bluetooth. -/
theorem carriedOut_new (ha : AskedOf desk worker endpoint question)
    (hindex : worker.pendingEndpoints[index]? = some (endpoint, question)) (hnew : candidate < 0) :
    CarriedOut bench desk worker index candidate ↔ endpoint.transport ≠ .ble := by
  have hdecide : ∀ kind, worker.newMouseKind endpoint = kind →
      bench.call (worker.handle (.decideEndpoint endpoint none)) desk =
        some (.ok (worker.beginFor endpoint kind), desk) := by
    rintro kind rfl
    rfl
  by_cases hble : endpoint.transport = .ble
  · have hkind : worker.newMouseKind endpoint = .bleAssociation := if_pos hble
    obtain ⟨e, desk', hpursues⟩ := @associates _ bench desk endpoint worker _ 0 question ha (hdecide _ hkind)
    obtain ⟨handled, hcall, hasked⟩ := pursues_next (handle_new hindex hnew) nofun hpursues
    constructor
    · rintro ⟨handled', desk₁, hcall', hended⟩
      have hsame := Option.some.inj (hcall.symm.trans hcall')
      cases hsame
      rcases hended with ⟨kind, target, progress, hbegan⟩ | ⟨_, _, _, -, -, hremembered, -⟩
      · rw [hasked] at hbegan
        cases hbegan
      · rw [hasked] at hremembered
        cases hremembered
    · intro h
      exact (h hble).elim
  · have hkind : worker.newMouseKind endpoint = .addMouse ∨ worker.newMouseKind endpoint = .foreignAdoption := by
      unfold WorkerState.newMouseKind
      rw [if_neg hble]
      split
      · exact .inr rfl
      · rw [if_neg (by rw [ha.mode]; decide)]
        exact .inl rfl
    obtain ⟨progress, desk', hpursues⟩ := @begins _ bench desk endpoint worker _ 0 question _ ha hkind (hdecide _ rfl)
    obtain ⟨handled, hcall, hasked⟩ := pursues_next (handle_new hindex hnew) nofun hpursues
    exact iff_of_true ⟨handled, desk', hcall, .inl ⟨_, _, _, hasked⟩⟩ hble

omit [Crc32fast] in
/-- The question has one saved mouse for a pick. -/
theorem picked (ha : AskedOf desk worker endpoint question) (hpick : question.Picks candidate d) :
    ∃ device A, desk.store.devices[d]? = some device ∧ device.identity.physicalId = some A := by
  obtain ⟨-, pick, hcandidate, hd⟩ := hpick
  obtain ⟨d', device, hd', hdevice⟩ := ha.saved pick (List.mem_of_getElem? hcandidate)
  cases DeviceId.asStr_inj _ _ (hd'.symm.trans hd)
  obtain ⟨A, hA⟩ := StateFile.valid_physicalId ha.rest.valid ha.rest.persistent hdevice
  exact ⟨device, A, hdevice, (StateFile.physicalIdOf_eq hdevice).symm.trans hA⟩

/-- **A saved mouse is not picked for a foreign token**: the token is adopted. -/
theorem carriedOut_foreign {T : PhysicalId} (ha : AskedOf desk worker endpoint question)
    (hindex : worker.pendingEndpoints[index]? = some (endpoint, question)) (hpick : question.Picks candidate d)
    (hT : question.presentedToken = some T) : CarriedOut bench desk worker index candidate := by
  have hdecide : bench.call (worker.handle (.decideEndpoint endpoint (some d))) desk =
      some (.ok (worker.beginFor endpoint .foreignAdoption), desk) := by
    have hforeign := (ha.foreign T hT).2 d
    have hadopt : bench.call (do return (← devicePhysicalId d) ≠ some T : Manager Bool) desk = some (.ok true, desk) := by
      rw [Bench.call_bind_ok (call_devicePhysicalId d)]
      simp [hforeign]
      rfl
    show bench.call (worker.decideFor endpoint d) desk = _
    rw [WorkerState.decideFor, ha.token, hT]
    refine (Bench.call_bind_ok hadopt).trans ?_
    rfl
  obtain ⟨progress, desk', hpursues⟩ := @begins _ bench desk endpoint worker _ 0 question _ ha (.inr rfl) hdecide
  obtain ⟨handled, hcall, hasked⟩ := pursues_next (handle_pick hindex hpick) nofun hpursues
  exact ⟨handled, desk', hcall, .inl ⟨_, _, _, hasked⟩⟩

/-- **Without a token the mouse is remembered**, and the answer is carried out where the gate lets the mouse pass. -/
theorem carriedOut_blank (ha : AskedOf desk worker endpoint question) (hresponds : bench.Responds)
    (hindex : worker.pendingEndpoints[index]? = some (endpoint, question)) (hpick : question.Picks candidate d)
    (hd : desk.store.devices[d]? = some device) (hA : device.identity.physicalId = some A)
    (hT : question.presentedToken = none) : CarriedOut bench desk worker index candidate ↔
      ¬ ((device.identity.upsertEndpoint endpoint).selectedEndpoint = some endpoint ∧
        isUsbTransport endpoint.transport = true ∧ bench.watermarkAt desk endpoint ≠ some (.valid A)) := by
  obtain ⟨desk', hremember, hcache, hidle, hdevice⟩ := @call_rememberResolution bench desk endpoint d device ha.rest hd
    ha.accepted
  have hrefuses := @refuses_iff _ bench desk' endpoint d _ A hresponds hidle hdevice hA
  have hwatermark : bench.watermarkAt desk' endpoint = bench.watermarkAt desk endpoint := by
    rw [Bench.watermarkAt, hcache, Bench.watermarkAt]
  rw [hwatermark] at hrefuses
  obtain ⟨handled, hdecide, hpending, hasked⟩ : ∃ handled : Handled,
      bench.call (worker.handle (.decideEndpoint endpoint (some d))) desk = some (.ok handled, desk') ∧
        handled.pending = some .refresh ∧ handled.asked = [.remembered endpoint d (.ok ())] := by
    have hadopt : bench.call (pure false : Manager Bool) desk = some (.ok false, desk) := rfl
    have hattempt : bench.call (Manager.attempt (rememberResolution endpoint d)) desk = some (.ok (.ok ()), desk') :=
      Fallible.exec_attempt hremember
    have hevidence : ∃ stored, bench.call (hasEvidence d) desk' = some (.ok stored, desk') := ⟨_, rfl⟩
    obtain ⟨stored, hevidence⟩ := hevidence
    refine ⟨⟨worker, [.autoAttached stored], some .refresh, [.remembered endpoint d (.ok ())]⟩, ?_, rfl, rfl⟩
    show bench.call (worker.decideFor endpoint d) desk = _
    rw [WorkerState.decideFor, ha.token, hT]
    refine (Bench.call_bind_ok hadopt).trans ?_
    simp only [Bool.false_eq_true, if_false]
    rw [Bench.call_bind_ok hattempt]
    exact (Bench.call_bind_ok hevidence).trans rfl
  have hlast : bench.Pursues desk worker 2 (.decideEndpoint endpoint (some d)) _ desk' :=
    pursues_last hdecide (.inr hpending) hasked
  obtain ⟨handled, hcall, hasked⟩ := pursues_next (handle_pick hindex hpick) nofun hlast
  rw [← hrefuses]
  constructor
  · rintro ⟨handled', desk₁, hcall', hended⟩
    have hsame := Option.some.inj (hcall.symm.trans hcall')
    cases hsame
    rcases hended with ⟨kind, target, progress, hbegan⟩ | ⟨_, _, _, -, -, hremembered, hopens⟩
    · rw [hasked] at hbegan
      cases hbegan
    · rw [hasked] at hremembered
      cases hremembered
      exact hopens
  · intro hopens
    exact ⟨handled, desk', hcall, .inr ⟨endpoint, question, d, hindex, hpick, hasked, hopens⟩⟩

/-- **An answer to the question is carried out unless it is doomed.** -/
theorem carriedOut_iff (ha : AskedOf desk worker endpoint question) (hresponds : bench.Responds)
    (hindex : worker.pendingEndpoints[index]? = some (endpoint, question)) (hoffers : question.Offers candidate) :
    CarriedOut bench desk worker index candidate ↔ ¬ Doomed bench desk endpoint question candidate := by
  by_cases hnew : candidate < 0
  · rw [ha.carriedOut_new hindex hnew]
    constructor
    · rintro hble (⟨-, h⟩ | ⟨d, device, ⟨hpick, -⟩, -⟩)
      · exact hble h
      · exact (Int.not_lt.2 hpick) hnew
    · intro hsound hble
      exact hsound (.inl ⟨hnew, hble⟩)
  · have hlt : candidate.toNat < question.candidates.length := hoffers.resolve_left hnew
    obtain ⟨d, device, hid, -⟩ := ha.saved _ (List.getElem_mem hlt)
    have hpick : question.Picks candidate d := ⟨Int.not_lt.1 hnew, _, List.getElem?_eq_getElem hlt, hid⟩
    have hsole : ∀ d', question.Picks candidate d' → d' = d := by
      rintro d' ⟨-, pick, hcandidate, hd'⟩
      rw [List.getElem?_eq_getElem hlt] at hcandidate
      cases hcandidate
      exact DeviceId.asStr_inj _ _ (hd'.symm.trans hid)
    obtain ⟨device, A, hdevice, hA⟩ := ha.picked hpick
    cases hT : question.presentedToken with
    | some T =>
      refine iff_of_true (ha.carriedOut_foreign hindex hpick hT) ?_
      rintro (⟨h, -⟩ | ⟨d', device', -, -, hblank, -⟩)
      · exact hnew h
      · rw [hT] at hblank
        cases hblank
    | none =>
      rw [ha.carriedOut_blank hresponds hindex hpick hdevice hA hT]
      refine not_congr ⟨?_, ?_⟩
      · rintro ⟨hselected, husb, hother⟩
        exact .inr ⟨d, device, hpick, hdevice, hT, husb, hselected, by rw [hA]; exact hother⟩
      · rintro (⟨h, -⟩ | ⟨d', device', hpick', hdevice', -, husb, hselected, hother⟩)
        · exact (hnew h).elim
        · cases hsole d' hpick'
          cases hdevice.symm.trans hdevice'
          rw [hA] at hother
          exact ⟨hselected, husb, hother⟩

end AskedOf

/-! ## The questions of a scan -/

section Scan

variable {state : StateFile} {cache : IdentityCache} {view : DiscoveryView} {resolution : ScanResolution}
  {rows : List ResolvedConnection} {row row' : ResolvedConnection} {question : PendingEndpoint}

theorem discover_mode (hmode : desk.store.identityMode = .persistent)
    (h : bench.call (discover .auto) desk = some (.ok view, desk')) : view.mode = .persistent := by
  obtain ⟨discovered, desk₀, hlist, h₁⟩ := Bench.of_call_bind h
  obtain ⟨-, rfl⟩ := Bench.of_call_list hlist
  obtain ⟨before, desk₀, hload, h₂⟩ := Bench.of_call_bind h₁
  obtain ⟨rfl, rfl⟩ := Bench.of_call_load hload
  obtain ⟨_, _, -, h₃⟩ := Bench.of_call_bind h₂
  obtain ⟨_, _, -, h₄⟩ := Bench.of_call_bind h₃
  obtain ⟨_, _, -, h₅⟩ := Bench.of_call_bind h₄
  obtain ⟨_, _, -, h₆⟩ := Bench.of_call_bind h₅
  obtain ⟨_, _, -, h₇⟩ := Bench.of_call_bind h₆
  obtain ⟨_, _, -, h₈⟩ := Bench.of_call_bind h₇
  obtain ⟨_, _, -, h₉⟩ := Bench.of_call_bind h₈
  obtain ⟨rfl, -⟩ := Bench.of_call_pure h₉
  exact hmode

omit [Crc32fast] in
theorem ordinarilyKept_identityMode : OrdinarilyKept (·.identityMode) where
  attached _ _ _ _ _ _ := rfl
  evidence _ _ _ _ _ _ := rfl
  relocated _ _ _ _ _ := rfl
  synced _ _ _ := rfl
  allocated _ _ := rfl
  made _ _ _ _ _ := rfl

namespace Scanned

omit [Crc32fast] in
/-- An unknown row the scan shows is one that it resolved by what was presented. -/
theorem unknown_mem (hs : Scanned bench .auto desk view desk' rows) (hrow : row ∈ unknownRows view.connections) :
    row ∈ rows := by
  obtain ⟨hmem, hconnected, hunknown⟩ := mem_unknownRows.1 hrow
  rw [hs.connections] at hmem
  rcases mem_scanConnections hmem hconnected with hold | ⟨u, d, -, -, -, -, rfl⟩
  · exact hold
  · cases hunknown

omit [Crc32fast] in
/-- Unknown rows of one endpoint present one token. -/
theorem presentedToken_eq (hs : Scanned bench .auto desk view desk' rows) (hrow : row ∈ unknownRows view.connections)
    (hrow' : row' ∈ unknownRows view.connections) (hsame : row'.endpoint = row.endpoint) :
    presentedToken row' = presentedToken row := by
  have hmem := hs.unknown_mem hrow
  have hmem' := hs.unknown_mem hrow'
  obtain ⟨discovered, hlisted, hrows⟩ := hs.listed
  rw [hrows] at hmem hmem'
  cases husb : isUsbTransport row.endpoint.transport with
  | true => rw [row_eq_of_endpoint (bench.usbConnected .auto discovered hlisted) hmem hmem' hsame husb]
  | false =>
    have hble : row.endpoint.transport = .ble := by
      cases ht : row.endpoint.transport with
      | ble => rfl
      | wired | receiver => simp [ht, isUsbTransport] at husb
    rw [presentedToken_ble hmem hble, presentedToken_ble hmem' (hsame ▸ hble)]

omit [Crc32fast] in
/-- **The token of an unknown row is no saved mouse's**, and read over USB. -/
theorem presentedToken_foreign {T : PhysicalId} (hs : Scanned bench .auto desk view desk' rows)
    (hv : desk.store.validate = .ok ()) (hrow : row ∈ unknownRows view.connections) (hT : presentedToken row = some T) :
    isUsbTransport row.endpoint.transport = true ∧ ∀ d, physicalIdOf desk.store d ≠ some T := by
  have hmem := hs.unknown_mem hrow
  obtain ⟨-, hconnected, hunknown⟩ := mem_unknownRows.1 hrow
  have husb : isUsbTransport row.endpoint.transport = true := by
    obtain ⟨discovered, -, hrows⟩ := hs.listed
    rw [hrows] at hmem
    cases ht : row.endpoint.transport with
    | ble =>
      rw [presentedToken_ble hmem ht] at hT
      cases hT
    | wired | receiver => rfl
  refine ⟨husb, ?_⟩
  rcases (hs.resolvesTo hv hmem hconnected husb).unknown hunknown with ⟨T', -, free, hres⟩ | ⟨-, hres⟩
  · rw [presentedToken, hres] at hT
    cases hT
    exact free
  · rw [presentedToken, hres] at hT
    cases hT

omit [Crc32fast] in
theorem accepted (hs : Scanned bench .auto desk view desk' rows)
    (hfound : ∃ found : Enumeration, bench.list .auto = found.list .auto) (hrow : row ∈ unknownRows view.connections) :
    row.endpoint.Accepted := by
  have hmem := hs.unknown_mem hrow
  obtain ⟨discovered, hlisted, hrows⟩ := hs.listed
  rw [hrows] at hmem
  obtain ⟨disc, hdisc, hendpoint, -⟩ := mem_resolveScanRows hmem
  obtain ⟨found, hfound⟩ := hfound
  rw [hfound] at hlisted
  rw [hendpoint]
  exact (Enumeration.list_listed hlisted disc hdisc).accepted

end Scanned

/-- **Every question of a scan is asked of a store at rest.** -/
theorem askedOf_scan {worker : WorkerState} (hv : state.validate = .ok ()) (hmode : state.identityMode = .persistent)
    (hidle : state.identitySetup = none) (hfound : ∃ found : Enumeration, bench.list .auto = found.list .auto)
    (hscan : bench.call (discover .auto) ⟨state, cache, []⟩ = some (.ok view, desk))
    (hresolve : bench.call (resolveScan view.connections) desk = some (.ok resolution, desk'))
    (hquestion : (endpoint, question) ∈ resolution.pending) :
    AskedOf desk' (worker.scanned view resolution) endpoint question := by
  have hs : Scanned bench .auto ⟨state, cache, []⟩ view desk _ := discover_ok hmode hscan
  have hkeeps : ∀ {γ : Type} {f : StateFile → γ}, OrdinarilyKept f → f desk'.store = f state := by
    intro γ f hf
    exact ((Remembers.keeps hf remembers_resolveScan hresolve).2).trans (hs.keeps hf)
  have hvalid := Bench.call_valid hresolve (Bench.call_valid hscan hv)
  obtain ⟨row, hrow, list, kind, hask, hlist⟩ := resolveScan_asks hresolve _ hquestion
  cases hask
  exact {
    rest := ⟨hvalid, (hkeeps ordinarilyKept_identityMode).trans hmode, (hkeeps ordinarilyKept_identitySetup).trans hidle⟩
    mode := discover_mode hmode hscan
    accepted := hs.accepted hfound hrow
    token := by
      have hsome : (resolution.pending.find? fun entry => entry.1 = row.endpoint).isSome = true := by
        rw [List.find?_isSome]
        exact ⟨_, hquestion, decide_eq_true rfl⟩
      obtain ⟨first, hfirst⟩ := Option.isSome_iff_exists.1 hsome
      obtain ⟨row', hrow', list', kind', rfl, -⟩ := resolveScan_asks hresolve first (List.mem_of_find?_eq_some hfirst)
      have hholds := List.find?_some hfirst
      have hsame : row'.endpoint = row.endpoint := of_decide_eq_true hholds
      have hfind : (worker.scanned view resolution).presentedToken row.endpoint = presentedToken row' := by
        simp only [WorkerState.presentedToken, WorkerState.scanned, hfirst, Option.bind_some]
        rfl
      exact hfind.trans (hs.presentedToken_eq hrow hrow' hsame)
    listed := by
      obtain ⟨hmem, -, hunknown⟩ := mem_unknownRows.1 hrow
      refine ⟨⟨row.endpoint, row.resolution⟩, List.mem_filterMap.2 ⟨row, hmem, ?_⟩, rfl⟩
      cases hres : row.resolution with
      | resolved d =>
        rw [hres] at hunknown
        cases hunknown
      | unassociated reason token => rfl
    foreign := by
      intro T hT
      obtain ⟨husb, hfree⟩ := hs.presentedToken_foreign hv hrow hT
      refine ⟨husb, fun d hd => hfree d ?_⟩
      exact (hkeeps (ordinarilyKept_token d)).symm.trans hd
    saved := by
      intro pick hpick
      obtain ⟨candidate, hcandidate, rfl⟩ := List.mem_map.1 hpick
      obtain ⟨⟨d, device⟩, hmem, rfl⟩ := List.mem_map.1 (hlist candidate hcandidate)
      have hd := Std.ExtTreeMap.mem_toList_iff_getElem?_eq_some.1 hmem
      have hscanned : desk.store.identityMode = .persistent := (hs.keeps ordinarilyKept_identityMode).trans hmode
      obtain ⟨A, hA⟩ := StateFile.valid_physicalId (Bench.call_valid hscan hv) hscanned hd
      have hkept := (Remembers.keeps (ordinarilyKept_token d) remembers_resolveScan hresolve).2
      obtain ⟨device', hd', -⟩ := StateFile.of_physicalIdOf (hkept.trans hA)
      exact ⟨d, device', rfl, hd'⟩ }

/-- **Which offered answers are carried out**: all but those that set up a new Bluetooth mouse, or attach a saved mouse to a
USB connection that presents no token. -/
theorem answers_carried_out {worker : WorkerState} (hv : state.validate = .ok ()) (hmode : state.identityMode = .persistent)
    (hidle : state.identitySetup = none) (hfound : ∃ found : Enumeration, bench.list .auto = found.list .auto)
    (hresponds : bench.Responds) (hscan : bench.call (discover .auto) ⟨state, cache, []⟩ = some (.ok view, desk))
    (hresolve : bench.call (resolveScan view.connections) desk = some (.ok resolution, desk')) :
    ∀ (index : Nat) (endpoint : DeviceEndpoint) (question : PendingEndpoint) (candidate : Int),
      resolution.pending[index]? = some (endpoint, question) → question.Offers candidate →
        (CarriedOut bench desk' (worker.scanned view resolution) index candidate ↔
          ¬ Doomed bench desk' endpoint question candidate) := by
  intro index endpoint question candidate hindex hoffers
  have ha := @askedOf_scan _ bench desk desk' endpoint state cache view resolution question worker hv hmode hidle hfound
    hscan hresolve (List.mem_of_getElem? hindex)
  exact ha.carriedOut_iff hresponds hindex hoffers

end Scan

end AttackSharkX3

namespace AttackSharkX3.Rig

/-- Two saved mice, with a token each. -/
def twoSaved : StateFile := saved [(mouse1, token 1, wired "old"), (mouse2, token 2, wired "older")]

/-- A mouse without a watermark on a cable, and one over Bluetooth. -/
def strangers : Enumeration where
  usb kind := .ok (if kind = .wired then [⟨0x1d57, 0xfa61, none, "a", none⟩] else [])
  ble := .ok [⟨"b", none, true⟩]
  sim := .ok none

/-- Both answer, as does every endpoint. -/
def answering : Bench where
  list selection := (bench [plug "a" none, (ble "b", unit fun _ => none)]).list selection
  open_ _ := .ok ()
  session _ call := (session ⟨fun _ : Unit => unit fun _ => none, fun _ => none⟩ () call).1
  now := ⟨0⟩
  random := .ok (token 1).token
  usbConnected := (bench [plug "a" none, (ble "b", unit fun _ => none)]).usbConnected

theorem answering_found : ∃ found : Enumeration, answering.list .auto = found.list .auto := ⟨strangers, by decide +kernel⟩

theorem answering_responds : answering.Responds where
  opens _ := rfl
  reads _ _ := ⟨_, rfl⟩

/-- What the worker knows before its first scan. -/
def worker : WorkerState := ⟨⟨none, none, none, []⟩, .legacy, [], []⟩

/-- A scan, and its questions. -/
def askingScan : Manager ScanResolution := do
  let view ← discover .auto
  resolveScan view.connections

/-- **The scan asks about both**, and its first question offers a saved mouse. -/
theorem answering_asks : ∃ view desk resolution desk' wiredQuestion bleQuestion,
    answering.call (discover .auto) ⟨twoSaved, fun _ => none, []⟩ = some (.ok view, desk) ∧
      answering.call (resolveScan view.connections) desk = some (.ok resolution, desk') ∧
      resolution.pending = [(wired "a", wiredQuestion), (ble "b", bleQuestion)] ∧
      wiredQuestion.presentedToken = none ∧ wiredQuestion.Picks 0 mouse1 ∧
      desk'.store.devices[mouse1]? = twoSaved.devices[mouse1]? ∧ desk'.cache.lookup (wired "a") = some .absent := by
  have hrun : (answering.call askingScan ⟨twoSaved, fun _ => none, []⟩).any (fun r => r.1.toOption.any fun resolution : ScanResolution =>
      resolution.pending.map (fun entry => (entry.1, entry.2.presentedToken, entry.2.candidates.map (·.identity))) =
        [(wired "a", none, ["mouse-1", "mouse-2"]), (ble "b", none, ["mouse-1", "mouse-2"])] ∧
      r.2.store.devices[mouse1]? = twoSaved.devices[mouse1]? ∧ r.2.cache.lookup (wired "a") = some .absent) = true := by
    decide +kernel
  obtain ⟨⟨answer, desk'⟩, hcall, htest⟩ := (Option.any_eq_true ..).1 hrun
  obtain ⟨resolution, hanswer, htest⟩ := (Option.any_eq_true ..).1 htest
  cases answer with
  | error e => cases hanswer
  | ok resolution' =>
    cases hanswer
    obtain ⟨view, desk, hscan, hresolve⟩ := Bench.of_call_bind hcall
    obtain ⟨hpending, hstore, hcache⟩ := of_decide_eq_true htest
    obtain ⟨⟨_, wiredQuestion⟩, rest, hpending₁, hwired, hrest⟩ := List.map_eq_cons_iff.1 hpending
    obtain ⟨⟨_, bleQuestion⟩, hrest, hble⟩ := List.map_eq_singleton_iff.1 hrest
    obtain ⟨rfl, hwired⟩ := Prod.mk.inj hwired
    obtain ⟨rfl, -⟩ := Prod.mk.inj hble
    obtain ⟨htoken, hcandidates⟩ := Prod.mk.inj hwired
    obtain ⟨pick, others, hlist, hpick, -⟩ := List.map_eq_cons_iff.1 hcandidates
    refine ⟨view, desk, resolution, desk', wiredQuestion, bleQuestion, hscan, hresolve, ?_, htoken,
      ⟨Int.le_refl 0, pick, ?_, hpick⟩, hstore, hcache⟩
    · rw [hpending₁, hrest]
    · rw [hlist]
      rfl

/-- Setting up the mouse on the cable as a new one is carried out. -/
theorem answers_carried_out_new : ∃ view resolution desk',
    CarriedOut answering desk' (worker.scanned view resolution) 0 (-1) := by
  obtain ⟨view, desk, resolution, desk', wiredQuestion, bleQuestion, hscan, hresolve, hpending, -⟩ := answering_asks
  refine ⟨view, resolution, desk', ?_⟩
  refine (answers_carried_out (by decide +kernel) rfl rfl answering_found answering_responds hscan hresolve 0 (wired "a")
    wiredQuestion (-1) (by rw [hpending]; rfl) (.inl (by decide))).2 ?_
  rintro (⟨-, hble⟩ | ⟨d, device, ⟨hpick, -⟩, -⟩)
  · cases hble
  · exact absurd hpick (by decide)

/-- **Two answers that the worker offers are not carried out**: the first saved mouse for the mouse on the cable, and a new
mouse for the one over Bluetooth. -/
theorem answers_not_carried_out : twoSaved.validate = .ok () ∧ twoSaved.identityMode = .persistent ∧
    twoSaved.identitySetup = none ∧ (∃ found : Enumeration, answering.list .auto = found.list .auto) ∧ answering.Responds ∧
    ∃ view desk resolution desk' wiredQuestion bleQuestion,
      answering.call (discover .auto) ⟨twoSaved, fun _ => none, []⟩ = some (.ok view, desk) ∧
      answering.call (resolveScan view.connections) desk = some (.ok resolution, desk') ∧
      resolution.pending = [(wired "a", wiredQuestion), (ble "b", bleQuestion)] ∧
      wiredQuestion.Offers 0 ∧ ¬ CarriedOut answering desk' (worker.scanned view resolution) 0 0 ∧
      bleQuestion.Offers (-1) ∧ ¬ CarriedOut answering desk' (worker.scanned view resolution) 1 (-1) := by
  have hv : twoSaved.validate = .ok () := by decide +kernel
  refine ⟨hv, rfl, rfl, answering_found, answering_responds, ?_⟩
  obtain ⟨view, desk, resolution, desk', wiredQuestion, bleQuestion, hscan, hresolve, hpending, htoken, hpick, hstore,
    hcache⟩ := answering_asks
  have hasked : ∀ {index : Nat} {endpoint : DeviceEndpoint} {question : PendingEndpoint}, resolution.pending[index]? = some (endpoint, question) →
      AskedOf desk' (worker.scanned view resolution) endpoint question := by
    intro index endpoint question hindex
    exact askedOf_scan hv rfl rfl answering_found hscan hresolve (List.mem_of_getElem? hindex)
  have hwired : resolution.pending[0]? = some (wired "a", wiredQuestion) := by
    rw [hpending]
    rfl
  have hble : resolution.pending[1]? = some (ble "b", bleQuestion) := by
    rw [hpending]
    rfl
  have hoffers : wiredQuestion.Offers 0 := by
    obtain ⟨-, pick, hcandidate, -⟩ := hpick
    exact .inr (List.getElem?_eq_some_iff.1 hcandidate).1
  have hnew : bleQuestion.Offers (-1) := .inl (by decide)
  refine ⟨view, desk, resolution, desk', wiredQuestion, bleQuestion, hscan, hresolve, hpending, hoffers, ?_, hnew, ?_⟩
  · rw [(hasked hwired).carriedOut_iff answering_responds hwired hoffers, not_not]
    have hsaved : twoSaved.devices[mouse1]?.any (fun device => device.identity.physicalId = some (token 1) ∧
        (device.identity.upsertEndpoint (wired "a")).selectedEndpoint = some (wired "a")) = true := by decide +kernel
    obtain ⟨device, hdevice, htest⟩ := (Option.any_eq_true ..).1 hsaved
    obtain ⟨hphysical, hselected⟩ := of_decide_eq_true htest
    refine .inr ⟨mouse1, device, hpick, hstore.trans hdevice, htoken, rfl, hselected, ?_⟩
    rw [Bench.watermarkAt, hcache, hphysical]
    exact nofun
  · rw [(hasked hble).carriedOut_iff answering_responds hble hnew, not_not]
    exact .inl ⟨by decide, rfl⟩

end AttackSharkX3.Rig
