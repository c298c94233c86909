import AttackSharkX3.Factory
import AttackSharkX3.Alone
import AttackSharkX3.Ordinary
import AttackSharkX3.Rig
import AttackSharkX3.Verify
/-!
# Reappears — the mouse that comes back after a power cycle

Each poll lists the transport anew.  With a token every connected candidate is opened and read, and a poll ends the wait
only when the candidates that show the token are all at one place; without one the old place or the only mouse of the
model does.  Nothing is assumed of what the candidates answer, nor of how many polls there are.
-/
namespace AttackSharkX3

open Effects (Fallible Tries)
open Effects.Prog (Event History Keeps Kept)

/-! ## One place -/

theorem dedupAfter_nil {last : DeviceEndpoint} : ∀ {rest : List DeviceEndpoint}, dedupAfter last rest = [] →
    ∀ e ∈ rest, e.locator = last.locator
  | endpoint :: rest, h, e, he => by
    unfold dedupAfter at h
    split at h
    · next hsame =>
      rcases List.mem_cons.1 he with rfl | he
      · exact hsame
      · exact dedupAfter_nil h e he
    · cases h

/-- **One endpoint is left** of those at one place. -/
theorem sortedByLocator_singleton {endpoints : List DeviceEndpoint} {found : DeviceEndpoint}
    (h : sortedByLocator endpoints = [found]) : found ∈ endpoints ∧ ∀ e ∈ endpoints, e.locator = found.locator := by
  have hperm := List.mergeSort_perm endpoints fun a b => a.locator.le b.locator
  unfold sortedByLocator at h
  split at h
  · cases h
  · next first rest hsorted =>
    rw [hsorted] at hperm
    obtain ⟨rfl, hrest⟩ := List.cons.inj h
    refine ⟨hperm.mem_iff.1 List.mem_cons_self, ?_⟩
    intro e he
    rcases List.mem_cons.1 (hperm.mem_iff.2 he) with rfl | he
    · rfl
    · exact dedupAfter_nil hrest e he

section Reading

variable [Crc32fast] {endpoint : DeviceEndpoint} {decode : Option WatermarkDecode} {h₀ : History Backend}

/-- What is made of a read that failed. -/
def refused : ManagerError → Option WatermarkDecode
  | .unsupportedOperation .. => some .absent
  | _ => none

/-- **What a candidate answered, and the watermark read of it.** -/
inductive Decoded (endpoint : DeviceEndpoint) : Option WatermarkDecode → History Backend → Prop where
  | unopened (e : ManagerError) : Decoded endpoint none [Did.open_ endpoint (.error e)]
  | unlisted (e : ManagerError) : Decoded endpoint (refused e)
      [Did.session endpoint .readProfileMetadata (.error e), Did.open_ endpoint (.ok ())]
  | unread (metadata : ProfileMetadata) (e : ManagerError) : Decoded endpoint (refused e)
      [Did.session endpoint (.readDpi metadata.current) (.error e), Did.session endpoint .readProfileMetadata (.ok metadata),
        Did.open_ endpoint (.ok ())]
  | read (metadata : ProfileMetadata) (dpi : DpiState) : Decoded endpoint (some dpi.physicalId)
      [Did.session endpoint (.readDpi metadata.current) (.ok dpi), Did.session endpoint .readProfileMetadata (.ok metadata),
        Did.open_ endpoint (.ok ())]

/-- What the candidates answered in turn. -/
inductive DecodedAll : List (DeviceEndpoint × Option WatermarkDecode) → History Backend → Prop where
  | nil : DecodedAll [] []
  | cons {endpoint decode readings first rest} (one : Decoded endpoint decode first) (others : DecodedAll readings rest) :
      DecodedAll ((endpoint, decode) :: readings) (rest ++ first)

abbrev Anything (_ : History Backend) (_ : Op) : Prop := True

/-- **A candidate is read**, and its failures end nothing. -/
theorem tries_candidateWatermark : Tries Anything (· = h₀) (candidateWatermark endpoint)
    (fun decode h => ∃ segment, Decoded endpoint decode segment ∧ h = segment ++ h₀) fun _ _ => False := by
  unfold candidateWatermark
  refine Tries.bind (Q := fun opened h => match opened with
    | .ok session => session = ⟨endpoint⟩ ∧ h = Did.open_ endpoint (.ok ()) :: h₀
    | .error e => h = Did.open_ endpoint (.error e) :: h₀)
    (.attempt (.perform (fun _ _ => trivial) ?_)) fun opened => ?_
  · rintro h r rfl
    cases r with
    | ok u => exact ⟨rfl, rfl⟩
    | error e => rfl
  cases opened with
  | error e =>
    refine .pure ?_
    rintro h rfl
    exact ⟨_, .unopened e, rfl⟩
  | ok session =>
    refine Tries.of_pure fun hsession => ?_
    subst hsession
    refine Tries.bind (Q := fun result h => match result with
      | .ok answer => ∃ segment, Decoded endpoint (some answer.2) segment ∧ h = segment ++ h₀
      | .error e => ∃ segment, Decoded endpoint (refused e) segment ∧ h = segment ++ h₀)
      (.attempt ((reads_currentWatermark ⟨endpoint⟩ (fun _ => trivial) (fun _ _ => trivial) _).mono (fun _ => id) ?_ ?_))
      fun result => ?_
    · rintro _ h ⟨metadata, dpi, _, rfl, rfl, rfl⟩
      exact ⟨_, .read metadata dpi, rfl⟩
    · rintro e h ⟨_, rfl, rfl | ⟨metadata, rfl⟩⟩
      · exact ⟨_, .unlisted e, rfl⟩
      · exact ⟨_, .unread metadata e, rfl⟩
    · cases result with
      | ok answer => exact .pure fun h hh => hh
      | error e =>
        cases e with
        | unsupportedOperation operation transport => exact .pure fun h hh => hh
        | _ => exact .pure fun h hh => hh

variable {token : PhysicalId}

/-- The connected endpoints of a listing. -/
def connectedEndpoints (discovered : List DiscoveredEndpoint) : List DeviceEndpoint :=
  (discovered.filter (·.connected)).map (·.endpoint)

/-- The candidates that showed the token. -/
def carriersOf (token : PhysicalId) (readings : List (DeviceEndpoint × Option WatermarkDecode)) : List DeviceEndpoint :=
  (readings.filter fun reading => reading.2 = some (.valid token)).map (·.1)

/-- **Every connected candidate is read**, once. -/
theorem tries_authenticatedCandidates : ∀ (discovered : List DiscoveredEndpoint) (h₀ : History Backend),
    Tries Anything (· = h₀) (authenticatedCandidates token discovered)
      (fun carriers h => ∃ readings segment, readings.map (·.1) = connectedEndpoints discovered ∧
        DecodedAll readings segment ∧ carriers = carriersOf token readings ∧ h = segment ++ h₀) fun _ _ => False
  | [], h₀ => by
    unfold authenticatedCandidates
    refine .pure ?_
    rintro h rfl
    exact ⟨[], [], rfl, .nil, rfl, rfl⟩
  | candidate :: rest, h₀ => by
    unfold authenticatedCandidates
    split
    · next hconnected =>
      have hlisted : connectedEndpoints (candidate :: rest) = candidate.endpoint :: connectedEndpoints rest := by
        simp [connectedEndpoints, hconnected]
      refine Tries.bind tries_candidateWatermark fun decode => Tries.of_exists fun first => Tries.of_pure fun hfirst => ?_
      refine Tries.bind (tries_authenticatedCandidates rest (first ++ h₀)) fun carriers => ?_
      refine .pure ?_
      rintro h ⟨readings, segment, hreadings, hall, rfl, rfl⟩
      refine ⟨(candidate.endpoint, decode) :: readings, segment ++ first, ?_, .cons hfirst hall, ?_, ?_⟩
      · rw [hlisted, List.map_cons, hreadings]
      · unfold carriersOf
        by_cases hvalid : decode = some (.valid token)
        · simp [hvalid]
        · simp [hvalid]
      · rw [List.append_assoc]
    · next hdisconnected =>
      have hlisted : connectedEndpoints (candidate :: rest) = connectedEndpoints rest := by
        simp [connectedEndpoints, hdisconnected]
      rw [hlisted]
      exact tries_authenticatedCandidates rest h₀

/-- **One place that shows the token** is returned, and nothing where there are two. -/
theorem tries_authenticatedCandidate (discovered : List DiscoveredEndpoint) :
    Tries Anything (· = h₀) (authenticatedCandidate discovered token)
      (fun result h => ∃ readings segment, readings.map (·.1) = connectedEndpoints discovered ∧
        DecodedAll readings segment ∧ h = segment ++ h₀ ∧ ∀ found, result = some found →
          (found, some (WatermarkDecode.valid token)) ∈ readings ∧
            ∀ other, (other, some (WatermarkDecode.valid token)) ∈ readings → other.locator = found.locator)
      fun _ _ => False := by
  unfold authenticatedCandidate
  refine Tries.bind (tries_authenticatedCandidates discovered h₀) fun carriers => ?_
  have hmem : ∀ {readings : List (DeviceEndpoint × Option WatermarkDecode)} {e : DeviceEndpoint},
      e ∈ carriersOf token readings ↔ (e, some (WatermarkDecode.valid token)) ∈ readings := by
    intro readings e
    simp [carriersOf]
  split
  · next found hsingle =>
    refine .pure ?_
    rintro h ⟨readings, segment, hreadings, hall, rfl, rfl⟩
    refine ⟨readings, segment, hreadings, hall, rfl, ?_⟩
    rintro _ ⟨⟩
    obtain ⟨hfound, hone⟩ := sortedByLocator_singleton hsingle
    exact ⟨hmem.1 hfound, fun other hother => hone other (hmem.2 hother)⟩
  · refine .pure ?_
    rintro h ⟨readings, segment, hreadings, hall, -, rfl⟩
    refine ⟨readings, segment, hreadings, hall, rfl, ?_⟩
    rintro _ ⟨⟩

end Reading

/-! ## The wait -/

section Wait

variable [Crc32fast] {device : DeviceId} {transport : TransportKind} {oldEndpoint : DeviceEndpoint}
  {found : DeviceEndpoint} {h : History Backend}

abbrev Did.list (selection : TransportSelection) (r : Except ManagerError (List DiscoveredEndpoint)) : Event Backend :=
  ⟨Op.list selection, r⟩

/-- The place is stored. -/
abbrev Did.relocated (device : DeviceId) (found : DeviceEndpoint) : Event Backend :=
  Did.commit (.updateLocator device found) (.ok (.ok ()))

/-- **The last poll found one place that shows the token**, and it is stored. -/
def Recognised (device : DeviceId) (transport : TransportKind) (token : PhysicalId) (found : DeviceEndpoint)
    (h : History Backend) : Prop :=
  ∃ discovered readings segment before,
    h = Did.relocated device found :: (segment ++ Did.list (.exact transport) (.ok discovered) :: before) ∧
      readings.map (·.1) = connectedEndpoints discovered ∧ DecodedAll readings segment ∧
      (found, some (WatermarkDecode.valid token)) ∈ readings ∧
      ∀ other, (other, some (WatermarkDecode.valid token)) ∈ readings → other.locator = found.locator

/-- The endpoint is of the saved model. -/
def SameModel (oldEndpoint endpoint : DeviceEndpoint) : Prop :=
  endpoint.vendorId = oldEndpoint.vendorId ∧ endpoint.productId = oldEndpoint.productId

/-- **The last poll found the old place**, or the one place of the model, which is stored. -/
def Rebound (device : DeviceId) (transport : TransportKind) (oldEndpoint found : DeviceEndpoint) (h : History Backend) : Prop :=
  ∃ discovered before, found ∈ connectedEndpoints discovered ∧
    ((h = Did.list (.exact transport) (.ok discovered) :: before ∧ found.locator = oldEndpoint.locator) ∨
      (h = Did.relocated device found :: Did.list (.exact transport) (.ok discovered) :: before ∧
        found.transport = transport ∧ SameModel oldEndpoint found ∧
        ∀ other ∈ connectedEndpoints discovered, other.transport = transport → SameModel oldEndpoint other →
          other.locator = found.locator))

/-- What a poll that ends the wait found. -/
def FoundBy (device : DeviceId) (transport : TransportKind) (oldEndpoint : DeviceEndpoint) (physicalId : Option PhysicalId)
    (found : DeviceEndpoint) (h : History Backend) : Prop :=
  match physicalId with
  | some token => Recognised device transport token found h
  | none => Rebound device transport oldEndpoint found h

omit [Crc32fast] in
theorem tries_rebind (h₀ : History Backend) : Tries Anything (· = h₀) (rebind device found)
    (fun result h => result = some found ∧ h = Did.relocated device found :: h₀) fun _ _ => True := by
  unfold rebind
  refine Tries.bind (Q := fun _ h => h = Did.relocated device found :: h₀) (.perform (fun _ _ => trivial) ?_) fun _ => ?_
  · rintro h r rfl
    match r with
    | .ok (.ok ()) => rfl
    | .ok (.error e) => trivial
    | .error e => trivial
  · exact .pure fun h hh => ⟨rfl, hh⟩

omit [Crc32fast] in
/-- The only place of the model. -/
theorem of_legacyRebindCandidates {discovered : List DiscoveredEndpoint}
    (h : legacyRebindCandidates discovered transport oldEndpoint = [found]) : found ∈ connectedEndpoints discovered ∧
      found.transport = transport ∧ SameModel oldEndpoint found ∧
      ∀ other ∈ connectedEndpoints discovered, other.transport = transport → SameModel oldEndpoint other →
        other.locator = found.locator := by
  have hmem : ∀ e, e ∈ (discovered.filter fun candidate => candidate.connected &&
      candidate.endpoint.transport = transport && candidate.endpoint.vendorId = oldEndpoint.vendorId &&
        candidate.endpoint.productId = oldEndpoint.productId).map (·.endpoint) ↔
      e ∈ connectedEndpoints discovered ∧ e.transport = transport ∧ SameModel oldEndpoint e := by
    intro e
    unfold connectedEndpoints SameModel
    simp only [List.mem_map, List.mem_filter, Bool.and_eq_true, decide_eq_true_eq]
    constructor
    · rintro ⟨candidate, ⟨hcandidate, ⟨⟨hconnected, htransport⟩, hvendor⟩, hproduct⟩, rfl⟩
      exact ⟨⟨candidate, ⟨hcandidate, hconnected⟩, rfl⟩, htransport, hvendor, hproduct⟩
    · rintro ⟨⟨candidate, ⟨hcandidate, hconnected⟩, rfl⟩, htransport, hvendor, hproduct⟩
      exact ⟨candidate, ⟨hcandidate, ⟨⟨hconnected, htransport⟩, hvendor⟩, hproduct⟩, rfl⟩
  obtain ⟨hfound, hone⟩ := sortedByLocator_singleton h
  obtain ⟨hconnected, htransport, hmodel⟩ := (hmem found).1 hfound
  exact ⟨hconnected, htransport, hmodel, fun other hother hkind hsame => hone other ((hmem other).2 ⟨hother, hkind, hsame⟩)⟩

/-- **One poll.** -/
theorem tries_reappeared {physicalId : Option PhysicalId} (h₀ : History Backend) :
    Tries Anything (· = h₀) (reappeared device transport oldEndpoint physicalId)
      (fun result h => ∀ found, result = some found → FoundBy device transport oldEndpoint physicalId found h)
      fun _ _ => True := by
  unfold reappeared
  refine Tries.bind (Q := fun discovered h => h = Did.list (.exact transport) (.ok discovered) :: h₀)
    (.perform (fun _ _ => trivial) ?_) fun discovered => ?_
  · rintro h r rfl
    cases r with
    | ok discovered => rfl
    | error e => trivial
  cases physicalId with
  | some token =>
    refine Tries.bind (Q := fun result h => ∃ readings segment, readings.map (·.1) = connectedEndpoints discovered ∧
      DecodedAll readings segment ∧ h = segment ++ Did.list (.exact transport) (.ok discovered) :: h₀ ∧
      ∀ found, result = some found → (found, some (WatermarkDecode.valid token)) ∈ readings ∧
        ∀ other, (other, some (WatermarkDecode.valid token)) ∈ readings → other.locator = found.locator)
      ((tries_authenticatedCandidate discovered).mono (fun _ => id) (fun _ _ => id) fun _ _ => False.elim) fun result => ?_
    refine Tries.of_exists fun readings => Tries.of_exists fun segment => Tries.of_pure fun hreadings =>
      Tries.of_pure fun hall => ?_
    cases result with
    | none => exact .pure fun h _ => nofun
    | some found =>
      intro h hpre
      obtain ⟨rfl, hfound⟩ := hpre
      refine (tries_rebind _).mono (fun _ => id) ?_ (fun _ _ => id) _ rfl
      rintro _ h ⟨rfl, rfl⟩ _ ⟨⟩
      obtain ⟨hmem, hone⟩ := hfound found rfl
      exact ⟨discovered, readings, segment, h₀, rfl, hreadings, hall, hmem, hone⟩
  | none =>
    dsimp only
    split
    · next candidate hfind =>
      refine .pure ?_
      rintro h rfl _ ⟨⟩
      have hplace := List.find?_some hfind
      rw [Bool.and_eq_true, decide_eq_true_eq] at hplace
      refine ⟨discovered, h₀, ?_, .inl ⟨rfl, hplace.2⟩⟩
      exact List.mem_map_of_mem (List.mem_filter.2 ⟨List.mem_of_find?_eq_some hfind, hplace.1⟩)
    · split
      · next found hsingle =>
        refine (tries_rebind _).mono (fun _ => id) ?_ fun _ _ => id
        rintro _ h ⟨rfl, rfl⟩ _ ⟨⟩
        obtain ⟨hconnected, htransport, hmodel, hone⟩ := of_legacyRebindCandidates hsingle
        exact ⟨discovered, h₀, hconnected, .inr ⟨rfl, htransport, hmodel, hone⟩⟩
      · exact .pure fun h _ => nofun

/-- **The wait ends with what its last poll found**, or with an error, however many polls there are. -/
theorem tries_waitForReappearance {physicalId : Option PhysicalId} : ∀ patience,
    Tries Anything (fun _ => True) (waitForReappearance device transport oldEndpoint physicalId patience)
      (FoundBy device transport oldEndpoint physicalId) fun _ _ => True
  | 0 => by
    unfold waitForReappearance
    refine Tries.bind (fun h _ => tries_reappeared h h rfl) fun result => ?_
    exact .ofOption (fun found hresult h hfound => hfound found hresult) fun _ _ _ => trivial
  | patience + 1 => by
    unfold waitForReappearance
    refine Tries.bind (fun h _ => tries_reappeared h h rfl) fun result => ?_
    cases result with
    | some found => exact .pure fun h hfound => hfound found rfl
    | none => exact (tries_waitForReappearance patience).before fun _ _ => trivial

end Wait

/-- Every listing is one the factory makes of what is enumerated then. -/
def FactoryLists (h : History Backend) : Prop :=
  ∀ selection r, Did.list selection r ∈ h → ∃ enumerated : Enumeration, r = enumerated.list selection

theorem FactoryLists.transport_eq {h : History Backend} {transport : TransportKind} {discovered : List DiscoveredEndpoint}
    (hlists : FactoryLists h) (hmem : Did.list (.exact transport) (.ok discovered) ∈ h) :
    ∀ endpoint ∈ connectedEndpoints discovered, endpoint.transport = transport := by
  obtain ⟨enumerated, hlisted⟩ := hlists _ _ hmem
  intro endpoint hendpoint
  obtain ⟨disc, hdisc, rfl⟩ := List.mem_map.1 hendpoint
  have hwanted := (Enumeration.list_listed hlisted.symm disc (List.mem_filter.1 hdisc).1).wanted
  exact (of_decide_eq_true hwanted).symm

/-- **After a power cycle only the same mouse is accepted.**  However often and whatever the factory lists, and whatever the
candidates answer: a wait that ends well ended with a poll in which, with a token, every connected candidate was read and
those that showed the token were at the place returned; without one, the place is the saved one, or that of all connected
endpoints of the saved model.  Its transport is the expected one. -/
theorem reappears_same_mouse [Crc32fast] (device : DeviceId) (transport : TransportKind) (oldEndpoint : DeviceEndpoint)
    (physicalId : Option PhysicalId) (patience : Nat) {state state' : StateFile} {h : History Backend} {found : DeviceEndpoint}
    (hgoes : Goes (waitForReappearance device transport oldEndpoint physicalId patience) state (.ok found) state' h)
    (hlists : FactoryLists h) : ∃ discovered, Did.list (.exact transport) (.ok discovered) ∈ h ∧
      found.transport = transport ∧ found ∈ connectedEndpoints discovered ∧
      (∀ token, physicalId = some token → ∃ readings segment before,
        h = Did.relocated device found :: (segment ++ Did.list (.exact transport) (.ok discovered) :: before) ∧
          readings.map (·.1) = connectedEndpoints discovered ∧ DecodedAll readings segment ∧
          (found, some (WatermarkDecode.valid token)) ∈ readings ∧
          ∀ other, (other, some (WatermarkDecode.valid token)) ∈ readings → other.locator = found.locator) ∧
      (physicalId = none → found.locator = oldEndpoint.locator ∨
        (SameModel oldEndpoint found ∧ ∀ other ∈ connectedEndpoints discovered, SameModel oldEndpoint other →
          other.locator = found.locator)) := by
  have hfound : FoundBy device transport oldEndpoint physicalId found h :=
    (Keeps.ends hgoes (tries_waitForReappearance patience [] trivial) trivial).2
  cases physicalId with
  | some token =>
    obtain ⟨discovered, readings, segment, before, rfl, hreadings, hall, hmem, hone⟩ := hfound
    have hlisted : Did.list (.exact transport) (.ok discovered) ∈
        Did.relocated device found :: (segment ++ Did.list (.exact transport) (.ok discovered) :: before) := by
      simp
    have hconnected : found ∈ connectedEndpoints discovered := by
      rw [← hreadings]
      exact List.mem_map_of_mem hmem
    refine ⟨discovered, hlisted, hlists.transport_eq hlisted found hconnected, hconnected, ?_, nofun⟩
    rintro _ ⟨⟩
    exact ⟨readings, segment, before, rfl, hreadings, hall, hmem, hone⟩
  | none =>
    obtain ⟨discovered, before, hconnected, hends⟩ := hfound
    have hlisted : Did.list (.exact transport) (.ok discovered) ∈ h := by
      rcases hends with ⟨rfl, -⟩ | ⟨rfl, -⟩ <;> simp
    have htransport := hlists.transport_eq hlisted
    refine ⟨discovered, hlisted, htransport found hconnected, hconnected, nofun, fun _ => ?_⟩
    rcases hends with ⟨-, hplace⟩ | ⟨-, -, hmodel, hone⟩
    · exact .inl hplace
    · exact .inr ⟨hmodel, fun other hother hsame => hone other hother (htransport other hother) hsame⟩

namespace Rig

/-- Two wired mice of one model are plugged in, neither at the saved port. -/
def replugged : Enumeration where
  usb
    | .wired => .ok [⟨0x1d57, 0xfa61, none, "b", none⟩, ⟨0x1d57, 0xfa61, none, "c", none⟩]
    | .receiver => .ok []
  ble := .ok []
  sim := .ok none

/-- The second of them has the token. -/
def repluggedBench : Bench :=
  bench [(wired "b", unit fun _ => some (token 2)), (wired "c", unit fun _ => some (token 1))]

/-- The answers of the replugged mice, listed by the factory. -/
def repluggedReplies : (o : Op) → StateFile → Option (o.Res × StateFile)
  | .list selection, state => some (replugged.list selection, state)
  | o, state => repluggedBench.replies o state

theorem repluggedReplies_does (o : Op) (state : StateFile) (r : o.Res) (state' : StateFile)
    (h : repluggedReplies o state = some (r, state')) : o.does state r state' := by
  cases o with
  | list selection =>
    cases h
    exact rfl
  | _ => exact Bench.does_replies repluggedBench _ _ _ _ h

/-- An event whose listing is the factory's. -/
def ListsReplugged : Event Backend → Prop
  | ⟨.list selection, r⟩ => r = replugged.list selection
  | _ => True

theorem repluggedReplies_lists (o : Op) (state : StateFile) (r : o.Res) (state' : StateFile)
    (h : repluggedReplies o state = some (r, state')) : ListsReplugged ⟨o, r⟩ := by
  cases o with
  | list selection =>
    cases h
    exact rfl
  | _ => trivial

def comesBack : Manager DeviceEndpoint := waitForReappearance mouse1 .wired (wired "a") (some (token 1)) 0

/-- The mouse with the token comes back at another port, and the other mouse is passed over. -/
theorem reappears_same_mouse_replugged : ∃ found state' h,
    Goes comesBack (saved [(mouse1, token 1, wired "a")]) (.ok found) state' h ∧ found.transport = .wired ∧
      found.locator = (wired "c").locator := by
  have hrun : (Effects.Prog.exec (Effects.Prog.logged (S := Backend) repluggedReplies) comesBack.run
      (saved [(mouse1, token 1, wired "a")], [])).any
        (fun ended => ended.1.toOption.any (·.locator = (wired "c").locator)) = true := by decide +kernel
  obtain ⟨⟨result, state', h⟩, hexec, hok⟩ := (Option.any_eq_true ..).1 hrun
  cases result with
  | error e => cases hok
  | ok found =>
    have hgoes : Goes comesBack (saved [(mouse1, token 1, wired "a")]) (.ok found) state' h :=
      Effects.Prog.Ends.of_exec repluggedReplies_does hexec
    have hlisted : ∀ ev ∈ h, ListsReplugged ev :=
      (Effects.Prog.Ends.of_exec (fun _ _ _ _ does => does) hexec).forall_events repluggedReplies_lists
        (List.forall_mem_nil _)
    have hlists : FactoryLists h := fun selection r hmem => ⟨replugged, hlisted _ hmem⟩
    obtain ⟨discovered, -, htransport, -⟩ := reappears_same_mouse mouse1 .wired (wired "a") (some (token 1)) 0 hgoes hlists
    exact ⟨found, state', h, hgoes, htransport, of_decide_eq_true hok⟩

end Rig

end AttackSharkX3
