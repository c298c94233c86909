import AttackSharkX3.Alone
import AttackSharkX3.Finishes
import AttackSharkX3.Folding
import AttackSharkX3.Scan
/-!
# Associations — the endpoints a scan leaves its mice with

`sync` is the transaction as the manager writes it: the rows are grouped by mouse, and each mouse that is still saved gets
a new map of endpoints.  It is the transaction of the store, which replaces each mouse in place.
-/
namespace AttackSharkX3

namespace BTreeMap

variable {K V E : Type} [Ord K] [Std.TransOrd K] [Std.LawfulEqOrd K]

/-- Of the entries folded in, a key has the last. -/
theorem get_foldl_insert_last [DecidableEq K] (key : E → K) (value : E → V) {k : K} : ∀ (entries : List E) (m : BTreeMap K V),
    (entries.foldl (fun m e => m.insert (key e) (value e)) m)[k]? =
      ((entries.filter (key · = k)).getLast?.map value).or m[k]?
  | [], m => rfl
  | e :: entries, m => by
    rw [List.foldl_cons, get_foldl_insert_last key value entries]
    by_cases hkey : key e = k
    · subst hkey
      rw [List.filter_cons_of_pos (by simp), List.getLast?_cons, get_insert_self]
      cases (entries.filter (key · = key e)).getLast? <;> rfl
    · rw [List.filter_cons_of_neg (by simpa using hkey), get_insert_of_ne m hkey]

/-- A map is its entries, inserted. -/
theorem foldl_insert_toList (m : BTreeMap K V) :
    m.toList.foldl (fun m e => m.insert e.1 e.2) (∅ : BTreeMap K V) = m := by
  refine Std.ExtTreeMap.ext_getElem? fun k => ?_
  cases hk : m[k]? with
  | some v =>
    exact get_foldl_insert (·.1) (·.2) _ _ (distinct_toList m) (Std.ExtTreeMap.mem_toList_iff_getElem?_eq_some.2 hk)
  | none =>
    have hnone : ∀ e ∈ m.toList, e.1 ≠ k := by
      rintro ⟨k', v⟩ he rfl
      rw [Std.ExtTreeMap.mem_toList_iff_getElem?_eq_some.1 he] at hk
      cases hk
    exact (get_foldl_insert_of_ne (·.1) (·.2) m.toList ∅ hnone).trans Std.ExtTreeMap.getElem?_empty

/-- Inserting the entries that pass a test leaves those. -/
theorem foldl_insert_filter (m : BTreeMap K V) (p : K → V → Bool) :
    m.toList.foldl (fun kept e => if p e.1 e.2 then kept.insert e.1 e.2 else kept) (∅ : BTreeMap K V) = m.filter p := by
  have hfilter := foldl_insert_toList (m.filter p)
  rwa [Std.ExtTreeMap.toList_filter, List.foldl_filter] at hfilter

end BTreeMap

open Folding (own own_cons_pos own_cons_neg)

namespace Associations

/-! ## The transaction as written -/

def group (byDevice : BTreeMap DeviceId (List ResolvedConnection)) (row : ResolvedConnection) :
    BTreeMap DeviceId (List ResolvedConnection) :=
  match row.resolution with
  | .resolved identity => byDevice.alter identity fun rows => some (rows.getD [] ++ [row])
  | .unassociated _ _ => byDevice

/-- The endpoints that stay, and over them those of the rows. -/
def replace (scanTransports : List TransportKind) (rows : List ResolvedConnection)
    (old : BTreeMap TransportKind DeviceEndpoint) : BTreeMap TransportKind DeviceEndpoint :=
  let endpoints := old.toList.foldl (fun endpoints entry =>
    if entry.1 = .ble || !scanTransports.contains entry.1 then endpoints.insert entry.1 entry.2 else endpoints)
    (∅ : BTreeMap TransportKind DeviceEndpoint)
  rows.foldl (fun endpoints row => endpoints.insert row.endpoint.transport row.endpoint) endpoints

/-- One mouse of the loop; one that is gone is passed over. -/
def syncOne (selection : TransportSelection) (state : StateFile) (entry : DeviceId × List ResolvedConnection) : StateFile :=
  match state.devices[entry.1]? with
  | none => state
  | some device => { state with devices := state.devices.insert entry.1 { device with identity := { device.identity with
      endpoints := replace selection.scanTransports entry.2 device.identity.endpoints } } }

def sync (rows : List ResolvedConnection) (selection : TransportSelection) (state : StateFile) : StateFile :=
  (rows.foldl group ∅).toList.foldl (syncOne selection) state

section Written

variable {rows : List ResolvedConnection} {selection : TransportSelection} {state : StateFile} {d : DeviceId}

theorem get_foldl_group (rows : List ResolvedConnection) : ∀ byDevice : BTreeMap DeviceId (List ResolvedConnection),
    (rows.foldl group byDevice)[d]? =
      if own rows d = [] then byDevice[d]? else some (byDevice[d]?.getD [] ++ own rows d) := by
  induction rows with
  | nil =>
    intro byDevice
    rfl
  | cons row rows ih =>
    intro byDevice
    rw [List.foldl_cons, ih]
    by_cases hrow : row.resolution = .resolved d
    · have hgroup : (group byDevice row)[d]? = some (byDevice[d]?.getD [] ++ [row]) := by
        unfold group
        rw [hrow]
        simp
      rw [own_cons_pos hrow, hgroup, if_neg (List.cons_ne_nil _ _)]
      split
      · next hnil => rw [hnil]
      · simp
    · have hgroup : (group byDevice row)[d]? = byDevice[d]? := by
        unfold group
        split
        · next identity hidentity =>
          have hne : identity ≠ d := fun heq => hrow (heq ▸ hidentity)
          rw [Std.ExtTreeMap.getElem?_alter, if_neg (mt Std.compare_eq_iff_eq.1 hne)]
        · rfl
      rw [own_cons_neg hrow, hgroup]

theorem replace_eq {old : BTreeMap TransportKind DeviceEndpoint} {scanTransports : List TransportKind} :
    replace scanTransports rows old = syncedEndpoints old scanTransports (rows.map (·.endpoint)) := by
  unfold replace syncedEndpoints
  rw [List.foldl_map]
  dsimp only
  rw [BTreeMap.foldl_insert_filter old fun transport _ => transport = .ble || !scanTransports.contains transport]

/-- The loop changes the devices and nothing else. -/
theorem foldl_syncOne_frame (entries : List (DeviceId × List ResolvedConnection)) : ∀ state : StateFile,
    { entries.foldl (syncOne selection) state with devices := state.devices } = state := by
  induction entries with
  | nil =>
    intro state
    rfl
  | cons entry entries ih =>
    intro state
    have hone : { syncOne selection state entry with devices := state.devices } = state := by
      unfold syncOne
      split <;> rfl
    have hrest := congrArg (fun s : StateFile => { s with devices := state.devices }) (ih (syncOne selection state entry))
    exact hrest.trans hone

theorem get_syncOne_of_ne {entry : DeviceId × List ResolvedConnection} (hne : entry.1 ≠ d) :
    (syncOne selection state entry).devices[d]? = state.devices[d]? := by
  unfold syncOne
  split
  · rfl
  · exact BTreeMap.get_insert_of_ne _ hne _

theorem get_foldl_syncOne_of_ne (entries : List (DeviceId × List ResolvedConnection)) (hne : ∀ e ∈ entries, e.1 ≠ d) :
    ∀ state : StateFile, (entries.foldl (syncOne selection) state).devices[d]? = state.devices[d]? := by
  induction entries with
  | nil =>
    intro state
    rfl
  | cons entry entries ih =>
    intro state
    rw [List.foldl_cons, ih (fun e he => hne e (List.mem_cons_of_mem _ he)), get_syncOne_of_ne (hne entry List.mem_cons_self)]

theorem get_foldl_syncOne (entries : List (DeviceId × List ResolvedConnection))
    (hdistinct : entries.Pairwise fun a b => a.1 ≠ b.1) {own : List ResolvedConnection} (hmem : (d, own) ∈ entries) :
    ∀ state : StateFile, (entries.foldl (syncOne selection) state).devices[d]? =
      (state.devices[d]?).map fun device => { device with identity := { device.identity with
        endpoints := replace selection.scanTransports own device.identity.endpoints } } := by
  induction entries with
  | nil => cases hmem
  | cons entry entries ih =>
    intro state
    obtain ⟨hfirst, hrest⟩ := List.pairwise_cons.1 hdistinct
    rw [List.foldl_cons]
    rcases List.mem_cons.1 hmem with rfl | hmem
    · rw [get_foldl_syncOne_of_ne entries fun e he heq => hfirst e he heq.symm]
      unfold syncOne
      split
      · next hnone => rw [hnone, Option.map_none]
      · next device hdevice => rw [hdevice, BTreeMap.get_insert_self, Option.map_some]
    · rw [ih hrest hmem, get_syncOne_of_ne (hfirst _ hmem)]

/-- **The loop is the store's transaction.** -/
theorem sync_eq : sync rows selection state = (Txn.syncEndpointAssociations rows selection).after state := by
  have hdevices : (sync rows selection state).devices = state.devices.map (Txn.syncDevice rows selection) := by
    refine Std.ExtTreeMap.ext_getElem? fun d => ?_
    rw [Std.ExtTreeMap.getElem?_map]
    have hgroup := @get_foldl_group d rows ∅
    have hseen : rowsOf rows d = (own rows d).map (·.endpoint) := rfl
    by_cases hown : own rows d = []
    · rw [if_pos hown] at hgroup
      have hnone : ∀ e ∈ (rows.foldl group ∅).toList, e.1 ≠ d := by
        rintro ⟨d', rows'⟩ he rfl
        rw [Std.ExtTreeMap.mem_toList_iff_getElem?_eq_some.1 he] at hgroup
        simp at hgroup
      unfold sync
      rw [get_foldl_syncOne_of_ne _ hnone]
      cases state.devices[d]? with
      | none => rfl
      | some device =>
        unfold Txn.syncDevice
        rw [Option.map_some, hseen, hown]
        rfl
    · rw [if_neg hown, Std.ExtTreeMap.getElem?_empty, Option.getD_none, List.nil_append] at hgroup
      have hmem := Std.ExtTreeMap.mem_toList_iff_getElem?_eq_some.2 hgroup
      have hsome : (rowsOf rows d).isEmpty = false := by
        rw [hseen, List.isEmpty_map, Bool.eq_false_iff, ne_eq, List.isEmpty_iff]
        exact hown
      unfold sync
      rw [get_foldl_syncOne _ (BTreeMap.distinct_toList _) hmem]
      unfold Txn.syncDevice
      simp only [hsome, Bool.false_eq_true, if_false, replace_eq, ← hseen]
  have hframe := @foldl_syncOne_frame selection (rows.foldl group ∅).toList state
  have hafter : (Txn.syncEndpointAssociations rows selection).after state =
      { state with devices := state.devices.map (Txn.syncDevice rows selection) } := rfl
  rw [hafter, ← hdevices]
  exact congrArg (fun s : StateFile => { s with devices := (sync rows selection state).devices }) hframe

end Written

end Associations

/-! ## Mice that differ in their endpoints -/

/-- The mouse has other endpoints, and nothing else is different. -/
def DeviceState.Reassociated (device device' : DeviceState) : Prop :=
  { device' with identity := { device'.identity with endpoints := device.identity.endpoints } } = device

section Reassociated

variable {state : StateFile} {change : DeviceId → DeviceState → DeviceState} {journal : IdentitySetupJournal}

theorem DeviceState.Reassociated.physicalId {device device' : DeviceState} (h : device.Reassociated device') :
    device'.identity.physicalId = device.identity.physicalId :=
  congrArg (·.identity.physicalId) h

theorem contains_changed (devices : BTreeMap DeviceId DeviceState) (d : DeviceId) :
    (devices.map change).contains d = devices.contains d := by
  simp

theorem of_changed {d : DeviceId} {device' : DeviceState} (h : (state.devices.map change)[d]? = some device') :
    ∃ device, state.devices[d]? = some device ∧ change d device = device' := by
  rw [Std.ExtTreeMap.getElem?_map] at h
  exact Option.map_eq_some_iff.1 h

theorem validateDevice_reassociated {d : DeviceId} {device device' : DeviceState} (hd : validateDevice d device = .ok ())
    (hsame : device.Reassociated device') (hends : device'.identity.validate = .ok ()) : validateDevice d device' = .ok () := by
  obtain ⟨hid, -, hmetadata, hprofiles, hnames⟩ := validateDevice_ok.1 hd
  refine validateDevice_ok.2 ⟨?_, hends, ?_, ?_, ?_⟩
  · exact (congrArg (·.identity.id) hsame).trans hid
  · rw [← hsame] at hmetadata
    exact hmetadata
  · rw [← hsame] at hprofiles
    exact hprofiles
  · rw [← hsame] at hnames
    exact hnames

variable (hsame : ∀ (d : DeviceId) (device : DeviceState), state.devices[d]? = some device →
  device.Reassociated (change d device))

include hsame

theorem physicalIdOf_changed (d : DeviceId) :
    physicalIdOf { state with devices := state.devices.map change } d = physicalIdOf state d := by
  unfold physicalIdOf
  rw [Std.ExtTreeMap.getElem?_map]
  cases hd : state.devices[d]? with
  | none => rfl
  | some device => exact (hsame d device hd).physicalId

theorem validateIdentityMode_changed (h : state.validateIdentityMode = .ok ()) :
    { state with devices := state.devices.map change }.validateIdentityMode = .ok () := by
  have hmodes : state.identityMode = .legacy ∨ state.identityMode = .persistent := by
    cases state.identityMode
    · exact .inl rfl
    · exact .inr rfl
  rcases hmodes with hmode | hmode
  · unfold StateFile.validateIdentityMode at h ⊢
    simp only [hmode, StateFile.then_ok, check_ok, forM_toList_ok] at h ⊢
    refine ⟨?_, ?_⟩
    · rw [Std.ExtTreeMap.size_map]
      exact h.1
    · intro d device' hd'
      obtain ⟨device, hd, rfl⟩ := of_changed hd'
      exact (hsame d device hd).physicalId.trans (h.2 d device hd)
  · obtain ⟨hall, hone⟩ := (StateFile.validateIdentityMode_persistent hmode).1 h
    have hmode' : { state with devices := state.devices.map change }.identityMode = .persistent := hmode
    refine (StateFile.validateIdentityMode_persistent hmode').2 ⟨?_, ?_⟩
    · intro d device' hd'
      obtain ⟨device, hd, rfl⟩ := of_changed hd'
      rw [physicalIdOf_changed hsame]
      exact hall d device hd
    · intro d d' A hA hA'
      rw [physicalIdOf_changed hsame] at hA hA'
      exact hone d d' A hA hA'

theorem validateSubject_changed {subject : IdentitySetupSubject} {reserved : List PhysicalId}
    (h : IdentitySetupJournal.validateSubject state.devices subject reserved = .ok ()) :
    IdentitySetupJournal.validateSubject (state.devices.map change) subject reserved = .ok () := by
  obtain ⟨himage, hcaptured, htracked, hsaved, hstamped, htokens, hrotates⟩ := IdentitySetupJournal.validateSubject_ok.1 h
  refine IdentitySetupJournal.validateSubject_ok.2 ⟨himage, hcaptured, htracked, ?_, hstamped, ?_, ?_⟩
  · intro d hd
    rw [contains_changed]
    exact hsaved d hd
  · intro token htoken
    refine ⟨(htokens token htoken).1, ?_⟩
    intro d device' hd'
    obtain ⟨device, hd, rfl⟩ := of_changed hd'
    rw [(hsame d device hd).physicalId]
    exact (htokens token htoken).2 d device hd
  · intro old hold
    obtain ⟨hfresh, d, device, hbound, hd, hcurrent, hne⟩ :=
      IdentitySetupJournal.validateOldToken_ok.1 (hrotates old hold)
    refine IdentitySetupJournal.validateOldToken_ok.2 ⟨hfresh, d, change d device, hbound, ?_, ?_, hne⟩
    · rw [Std.ExtTreeMap.getElem?_map, hd, Option.map_some]
    · rw [(hsame d device hd).physicalId]
      exact hcurrent

theorem validateSubjects_changed : ∀ {subjects : List IdentitySetupSubject} {reserved : List PhysicalId},
    IdentitySetupJournal.validateSubjects state.devices subjects reserved = .ok () →
      IdentitySetupJournal.validateSubjects (state.devices.map change) subjects reserved = .ok ()
  | [], _, _ => rfl
  | subject :: subjects, reserved, h => by
    rw [IdentitySetupJournal.validateSubjects, StateFile.then_ok] at h ⊢
    exact ⟨validateSubject_changed hsame h.1, validateSubjects_changed h.2⟩

omit hsame in
/-- Only an association looks at the endpoints of the saved mice. -/
theorem validateShape_changed (hphase : journal.phase ≠ .bleAssociation) :
    journal.validateShape (state.devices.map change) = journal.validateShape state.devices := by
  unfold IdentitySetupJournal.validateShape
  cases hp : journal.phase <;> first | rfl | exact (hphase hp).elim

/-- **Other endpoints leave a valid state valid**, where each is one its mouse may have and none is being associated. -/
theorem validate_changed (hv : state.validate = .ok ())
    (hphase : ∀ journal, state.identitySetup = some journal → journal.phase ≠ .bleAssociation)
    (hends : ∀ (d : DeviceId) (device : DeviceState), state.devices[d]? = some device →
      (change d device).identity.validate = .ok ()) :
    { state with devices := state.devices.map change }.validate = .ok () := by
  obtain ⟨hschema, hnext, hmax, hselected, hdevices, hmode, hsetup, hmapping⟩ := StateFile.validate_ok.1 hv
  refine StateFile.validate_ok.2 ⟨hschema, hnext, ?_, ?_, ?_, validateIdentityMode_changed hsame hmode, ?_, ?_⟩
  · rw [StateFile.maxNumber_lt] at hmax ⊢
    refine ⟨hmax.1, ?_⟩
    intro d device' hd'
    obtain ⟨device, hd, -⟩ := of_changed hd'
    exact hmax.2 d device hd
  · rw [StateFile.validateSelected_ok] at hselected ⊢
    intro d hd
    rw [contains_changed]
    exact hselected d hd
  · rw [forM_toList_ok] at hdevices ⊢
    intro d device' hd'
    obtain ⟨device, hd, rfl⟩ := of_changed hd'
    exact validateDevice_reassociated (hdevices d device hd) (hsame d device hd) (hends d device hd)
  · unfold StateFile.validateSetup at hsetup ⊢
    cases hj : state.identitySetup with
    | none => rfl
    | some journal =>
      rw [hj] at hsetup
      obtain ⟨hjmode, hcounts, hstage, hsubjects, hshape⟩ := StateFile.validateIdentitySetup_ok.1 hsetup
      refine StateFile.validateIdentitySetup_ok.2 ⟨hjmode, hcounts, hstage, validateSubjects_changed hsame hsubjects, ?_⟩
      rw [validateShape_changed (hphase journal hj)]
      exact hshape
  · rw [StateFile.validateEndpointMapping_ok] at hmapping ⊢
    refine ⟨?_, hmapping.2⟩
    intro key d hkey
    rw [contains_changed]
    exact hmapping.1 key d hkey

end Reassociated

/-! ## What a scan changes -/

open Effects (Leads)

section Scan

variable {rows : List ResolvedConnection} {selection : TransportSelection} {state : StateFile} {d : DeviceId}
  {device : DeviceState} {transport : TransportKind}

theorem own_eq_nil : own rows d = [] ↔ ∀ row ∈ rows, row.resolution ≠ .resolved d := by
  unfold Folding.own
  rw [List.filter_eq_nil_iff]
  simp

/-- A mouse no row belongs to stays as it is. -/
theorem syncDevice_of_none (h : own rows d = []) : Txn.syncDevice rows selection d device = device := by
  have hseen : rowsOf rows d = (own rows d).map (·.endpoint) := rfl
  unfold Txn.syncDevice
  rw [hseen, h]
  rfl

theorem syncDevice_of_some (h : own rows d ≠ []) : Txn.syncDevice rows selection d device =
    { device with identity := { device.identity with
        endpoints := syncedEndpoints device.identity.endpoints selection.scanTransports
          ((own rows d).map (·.endpoint)) } } := by
  have hseen : rowsOf rows d = (own rows d).map (·.endpoint) := rfl
  have hsome : ((own rows d).map (·.endpoint)).isEmpty = false := by
    rw [List.isEmpty_map, Bool.eq_false_iff, ne_eq, List.isEmpty_iff]
    exact h
  unfold Txn.syncDevice
  simp only [hseen, hsome, Bool.false_eq_true, if_false]

theorem syncDevice_reassociated : device.Reassociated (Txn.syncDevice rows selection d device) := by
  by_cases h : own rows d = []
  · rw [syncDevice_of_none h]
    rfl
  · rw [syncDevice_of_some h]
    rfl

/-- **The endpoint of a transport after a scan**: that of the last row of the transport, else the old one if it stays. -/
theorem get_syncedEndpoints {old : BTreeMap TransportKind DeviceEndpoint} {scanTransports : List TransportKind}
    {seen : List DeviceEndpoint} : (syncedEndpoints old scanTransports seen)[transport]? =
      (seen.filter (·.transport = transport)).getLast?.or
        (if transport = .ble ∨ transport ∉ scanTransports then old[transport]? else none) := by
  unfold syncedEndpoints
  refine (BTreeMap.get_foldl_insert_last (fun endpoint : DeviceEndpoint => endpoint.transport) id seen _).trans ?_
  rw [Option.map_id, Std.ExtTreeMap.getElem?_filter']
  congr 1
  cases old[transport]? with
  | none => simp
  | some endpoint => simp [Option.filter]

/-- A row of the transport replaces the endpoint. -/
theorem syncedEndpoints_seen {old : BTreeMap TransportKind DeviceEndpoint} {scanTransports : List TransportKind}
    {seen : List DeviceEndpoint} (h : ∃ endpoint ∈ seen, endpoint.transport = transport) :
    ∃ endpoint ∈ seen, endpoint.transport = transport ∧
      (syncedEndpoints old scanTransports seen)[transport]? = some endpoint := by
  obtain ⟨endpoint, hmem, htransport⟩ := h
  have hne : seen.filter (·.transport = transport) ≠ [] :=
    List.ne_nil_of_mem (List.mem_filter.2 ⟨hmem, decide_eq_true htransport⟩)
  obtain ⟨last, hlast⟩ := Option.ne_none_iff_exists'.1 (mt List.getLast?_eq_none_iff.1 hne)
  obtain ⟨hseen, hkind⟩ := List.mem_filter.1 (List.mem_of_getLast? hlast)
  refine ⟨last, hseen, of_decide_eq_true hkind, ?_⟩
  rw [get_syncedEndpoints, hlast]
  rfl

theorem syncedEndpoints_unseen {old : BTreeMap TransportKind DeviceEndpoint} {scanTransports : List TransportKind}
    {seen : List DeviceEndpoint} (h : ∀ endpoint ∈ seen, endpoint.transport ≠ transport) :
    (syncedEndpoints old scanTransports seen)[transport]? =
      if transport = .ble ∨ transport ∉ scanTransports then old[transport]? else none := by
  have hnone : seen.filter (·.transport = transport) = [] := by
    rw [List.filter_eq_nil_iff]
    simpa using h
  rw [get_syncedEndpoints, hnone]
  rfl

/-- **Each endpoint of a mouse after a scan** is a row's, under its transport, or was there. -/
theorem get_syncDevice {endpoint : DeviceEndpoint}
    (h : (Txn.syncDevice rows selection d device).identity.endpoints[transport]? = some endpoint) :
    (∃ row ∈ rows, row.resolution = .resolved d ∧ row.endpoint = endpoint ∧ endpoint.transport = transport) ∨
      device.identity.endpoints[transport]? = some endpoint := by
  by_cases hown : own rows d = []
  · rw [syncDevice_of_none hown] at h
    exact .inr h
  · rw [syncDevice_of_some hown] at h
    by_cases hseen : ∃ endpoint ∈ (own rows d).map (·.endpoint), endpoint.transport = transport
    · obtain ⟨seen, hmem, htransport, hget⟩ := @syncedEndpoints_seen transport device.identity.endpoints
        selection.scanTransports _ hseen
      have heq : seen = endpoint := Option.some.inj (hget.symm.trans h)
      obtain ⟨row, hrow, rfl⟩ := List.mem_map.1 hmem
      obtain ⟨hrow, hresolved⟩ := List.mem_filter.1 hrow
      exact .inl ⟨row, hrow, of_decide_eq_true hresolved, heq, heq ▸ htransport⟩
    · have hunseen : ∀ endpoint ∈ (own rows d).map (·.endpoint), endpoint.transport ≠ transport := by
        intro endpoint hmem heq
        exact hseen ⟨endpoint, hmem, heq⟩
      dsimp only at h
      rw [syncedEndpoints_unseen hunseen] at h
      split at h
      · exact .inr h
      · cases h

/-- An accepted endpoint of a row leaves an identity its check. -/
theorem validate_syncDevice (hd : device.identity.validate = .ok ())
    (hrows : ∀ row ∈ rows, row.resolution = .resolved d → row.endpoint.Accepted) :
    (Txn.syncDevice rows selection d device).identity.validate = .ok () := by
  have hid : (Txn.syncDevice rows selection d device).identity.id = device.identity.id :=
    congrArg (·.identity.id) (@syncDevice_reassociated rows selection d device)
  refine DeviceIdentity.validate_ok.2 fun transport endpoint hget => ?_
  rw [hid]
  rcases get_syncDevice hget with ⟨row, hrow, hresolved, rfl, rfl⟩ | hold
  · exact (hrows row hrow hresolved).check _
  · exact DeviceIdentity.validate_ok.1 hd transport endpoint hold

theorem leads_syncEndpointAssociations : Leads (S := Backend) Op.does (fun s _ => s = state)
    (syncEndpointAssociations rows selection)
    (fun _ s _ => s = (Txn.syncEndpointAssociations rows selection).after state ∧ (s = state ∨ s.validate = .ok ()))
    fun _ s _ => s = state ∨ (s = (Txn.syncEndpointAssociations rows selection).after state ∧ s.validate = .ok ()) := by
  have hcall : syncEndpointAssociations rows selection = if anyResolved rows = true then
      (Manager.commit (.syncEndpointAssociations rows selection) : Manager Unit) else pure () := rfl
  rw [hcall]
  split
  · refine Leads.perform ?_
    rintro s h r s' rfl (hcommits : Commits _ _ r s')
    cases hcommits with
    | unchanged same => exact ⟨same.symm, .inl rfl⟩
    | stored valid => exact ⟨rfl, .inr valid⟩
    | rejected invalid => exact .inl rfl
    | failed e => exact .inl rfl
    | unsynced e valid => exact .inr ⟨rfl, valid⟩
  · next hnone =>
    refine Leads.pure ?_
    rintro s h rfl
    rw [Bool.not_eq_true] at hnone
    exact ⟨(sync_after_of_not_anyResolved hnone selection s).symm, .inl rfl⟩

end Scan

open Associations in
/-- **A scan replaces the endpoints of the mice it saw, and nothing else.**  Whatever the call leaves is the state or the
replaced one, the latter when it succeeds, and is valid if the state was.  In the replaced state only endpoints of mice
that a row resolves to differ: each transport of a row has the endpoint of a row, Bluetooth and unscanned transports
keep theirs, the other scanned ones have none.  With endpoints a mouse may have, the replaced state is valid too. -/
theorem associations_framed (rows : List ResolvedConnection) (selection : TransportSelection) (state : StateFile) :
    (∀ result state' h, Goes (syncEndpointAssociations rows selection) state result state' h →
      (state' = state ∨ state' = sync rows selection state) ∧ (result = .ok () → state' = sync rows selection state) ∧
        (state.validate = .ok () → state'.validate = .ok ())) ∧
    { sync rows selection state with devices := state.devices } = state ∧
    (∀ d : DeviceId, state.devices[d]? = none → (sync rows selection state).devices[d]? = none) ∧
    (∀ (d : DeviceId) (device : DeviceState), state.devices[d]? = some device → ∃ device', (sync rows selection state).devices[d]? = some device' ∧
      device.Reassociated device' ∧
      ((∀ row ∈ rows, row.resolution ≠ .resolved d) → device' = device) ∧
      ((∃ row ∈ rows, row.resolution = .resolved d) → ∀ transport,
        ((∃ row ∈ rows, row.resolution = .resolved d ∧ row.endpoint.transport = transport) →
          ∃ row ∈ rows, row.resolution = .resolved d ∧ row.endpoint.transport = transport ∧
            device'.identity.endpoints[transport]? = some row.endpoint) ∧
        ((∀ row ∈ rows, row.resolution = .resolved d → row.endpoint.transport ≠ transport) →
          device'.identity.endpoints[transport]? =
            if transport = .ble ∨ transport ∉ selection.scanTransports then device.identity.endpoints[transport]?
            else none)) ∧
      ((∀ (transport : TransportKind) (endpoint : DeviceEndpoint), device.identity.endpoints[transport]? = some endpoint →
          endpoint.transport = transport) →
        ∀ (transport : TransportKind) (endpoint : DeviceEndpoint), device'.identity.endpoints[transport]? = some endpoint →
          endpoint.transport = transport)) ∧
    (state.validate = .ok () → (∀ journal, state.identitySetup = some journal → journal.phase ≠ .bleAssociation) →
      (∀ row ∈ rows, ∀ d, row.resolution = .resolved d → row.endpoint.Accepted) →
      (sync rows selection state).validate = .ok ()) := by
  have hdevice : ∀ d : DeviceId, (sync rows selection state).devices[d]? =
      (state.devices[d]?).map (Txn.syncDevice rows selection d) := by
    intro d
    rw [sync_eq]
    exact Std.ExtTreeMap.getElem?_map
  refine ⟨?_, ?_, ?_, ?_, ?_⟩
  · intro result state' h hgoes
    have hends := leads_syncEndpointAssociations state [] result state' h rfl hgoes
    rw [sync_eq]
    cases result with
    | ok u =>
      obtain ⟨rfl, hvalid⟩ := hends
      refine ⟨.inr rfl, fun _ => rfl, fun hv => ?_⟩
      rcases hvalid with hsame | hvalid
      · rw [hsame]
        exact hv
      · exact hvalid
    | error e =>
      rcases hends with rfl | ⟨rfl, hvalid⟩
      · exact ⟨.inl rfl, nofun, fun hv => hv⟩
      · exact ⟨.inr rfl, nofun, fun _ => hvalid⟩
  · rw [sync_eq]
    rfl
  · intro d hnone
    rw [hdevice, hnone, Option.map_none]
  · intro d device hd
    refine ⟨Txn.syncDevice rows selection d device, by rw [hdevice, hd, Option.map_some], syncDevice_reassociated, ?_, ?_, ?_⟩
    · intro hnone
      exact syncDevice_of_none (own_eq_nil.2 hnone)
    · intro hsome transport
      have hown : own rows d ≠ [] := Folding.own_nonempty.2 hsome
      rw [syncDevice_of_some hown]
      refine ⟨?_, ?_⟩
      · rintro ⟨row, hrow, hresolved, htransport⟩
        have hmem : row ∈ own rows d := List.mem_filter.2 ⟨hrow, decide_eq_true hresolved⟩
        obtain ⟨endpoint, hmem', htransport', hget⟩ := @syncedEndpoints_seen transport device.identity.endpoints
          selection.scanTransports _ ⟨row.endpoint, List.mem_map_of_mem hmem, htransport⟩
        obtain ⟨row', hrow', rfl⟩ := List.mem_map.1 hmem'
        obtain ⟨hrow', hresolved'⟩ := List.mem_filter.1 hrow'
        exact ⟨row', hrow', of_decide_eq_true hresolved', htransport', hget⟩
      · intro hunseen
        refine syncedEndpoints_unseen ?_
        intro endpoint hmem
        obtain ⟨row, hrow, rfl⟩ := List.mem_map.1 hmem
        obtain ⟨hrow, hresolved⟩ := List.mem_filter.1 hrow
        exact hunseen row hrow (of_decide_eq_true hresolved)
    · intro hkeys transport endpoint hget
      rcases get_syncDevice hget with ⟨row, -, -, -, htransport⟩ | hold
      · exact htransport
      · exact hkeys transport endpoint hold
  · intro hv hphase haccepted
    rw [sync_eq]
    refine validate_changed (fun d device _ => syncDevice_reassociated) hv hphase fun d device hd => ?_
    obtain ⟨-, hidentity, -⟩ := validateDevice_ok.1 (StateFile.valid_device hv hd)
    exact validate_syncDevice hidentity fun row hrow hresolved => haccepted row hrow d hresolved

namespace Rig

def atA : StateFile := saved [(mouse1, token 1, wired "a")]
def seenAtB : List ResolvedConnection := [⟨wired "b", true, .resolved mouse1⟩]

/-- A mouse is seen at another port: the call succeeds, its endpoint is the new one, and the state is valid. -/
theorem associations_framed_moved : ∃ state' h device', Goes (syncEndpointAssociations seenAtB .auto) atA (.ok ()) state' h ∧
    state'.validate = .ok () ∧ state'.devices[mouse1]? = some device' ∧
    device'.identity.endpoints[TransportKind.wired]? = some (wired "b") := by
  have hv : atA.validate = .ok () := by decide +kernel
  obtain ⟨hends, -, -, hdevices, hvalid⟩ := associations_framed seenAtB .auto atA
  have haccepted : ∀ row ∈ seenAtB, ∀ d, row.resolution = .resolved d → row.endpoint.Accepted := by
    intro row hrow d _
    obtain rfl := List.mem_singleton.1 hrow
    exact accepted_wired "b" (by decide)
  have hafter : ((Txn.syncEndpointAssociations seenAtB .auto).after atA).validate = .ok () := by
    rw [← Associations.sync_eq]
    exact hvalid hv nofun haccepted
  have hgoes : Goes (syncEndpointAssociations seenAtB .auto) atA (.ok ())
      ((Txn.syncEndpointAssociations seenAtB .auto).after atA)
      [⟨Op.commit (.syncEndpointAssociations seenAtB .auto), .ok (.ok ())⟩] :=
    Effects.ends_perform (S := Backend) (o := Op.commit (.syncEndpointAssociations seenAtB .auto)) (.ok (.ok ())) rfl
      (Commits.stored hafter)
  obtain ⟨-, hsynced, hstill⟩ := hends _ _ _ hgoes
  have hd : atA.devices[mouse1]? = some
      (.new ({ DeviceIdentity.new mouse1 none with physicalId := some (token 1) }.upsertEndpoint (wired "a"))) := rfl
  obtain ⟨device', hd', -, -, hreplaced, -⟩ := hdevices mouse1 _ hd
  obtain ⟨row, hrow, -, -, hget⟩ := (hreplaced ⟨_, List.mem_singleton_self _, rfl⟩ .wired).1
    ⟨_, List.mem_singleton_self _, rfl, rfl⟩
  obtain rfl := List.mem_singleton.1 hrow
  refine ⟨_, _, device', hgoes, hstill hv, ?_, hget⟩
  rw [hsynced rfl]
  exact hd'

end Rig

end AttackSharkX3
