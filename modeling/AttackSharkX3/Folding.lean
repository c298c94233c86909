import AttackSharkX3.Rig
import Mathlib.Data.List.FinRange
/-!
# Folding — the two passes over the rows of a scan

The passes as the manager makes them: counts of the unknown tokens and then a rewriting of the rows, and a map of the
mice seen that each row adds to.  What a row adds does not depend on when it comes, so the passes are
`markScanDuplicates` and `aggregateDiscoveredDevices`, which read the rows as a whole.
-/
namespace AttackSharkX3

open Std (TransOrd LawfulEqOrd)

def PhysicalId.asBytes (id : PhysicalId) : List UInt8 := id.token.toList

theorem PhysicalId.asBytes_inj (a b : PhysicalId) (h : a.asBytes = b.asBytes) : a = b := by
  obtain ⟨⟨a, ha⟩⟩ := a
  obtain ⟨⟨b, hb⟩⟩ := b
  cases h
  rfl

instance : Ord PhysicalId := ordOn PhysicalId.asBytes
instance : TransOrd PhysicalId := transOrdOn PhysicalId.asBytes
instance : LawfulEqOrd PhysicalId := lawfulEqOrdOn PhysicalId.asBytes PhysicalId.asBytes_inj

/-- A token seen on a transport, in the order of the pairs. -/
instance : Ord (TransportKind × PhysicalId) := lexOrd

namespace Folding

/-! ## Duplicates -/

/-- The first loop counts the row. -/
def countUnknown (counts : BTreeMap (TransportKind × PhysicalId) Nat) (row : ResolvedConnection) :
    BTreeMap (TransportKind × PhysicalId) Nat :=
  match row.resolution with
  | .unassociated .unknown (some token) =>
    counts.insert (row.endpoint.transport, token) (counts.getD (row.endpoint.transport, token) 0 + 1)
  | _ => counts

/-- The second loop rewrites the row. -/
def markDuplicate (counts : BTreeMap (TransportKind × PhysicalId) Nat) (row : ResolvedConnection) : ResolvedConnection :=
  match row.resolution with
  | .unassociated .unknown (some token) =>
    if 1 < counts.getD (row.endpoint.transport, token) 0 then
      { row with resolution := .unassociated .duplicate (some token) }
    else row
  | _ => row

def markScanDuplicates (resolved : List ResolvedConnection) : List ResolvedConnection :=
  resolved.map (markDuplicate (resolved.foldl countUnknown ∅))

section Duplicates

variable {rows : List ResolvedConnection} {row : ResolvedConnection} {transport : TransportKind} {token : PhysicalId}
  {counts counts' : BTreeMap (TransportKind × PhysicalId) Nat}

/-- The row shows the token on the transport, and no mouse has it. -/
abbrev Presents (transport : TransportKind) (token : PhysicalId) (row : ResolvedConnection) : Prop :=
  row.resolution = .unassociated .unknown (some token) ∧ row.endpoint.transport = transport

theorem getD_countUnknown : (countUnknown counts row).getD (transport, token) 0 =
    counts.getD (transport, token) 0 + if Presents transport token row then 1 else 0 := by
  unfold countUnknown
  split
  · next token' hrow =>
    rw [Std.ExtTreeMap.getD_insert]
    by_cases hsame : (row.endpoint.transport, token') = (transport, token)
    · cases hsame
      rw [if_pos (Std.compare_eq_iff_eq.2 rfl), if_pos ⟨hrow, rfl⟩]
    · rw [if_neg (mt Std.compare_eq_iff_eq.1 hsame), if_neg, Nat.add_zero]
      rintro ⟨hrow', rfl⟩
      rw [hrow] at hrow'
      cases hrow'
      exact hsame rfl
  · next hrow =>
    rw [if_neg, Nat.add_zero]
    rintro ⟨hrow', -⟩
    exact hrow token hrow'

/-- **The first loop counts every unknown token.** -/
theorem getD_foldl_countUnknown (rows : List ResolvedConnection) : ∀ counts : BTreeMap (TransportKind × PhysicalId) Nat,
    (rows.foldl countUnknown counts).getD (transport, token) 0 =
      counts.getD (transport, token) 0 + unknownCount rows transport token := by
  induction rows with
  | nil =>
    intro counts
    rfl
  | cons row rows ih =>
    intro counts
    have hcount : unknownCount (row :: rows) transport token =
        unknownCount rows transport token + if Presents transport token row then 1 else 0 := by
      unfold unknownCount
      simp only [List.countP_cons, decide_eq_true_eq]
    rw [List.foldl_cons, ih, getD_countUnknown, hcount]
    omega

theorem getD_counts : (rows.foldl countUnknown ∅).getD (transport, token) 0 = unknownCount rows transport token := by
  rw [getD_foldl_countUnknown, Std.ExtTreeMap.getD_empty, Nat.zero_add]

/-- The second loop reads nothing of the counts but their numbers. -/
theorem markDuplicate_congr (h : ∀ key, counts.getD key 0 = counts'.getD key 0) :
    markDuplicate counts row = markDuplicate counts' row := by
  unfold markDuplicate
  split
  · rw [h]
  · rfl

/-- **The two loops are the folding of the scan.** -/
theorem markScanDuplicates_eq : markScanDuplicates rows = AttackSharkX3.markScanDuplicates rows := by
  unfold markScanDuplicates AttackSharkX3.markScanDuplicates
  refine List.map_congr_left fun row _ => ?_
  unfold markDuplicate
  simp only [getD_counts]
  try rfl

/-- A row is left as it is, or it showed an unknown token and is a duplicate now. -/
theorem markDuplicate_cases : markDuplicate counts row = row ∨ ∃ token,
    row.resolution = .unassociated .unknown (some token) ∧ 1 < counts.getD (row.endpoint.transport, token) 0 ∧
      markDuplicate counts row = { row with resolution := .unassociated .duplicate (some token) } := by
  unfold markDuplicate
  split
  · next token hrow =>
    split
    · next hcount => exact .inr ⟨token, hrow, hcount, rfl⟩
    · exact .inl rfl
  · exact .inl rfl

theorem presents_markDuplicate : Presents transport token (markDuplicate counts row) ↔
    Presents transport token row ∧ counts.getD (transport, token) 0 ≤ 1 := by
  unfold markDuplicate
  split
  · next token' hrow =>
    split
    · next hcount =>
      constructor
      · rintro ⟨hdup, -⟩
        cases hdup
      · rintro ⟨⟨hrow', rfl⟩, hle⟩
        rw [hrow] at hrow'
        cases hrow'
        omega
    · next hcount =>
      refine ⟨fun h => ⟨h, ?_⟩, And.left⟩
      obtain ⟨hrow', rfl⟩ := h
      rw [hrow] at hrow'
      cases hrow'
      omega
  · next hrow =>
    refine ⟨fun h => ?_, And.left⟩
    exact (hrow token h.1).elim

/-- **No unknown token is left twice on a transport.** -/
theorem unknownCount_markScanDuplicates : unknownCount (markScanDuplicates rows) transport token =
    if unknownCount rows transport token ≤ 1 then unknownCount rows transport token else 0 := by
  have hkept : unknownCount (markScanDuplicates rows) transport token =
      rows.countP fun row => Presents transport token row ∧ unknownCount rows transport token ≤ 1 := by
    unfold markScanDuplicates
    rw [unknownCount, List.countP_map]
    refine List.countP_congr fun row _ => ?_
    simp only [Function.comp_apply, decide_eq_true_eq]
    rw [← getD_counts]
    exact presents_markDuplicate
  rw [hkept]
  split
  · next hle =>
    simp only [hle, and_true]
    rfl
  · next hgt => simp [hgt]

/-- What holds of one place of a list at most. -/
theorem eq_of_countP_le_one {α : Type} {p : α → Bool} {a b : α} : ∀ {l : List α} {i j : Nat}, l.countP p ≤ 1 →
    l[i]? = some a → l[j]? = some b → p a = true → p b = true → i = j
  | [], _, _, _, ha, _, _, _ => by cases ha
  | x :: l, 0, 0, _, _, _, _, _ => rfl
  | x :: l, 0, j + 1, h, ha, hb, hpa, hpb => by
    cases ha
    have hmem : b ∈ l := List.mem_of_getElem? (i := j) hb
    have hpos := List.countP_pos_iff.2 ⟨b, hmem, hpb⟩
    rw [List.countP_cons_of_pos hpa] at h
    omega
  | x :: l, i + 1, 0, h, ha, hb, hpa, hpb => by
    cases hb
    have hmem : a ∈ l := List.mem_of_getElem? (i := i) ha
    have hpos := List.countP_pos_iff.2 ⟨a, hmem, hpa⟩
    rw [List.countP_cons_of_pos hpb] at h
    omega
  | x :: l, i + 1, j + 1, h, ha, hb, hpa, hpb => by
    have hle : l.countP p ≤ 1 := by
      rw [List.countP_cons] at h
      omega
    exact congrArg (· + 1) (eq_of_countP_le_one hle ha hb hpa hpb)

theorem markScanDuplicates_idem : markScanDuplicates (markScanDuplicates rows) = markScanDuplicates rows := by
  have hsame : ∀ row ∈ markScanDuplicates rows,
      markDuplicate ((markScanDuplicates rows).foldl countUnknown ∅) row = row := by
    intro row _
    rcases markDuplicate_cases with hkept | ⟨token, -, hcount, -⟩
    · exact hkept
    · rw [getD_counts, unknownCount_markScanDuplicates] at hcount
      split at hcount <;> omega
  have hmap : markScanDuplicates (markScanDuplicates rows) =
      (markScanDuplicates rows).map (markDuplicate ((markScanDuplicates rows).foldl countUnknown ∅)) := rfl
  rw [hmap, List.map_congr_left hsame, List.map_id']

/-- **The rows may come in any order.** -/
theorem getElem_markScanDuplicates_perm (σ : Equiv.Perm (Fin rows.length)) (i : Fin rows.length) :
    (markScanDuplicates (List.ofFn fun i => rows[σ i]))[i]? = (markScanDuplicates rows)[σ i]? := by
  have hperm : (List.ofFn fun i => rows[σ i]).Perm rows := by
    have h := σ.ofFn_comp_perm rows.get
    rwa [List.ofFn_get] at h
  have hcounts : ∀ key, ((List.ofFn fun i => rows[σ i]).foldl countUnknown ∅).getD key 0 =
      (rows.foldl countUnknown ∅).getD key 0 := by
    rintro ⟨transport, token⟩
    rw [getD_counts, getD_counts]
    exact hperm.countP_eq _
  unfold markScanDuplicates
  rw [Fin.getElem?_fin, Fin.getElem?_fin, List.getElem?_map, List.getElem?_map]
  simp only [Fin.is_lt, List.getElem?_eq_getElem, List.length_ofFn, List.getElem_ofFn, Option.map_some]
  exact congrArg some (markDuplicate_congr hcounts)

end Duplicates

/-! ## Mice -/

/-- The mouse's row of the result, with one more connection. -/
def add (entry : DiscoveredDevice) (row : ResolvedConnection) : DiscoveredDevice where
  identity := entry.identity
  connected := entry.connected || row.connected
  transports :=
    if row.endpoint.transport ∈ entry.transports then entry.transports
    else entry.transports ++ [row.endpoint.transport]

/-- The loop looks at the row. -/
def aggregate (state : StateFile) (result : BTreeMap DeviceId DiscoveredDevice) (row : ResolvedConnection) :
    BTreeMap DeviceId DiscoveredDevice :=
  match row.resolution with
  | .resolved identity =>
    match state.devices[identity]? with
    | some device => result.alter identity fun entry => some (add (entry.getD ⟨device.identity, false, []⟩) row)
    | none => result
  | .unassociated _ _ => result

def sortTransports (device : DiscoveredDevice) : DiscoveredDevice :=
  { device with transports := device.transports.mergeSort fun a b => a.rank ≤ b.rank }

def aggregateDiscoveredDevices (state : StateFile) (resolved : List ResolvedConnection) : List DiscoveredDevice :=
  (resolved.foldl (aggregate state) ∅).values.map sortTransports

section Mice

variable {state : StateFile} {rows : List ResolvedConnection} {device : DeviceId} {saved : DeviceState}
  {entry : DiscoveredDevice} {result : BTreeMap DeviceId DiscoveredDevice}

/-- The rows resolved to the mouse. -/
def own (rows : List ResolvedConnection) (device : DeviceId) : List ResolvedConnection :=
  rows.filter fun row => row.resolution = .resolved device

theorem own_cons_pos {row : ResolvedConnection} (h : row.resolution = .resolved device) :
    own (row :: rows) device = row :: own rows device :=
  List.filter_cons_of_pos (decide_eq_true h)

theorem own_cons_neg {row : ResolvedConnection} (h : row.resolution ≠ .resolved device) :
    own (row :: rows) device = own rows device :=
  List.filter_cons_of_neg (by simpa using h)

/-- What the connections of one mouse make of its row. -/
def gathered (result : Option DiscoveredDevice) (saved : DeviceState) (rows : List ResolvedConnection) :
    Option DiscoveredDevice :=
  if rows = [] then result else some (rows.foldl add (result.getD ⟨saved.identity, false, []⟩))

theorem gathered_cons {row : ResolvedConnection} {entry : Option DiscoveredDevice} :
    gathered entry saved (row :: rows) = gathered (some (add (entry.getD ⟨saved.identity, false, []⟩) row)) saved rows := by
  unfold gathered
  rw [if_neg (List.cons_ne_nil row rows), List.foldl_cons]
  split
  · next hnil => rw [hnil, List.foldl_nil]
  · rfl

/-- **The loop gathers each saved mouse's connections, and nothing else.** -/
theorem get_foldl_aggregate (rows : List ResolvedConnection) : ∀ result : BTreeMap DeviceId DiscoveredDevice,
    (rows.foldl (aggregate state) result)[device]? =
      match state.devices[device]? with
      | some saved => gathered result[device]? saved (own rows device)
      | none => result[device]? := by
  induction rows with
  | nil =>
    intro result
    split <;> rfl
  | cons row rows ih =>
    intro result
    rw [List.foldl_cons, ih]
    by_cases hrow : row.resolution = .resolved device
    · have haggregate : aggregate state result row = match state.devices[device]? with
          | some saved => result.alter device fun entry => some (add (entry.getD ⟨saved.identity, false, []⟩) row)
          | none => result := by
        unfold aggregate
        rw [hrow]
      rw [own_cons_pos hrow, haggregate]
      split
      · next saved hsaved => rw [gathered_cons, Std.ExtTreeMap.getElem?_alter, if_pos (Std.compare_eq_iff_eq.2 rfl)]
      · rfl
    · have hother : (aggregate state result row)[device]? = result[device]? := by
        unfold aggregate
        split
        · next identity hidentity =>
          have hne : identity ≠ device := fun heq => hrow (heq ▸ hidentity)
          split
          · rw [Std.ExtTreeMap.getElem?_alter, if_neg (mt Std.compare_eq_iff_eq.1 hne)]
          · rfl
        · rfl
      rw [own_cons_neg hrow, hother]

/-! What the gathered connections say. -/

theorem identity_foldl_add (rows : List ResolvedConnection) : ∀ entry : DiscoveredDevice,
    (rows.foldl add entry).identity = entry.identity := by
  induction rows with
  | nil =>
    intro entry
    rfl
  | cons row rows ih =>
    intro entry
    rw [List.foldl_cons, ih]
    rfl

theorem connected_foldl_add (rows : List ResolvedConnection) : ∀ entry : DiscoveredDevice,
    (rows.foldl add entry).connected = (entry.connected || rows.any (·.connected)) := by
  induction rows with
  | nil =>
    intro entry
    simp
  | cons row rows ih =>
    intro entry
    rw [List.foldl_cons, ih, List.any_cons, ← Bool.or_assoc]
    rfl

theorem mem_add_transports {row : ResolvedConnection} {transport : TransportKind} :
    transport ∈ (add entry row).transports ↔ transport ∈ entry.transports ∨ row.endpoint.transport = transport := by
  unfold add
  dsimp only
  split
  · next hmem =>
    refine ⟨.inl, ?_⟩
    rintro (h | rfl)
    · exact h
    · exact hmem
  · rw [List.mem_append, List.mem_singleton, eq_comm]

theorem mem_foldl_add (rows : List ResolvedConnection) {transport : TransportKind} : ∀ entry : DiscoveredDevice,
    transport ∈ (rows.foldl add entry).transports ↔
      transport ∈ entry.transports ∨ ∃ row ∈ rows, row.endpoint.transport = transport := by
  induction rows with
  | nil =>
    intro entry
    simp
  | cons row rows ih =>
    intro entry
    rw [List.foldl_cons, ih, mem_add_transports, or_assoc]
    simp

theorem nodup_foldl_add (rows : List ResolvedConnection) : ∀ entry : DiscoveredDevice,
    entry.transports.Nodup → (rows.foldl add entry).transports.Nodup := by
  induction rows with
  | nil =>
    intro entry h
    exact h
  | cons row rows ih =>
    intro entry h
    refine ih _ ?_
    unfold add
    dsimp only
    split
    · exact h
    · next hmem =>
      refine List.nodup_append.2 ⟨h, List.nodup_singleton _, ?_⟩
      intro a ha b hb heq
      rw [List.mem_singleton] at hb
      subst hb heq
      exact hmem ha

/-- Sorted transports without repetition are determined by which ones they are. -/
theorem mergeSort_transports {transports : List TransportKind} (h : transports.Nodup) :
    transports.mergeSort (fun a b => a.rank ≤ b.rank) =
      [TransportKind.wired, .receiver, .ble].filter fun t => t ∈ transports := by
  have hperm : (transports.mergeSort fun a b => a.rank ≤ b.rank).Perm
      ([TransportKind.wired, .receiver, .ble].filter fun t => t ∈ transports) := by
    refine (List.mergeSort_perm _ _).trans ?_
    refine (List.perm_ext_iff_of_nodup h ((by decide : [TransportKind.wired, .receiver, .ble].Nodup).filter _)).2 ?_
    intro t
    cases t <;> simp
  have hsorted : (transports.mergeSort fun a b => a.rank ≤ b.rank).Pairwise fun a b => a.rank ≤ b.rank := by
    have htrans : ∀ a b c : TransportKind, decide (a.rank ≤ b.rank) = true → decide (b.rank ≤ c.rank) = true →
        decide (a.rank ≤ c.rank) = true := by
      intro a b c hab hbc
      exact decide_eq_true (Nat.le_trans (of_decide_eq_true hab) (of_decide_eq_true hbc))
    have htotal : ∀ a b : TransportKind, (decide (a.rank ≤ b.rank) || decide (b.rank ≤ a.rank)) = true := by
      intro a b
      rcases Nat.le_total a.rank b.rank with h | h <;> simp [h]
    simpa using List.pairwise_mergeSort htrans htotal transports
  have hfilter : ([TransportKind.wired, .receiver, .ble].filter fun t => t ∈ transports).Pairwise
      fun a b => a.rank ≤ b.rank := by
    refine List.Pairwise.filter _ ?_
    decide
  refine List.Perm.eq_of_pairwise ?_ hsorted hfilter hperm
  intro a b _ _ hab hba
  exact TransportKind.rank_inj a b (Nat.le_antisymm hab hba)

/-- A mouse's row, with all its connections gathered. -/
theorem sortTransports_foldl_add : sortTransports ((own rows device).foldl add ⟨saved.identity, false, []⟩) =
    { identity := saved.identity
      connected := (own rows device).any (·.connected)
      transports := [TransportKind.wired, .receiver, .ble].filter fun t =>
        (own rows device).any (·.endpoint.transport = t) } := by
  unfold sortTransports
  rw [mergeSort_transports (nodup_foldl_add _ _ List.nodup_nil), connected_foldl_add, identity_foldl_add,
    Bool.false_or]
  congr 1
  refine List.filter_congr fun t _ => ?_
  rw [Bool.eq_iff_iff]
  simp [mem_foldl_add]

/-- The mice of the result, in the order of their ids. -/
theorem aggregateDiscoveredDevices_filterMap : aggregateDiscoveredDevices state rows =
    state.devices.toList.filterMap fun entry => (gathered none entry.2 (own rows entry.1)).map sortTransports := by
  have hfold : rows.foldl (aggregate state) ∅ =
      state.devices.filterMap fun device saved => gathered none saved (own rows device) := by
    refine Std.ExtTreeMap.ext_getElem? fun device => ?_
    rw [get_foldl_aggregate, Std.ExtTreeMap.getElem?_filterMap]
    simp only [Std.ExtTreeMap.getKey_eq]
    cases hsaved : state.devices[device]? with
    | none => simp
    | some saved => simp
  unfold aggregateDiscoveredDevices
  rw [hfold, BTreeMap.values, Std.ExtTreeMap.toList_filterMap, List.map_filterMap, List.map_filterMap]
  refine List.filterMap_congr fun entry _ => ?_
  rw [Option.map_map, Option.map_map]
  rfl

/-- **The loop is the aggregation of the rows.** -/
theorem aggregateDiscoveredDevices_eq :
    aggregateDiscoveredDevices state rows = AttackSharkX3.aggregateDiscoveredDevices state rows := by
  rw [aggregateDiscoveredDevices_filterMap]
  unfold AttackSharkX3.aggregateDiscoveredDevices
  refine List.filterMap_congr fun entry _ => ?_
  unfold gathered
  by_cases hown : own rows entry.1 = []
  · have hempty : (rows.filter fun row => row.resolution = .resolved entry.1).isEmpty = true := by
      rw [List.isEmpty_iff]
      exact hown
    simp only [if_pos hown, Option.map_none, hempty, if_true]
  · have hnonempty : (rows.filter fun row => row.resolution = .resolved entry.1).isEmpty = false := by
      rw [Bool.eq_false_iff, ne_eq, List.isEmpty_iff]
      exact hown
    simp only [if_neg hown, Option.map_some, hnonempty, Bool.false_eq_true, if_false]
    exact congrArg some sortTransports_foldl_add

/-- One row for each saved mouse that has connections. -/
theorem aggregateDiscoveredDevices_map : aggregateDiscoveredDevices state rows =
    (state.devices.toList.filter fun entry => own rows entry.1 ≠ []).map fun entry =>
      sortTransports ((own rows entry.1).foldl add ⟨entry.2.identity, false, []⟩) := by
  rw [aggregateDiscoveredDevices_filterMap, ← List.filterMap_eq_map, ← List.filterMap_eq_filter,
    List.filterMap_filterMap]
  refine List.filterMap_congr fun entry _ => ?_
  unfold gathered
  by_cases hown : own rows entry.1 = []
  · simp [hown, Option.guard]
  · simp [hown, Option.guard]

theorem own_nonempty : own rows device ≠ [] ↔ ∃ row ∈ rows, row.resolution = .resolved device := by
  unfold own
  rw [ne_eq, List.filter_eq_nil_iff]
  simp

theorem own_perm {rows' : List ResolvedConnection} (h : rows.Perm rows') : (own rows device).Perm (own rows' device) :=
  h.filter _

theorem aggregateDiscoveredDevices_perm {rows' : List ResolvedConnection} (h : rows.Perm rows') :
    aggregateDiscoveredDevices state rows = aggregateDiscoveredDevices state rows' := by
  have hnonempty : ∀ device, own rows device = [] ↔ own rows' device = [] := by
    intro device
    have hperm : (own rows device).Perm (own rows' device) := own_perm h
    constructor
    · intro hnil
      rw [hnil] at hperm
      exact hperm.nil_eq.symm
    · intro hnil
      rw [hnil] at hperm
      exact hperm.eq_nil
  have hany : ∀ device (p : ResolvedConnection → Bool), (own rows device).any p = (own rows' device).any p :=
    fun device p => (own_perm h).any_eq
  rw [aggregateDiscoveredDevices_map, aggregateDiscoveredDevices_map]
  simp only [sortTransports_foldl_add, hnonempty, hany, ne_eq]

/-- What a mouse's row says. -/
theorem sortTransports_mentions : (sortTransports ((own rows device).foldl add ⟨saved.identity, false, []⟩)).identity =
      saved.identity ∧
    ((sortTransports ((own rows device).foldl add ⟨saved.identity, false, []⟩)).connected = true ↔
      ∃ row ∈ rows, row.resolution = .resolved device ∧ row.connected = true) ∧
    (sortTransports ((own rows device).foldl add ⟨saved.identity, false, []⟩)).transports.Pairwise
      (fun a b => a.rank < b.rank) ∧
    ∀ transport, transport ∈ (sortTransports ((own rows device).foldl add ⟨saved.identity, false, []⟩)).transports ↔
      ∃ row ∈ rows, row.resolution = .resolved device ∧ row.endpoint.transport = transport := by
  rw [sortTransports_foldl_add]
  refine ⟨rfl, ?_, ?_, ?_⟩
  · simp [own]
  · refine List.Pairwise.filter _ ?_
    decide
  · intro transport
    unfold own
    cases transport <;> simp

end Mice

/-- **Folding and aggregation do not depend on the order of the rows.**  Folding again changes nothing; folding permuted
rows permutes the folded rows; only a row that shows an unknown token is changed, into a duplicate of that token, and no
token is left unknown on two rows of one transport.  The mice aggregated are the same for all orders of the rows: each
saved mouse that some row resolves to, once, with what its rows say of it. -/
theorem order_independent :
    (∀ rows, markScanDuplicates (markScanDuplicates rows) = markScanDuplicates rows) ∧
    (∀ (rows : List ResolvedConnection) (σ : Equiv.Perm (Fin rows.length)) (i : Fin rows.length),
      (markScanDuplicates (List.ofFn fun i => rows[σ i]))[i]? = (markScanDuplicates rows)[σ i]?) ∧
    (∀ (rows : List ResolvedConnection) (i : Nat), (markScanDuplicates rows)[i]? = rows[i]? ∨
      ∃ row token, rows[i]? = some row ∧ row.resolution = .unassociated .unknown (some token) ∧
        (markScanDuplicates rows)[i]? = some { row with resolution := .unassociated .duplicate (some token) }) ∧
    (∀ (rows : List ResolvedConnection) (i j : Nat) (a b : ResolvedConnection) (token : PhysicalId),
      (markScanDuplicates rows)[i]? = some a → (markScanDuplicates rows)[j]? = some b →
      a.resolution = .unassociated .unknown (some token) → b.resolution = .unassociated .unknown (some token) →
      a.endpoint.transport = b.endpoint.transport → i = j) ∧
    (∀ (state : StateFile) (rows rows' : List ResolvedConnection), rows.Perm rows' →
      aggregateDiscoveredDevices state rows = aggregateDiscoveredDevices state rows') ∧
    ∀ (state : StateFile) (rows : List ResolvedConnection), ∃ devices : List DeviceId,
      devices.Pairwise (fun a b => compare a b = .lt) ∧
      (∀ device, device ∈ devices ↔
        (∃ saved, state.devices[device]? = some saved) ∧ ∃ row ∈ rows, row.resolution = .resolved device) ∧
      List.Forall₂ (fun device discovered =>
        (∃ saved, state.devices[device]? = some saved ∧ discovered.identity = saved.identity) ∧
        (discovered.connected = true ↔ ∃ row ∈ rows, row.resolution = .resolved device ∧ row.connected = true) ∧
        discovered.transports.Pairwise (fun a b => a.rank < b.rank) ∧
        ∀ transport, transport ∈ discovered.transports ↔
          ∃ row ∈ rows, row.resolution = .resolved device ∧ row.endpoint.transport = transport)
        devices (aggregateDiscoveredDevices state rows) := by
  refine ⟨fun rows => markScanDuplicates_idem, fun rows => getElem_markScanDuplicates_perm, ?_, ?_, ?_, ?_⟩
  · intro rows i
    unfold markScanDuplicates
    rw [List.getElem?_map]
    cases hrow : rows[i]? with
    | none => exact .inl rfl
    | some row =>
      have hcases := @markDuplicate_cases row (rows.foldl countUnknown ∅)
      rcases hcases with hkept | ⟨token, hunknown, -, hdup⟩
      · exact .inl (congrArg some hkept)
      · exact .inr ⟨row, token, rfl, hunknown, congrArg some hdup⟩
  · intro rows i j a b token ha hb hatoken hbtoken htransport
    have hcount : unknownCount (markScanDuplicates rows) b.endpoint.transport token ≤ 1 := by
      rw [unknownCount_markScanDuplicates]
      split <;> omega
    exact eq_of_countP_le_one hcount ha hb (decide_eq_true ⟨hatoken, htransport⟩) (decide_eq_true ⟨hbtoken, rfl⟩)
  · intro state rows rows' h
    exact aggregateDiscoveredDevices_perm h
  · intro state rows
    rw [aggregateDiscoveredDevices_map]
    refine ⟨(state.devices.toList.filter fun entry => own rows entry.1 ≠ []).map (·.1), ?_, ?_, ?_⟩
    · rw [List.pairwise_map]
      exact List.Pairwise.filter _ Std.ExtTreeMap.ordered_keys_toList
    · intro device
      simp only [List.mem_map, List.mem_filter, decide_eq_true_eq, own_nonempty, Prod.exists,
        Std.ExtTreeMap.mem_toList_iff_getElem?_eq_some]
      constructor
      · rintro ⟨_, saved, ⟨hsaved, hrow⟩, rfl⟩
        exact ⟨⟨saved, hsaved⟩, hrow⟩
      · rintro ⟨⟨saved, hsaved⟩, hrow⟩
        exact ⟨device, saved, ⟨hsaved, hrow⟩, rfl⟩
    · rw [List.forall₂_map_left_iff, List.forall₂_map_right_iff, List.forall₂_same]
      intro entry hentry
      have hsaved : state.devices[entry.1]? = some entry.2 :=
        Std.ExtTreeMap.mem_toList_iff_getElem?_eq_some.1 (List.mem_filter.1 hentry).1
      obtain ⟨hidentity, hsays⟩ := @sortTransports_mentions rows entry.1 entry.2
      exact ⟨⟨entry.2, hsaved, hidentity⟩, hsays⟩

end Folding

namespace Rig

/-- A mouse on a cable and over Bluetooth, listed either way. -/
theorem order_independent_twoTransports :
    Folding.aggregateDiscoveredDevices (saved [(mouse1, token 1, wired "a"), (mouse2, token 2, wired "b")])
        [⟨wired "a", true, .resolved mouse1⟩, ⟨ble "c", false, .resolved mouse1⟩] =
      Folding.aggregateDiscoveredDevices (saved [(mouse1, token 1, wired "a"), (mouse2, token 2, wired "b")])
        [⟨ble "c", false, .resolved mouse1⟩, ⟨wired "a", true, .resolved mouse1⟩] :=
  Folding.order_independent.2.2.2.2.1 _ _ _ (List.Perm.swap ..)

end Rig

end AttackSharkX3
