import AttackSharkX3.Rig
import AttackSharkX3.Surface
/-!
# Presented — which connection a ceremony acts on

The window's worker and the command-line tool each pick the mouse the user presents out of a scan, each by a filter of its
own.  The tool refuses to choose among several; the worker takes the first that fits.
-/
namespace AttackSharkX3

/-! ## The command-line tool -/

/-- An error of the tool. -/
structure CliError where
  display : String
  debug : String
deriving DecidableEq

def CliError.message (message : String) : CliError := ⟨message, debugString message⟩

def formatTransport : TransportKind → String
  | .wired => "wired"
  | .receiver => "receiver"
  | .ble => "ble"

def formatEndpointHuman (endpoint : DeviceEndpoint) : String :=
  match endpoint.locator with
  | .usbPath path =>
    let text := s!"{formatTransport endpoint.transport} {path}"
    match endpoint.vendorId, endpoint.productId with
    | some vendor, some product => s!"{text} ({hex4 vendor.toNat}:{hex4 product.toNat})"
    | _, _ => text
  | .blePlatformId id => match endpoint.displayName with
    | some name => s!"ble {id} ({name})"
    | none => s!"ble {id}"

def endpointList (candidates : List ResolvedConnection) : String :=
  ", ".intercalate (candidates.map fun connection => formatEndpointHuman connection.endpoint)

def ambiguousEndpointError (candidates : List ResolvedConnection) : CliError :=
  .message s!"more than one eligible mouse is connected ({endpointList candidates}); disconnect the others so only the mouse being added stays connected"

def connectedUsb (view : DiscoveryView) : List ResolvedConnection :=
  view.connections.filter fun connection => connection.connected && isUsbTransport connection.endpoint.transport

def isUnassociated : IdentityResolution → Bool
  | .unassociated .. => true
  | .resolved _ => false

def isUnknown : IdentityResolution → Bool
  | .unassociated .unknown _ => true
  | _ => false

/-- **The endpoint the user just reconnected for a ceremony**, where there is only one it can be. -/
def pickCeremonyEndpoint (view : DiscoveryView) (kind : IdentityCeremonyKind) : Except CliError DeviceEndpoint :=
  let connected := connectedUsb view
  if connected.isEmpty then .error (.message "no connected USB mouse found; reconnect the mouse you're adding")
  else if kind = .foreignAdoption then
    match connected.filter fun connection => isUnknown connection.resolution with
    | [connection] => .ok connection.endpoint
    | [] => .error (.message "no mouse carrying a valid identity from another installation is connected")
    | unknown => .error (ambiguousEndpointError unknown)
  else
    match connected.filter fun connection => isUnassociated connection.resolution with
    | [connection] => .ok connection.endpoint
    | [] =>
      -- legacy discovery resolves every connection to its one mouse
      match kind, connected with
      | .initialEnrollment, [connection] => .ok connection.endpoint
      | _, _ => .error (.message
          "no unrecognized mouse is connected; the mouse being added must be an unmarked mouse")
    | unassociated => .error (ambiguousEndpointError unassociated)

/-- The connected Bluetooth endpoint for an association. -/
def pickBleEndpoint (view : DiscoveryView) : Except CliError DeviceEndpoint :=
  match view.connections.filter fun connection => connection.connected && connection.endpoint.transport = .ble with
  | [] => .error (.message "no connected Bluetooth mouse found; connect it and retry")
  | [connection] => .ok connection.endpoint
  | connected => .error (.message
      s!"more than one Bluetooth mouse is connected ({endpointList connected}); disconnect the others and retry")

/-! ## What may be presented -/

/-- **The connection may be presented**: it is the hinted one, or without a hint the only eligible one. -/
def Presentable (eligible : ResolvedConnection → Bool) (hint : Option DeviceEndpoint)
    (connections : List ResolvedConnection) (connection : ResolvedConnection) : Prop :=
  (connection ∈ connections ∧ eligible connection = true) ∧ match hint with
    | some hint => connection.endpoint = hint
    | none => connections.filter eligible = [connection]

/-- **No ambiguous mouse is presented.** -/
structure Unambiguous (eligible : ResolvedConnection → Bool) (hint : Option DeviceEndpoint)
    (connections : List ResolvedConnection) (presented : Option DeviceEndpoint) : Prop where
  chosen : ∀ endpoint, presented = some endpoint →
    ∃ connection, Presentable eligible hint connections connection ∧ connection.endpoint = endpoint
  stale : ∀ hinted, hint = some hinted →
    (∀ connection ∈ connections, eligible connection = true → connection.endpoint ≠ hinted) → presented = none
  several : hint = none → 1 < (connections.filter eligible).length → presented = none

/-- What the worker takes for a mouse that may be presented. -/
def eligibleInWindow (kind : IdentityCeremonyKind) (connection : ResolvedConnection) : Bool := connection.connected &&
  if kind = .initialEnrollment then isUsbTransport connection.endpoint.transport
  else matchesKind kind connection.endpoint connection.resolution

/-- What the tool takes for one: on the first enrollment any mouse, where none is unassociated. -/
def eligibleInTool (kind : IdentityCeremonyKind) (connections : List ResolvedConnection) (connection : ResolvedConnection) :
    Bool :=
  (connection.connected && isUsbTransport connection.endpoint.transport) &&
    match kind with
    | .foreignAdoption => isUnknown connection.resolution
    | .initialEnrollment => isUnassociated connection.resolution || !connections.any fun other =>
        (other.connected && isUsbTransport other.endpoint.transport) && isUnassociated other.resolution
    | _ => isUnassociated connection.resolution

/-- **The worker has no choice to make**: the hint is good or nothing fits, or without a hint at most one connection does. -/
def NoChoice (kind : IdentityCeremonyKind) (hint : Option DeviceEndpoint) (connections : List ResolvedConnection) : Prop :=
  match hint with
  | some hint => (∃ connection ∈ connections, eligibleInWindow kind connection = true ∧ connection.endpoint = hint) ∨
      ∀ connection ∈ connections, eligibleInWindow kind connection = false
  | none => (connections.filter (eligibleInWindow kind)).length ≤ 1

section Only

variable {eligible : ResolvedConnection → Bool} {hint : Option DeviceEndpoint} {connections : List ResolvedConnection}
  {presented : Option DeviceEndpoint}

theorem mem_of_filter_eq {connection : ResolvedConnection} (honly : connections.filter eligible = [connection]) :
    connection ∈ connections ∧ eligible connection = true := by
  apply List.mem_filter.1
  rw [honly]
  exact List.mem_singleton_self connection

/-- Without a hint, what presents the only eligible connection presents no ambiguous one. -/
theorem Unambiguous.of_only (honly : ∀ endpoint, presented = some endpoint →
    ∃ connection, connections.filter eligible = [connection] ∧ connection.endpoint = endpoint) :
    Unambiguous eligible none connections presented where
  chosen endpoint h := by
    obtain ⟨connection, hfilter, hendpoint⟩ := honly endpoint h
    exact ⟨connection, ⟨mem_of_filter_eq hfilter, hfilter⟩, hendpoint⟩
  stale _ h := nomatch h
  several _ hmany := by
    rw [Option.eq_none_iff_forall_not_mem]
    intro endpoint h
    obtain ⟨connection, hfilter, -⟩ := honly endpoint h
    rw [hfilter] at hmany
    exact Nat.lt_irrefl 1 hmany

end Only

/-! ## The worker -/

section Window

variable {kind : IdentityCeremonyKind} {hint : Option DeviceEndpoint} {connections : List ResolvedConnection}

/-- The worker takes the hinted connection, or else the first that fits. -/
theorem presentedEndpoint_eq : presentedEndpoint kind hint connections =
    ((hint.bind fun hint => connections.find? fun connection =>
        eligibleInWindow kind connection && connection.endpoint = hint).or
      (connections.find? (eligibleInWindow kind))).map (·.endpoint) := rfl

theorem presentedEndpoint_none (h : presentedEndpoint kind hint connections = none) :
    ∀ connection ∈ connections, eligibleInWindow kind connection = false := by
  rw [presentedEndpoint_eq, Option.map_eq_none_iff, Option.or_eq_none_iff] at h
  intro connection hmem
  exact Bool.eq_false_iff.2 (List.find?_eq_none.1 h.2 connection hmem)

/-- A good hint is taken. -/
theorem presentedEndpoint_hinted {hinted : DeviceEndpoint} {connection : ResolvedConnection} (hmem : connection ∈ connections)
    (heligible : eligibleInWindow kind connection = true) (hendpoint : connection.endpoint = hinted) :
    presentedEndpoint kind (some hinted) connections = some hinted := by
  have hfound : (connections.find? fun connection =>
      eligibleInWindow kind connection && connection.endpoint = hinted).isSome = true := by
    rw [List.find?_isSome]
    exact ⟨connection, hmem, by simp [heligible, hendpoint]⟩
  obtain ⟨found, hfound⟩ := Option.isSome_iff_exists.1 hfound
  have hgood := List.find?_some hfound
  rw [Bool.and_eq_true, decide_eq_true_eq] at hgood
  rw [presentedEndpoint_eq, Option.bind_some, hfound, Option.some_or, Option.map_some, hgood.2]

theorem presentedEndpoint_nothing (h : ∀ connection ∈ connections, eligibleInWindow kind connection = false) :
    presentedEndpoint kind hint connections = none := by
  rw [Option.eq_none_iff_forall_not_mem]
  intro endpoint hsome
  rw [presentedEndpoint_eq] at hsome
  obtain ⟨connection, hfound, -⟩ := Option.map_eq_some_iff.1 hsome
  have heligible : connection ∈ connections ∧ eligibleInWindow kind connection = true := by
    rcases Option.or_eq_some_iff.1 hfound with hhinted | ⟨-, hfirst⟩
    · obtain ⟨hinted, -, hfound⟩ := Option.bind_eq_some_iff.1 hhinted
      have hgood := List.find?_some hfound
      rw [Bool.and_eq_true] at hgood
      exact ⟨List.mem_of_find?_eq_some hfound, hgood.1⟩
    · exact ⟨List.mem_of_find?_eq_some hfirst, List.find?_some hfirst⟩
  rw [h connection heligible.1] at heligible
  exact Bool.false_ne_true heligible.2

/-- **The worker presents no ambiguous mouse exactly when it has no choice to make.** -/
theorem window_unambiguous : Unambiguous (eligibleInWindow kind) hint connections (presentedEndpoint kind hint connections) ↔
    NoChoice kind hint connections := by
  cases hint with
  | none =>
    constructor
    · intro h
      show (connections.filter (eligibleInWindow kind)).length ≤ 1
      by_contra hmany
      have hnone := presentedEndpoint_none (h.several rfl (Nat.lt_of_not_le hmany))
      apply hmany
      rw [List.filter_eq_nil_iff.2 fun connection hmem => by simp [hnone connection hmem]]
      exact Nat.zero_le 1
    · intro h
      refine .of_only fun endpoint hsome => ?_
      rw [presentedEndpoint_eq, Option.bind_none, Option.none_or] at hsome
      obtain ⟨connection, hfound, hendpoint⟩ := Option.map_eq_some_iff.1 hsome
      have hmem : connection ∈ connections.filter (eligibleInWindow kind) :=
        List.mem_filter.2 ⟨List.mem_of_find?_eq_some hfound, List.find?_some hfound⟩
      have hlength : (connections.filter (eligibleInWindow kind)).length = 1 :=
        Nat.le_antisymm h (List.length_pos_of_mem hmem)
      obtain ⟨only, honly⟩ := List.length_eq_one_iff.1 hlength
      rw [honly, List.mem_singleton] at hmem
      subst hmem
      exact ⟨connection, honly, hendpoint⟩
  | some hinted =>
    constructor
    · intro h
      by_cases hgood : ∃ connection ∈ connections, eligibleInWindow kind connection = true ∧ connection.endpoint = hinted
      · exact .inl hgood
      · refine .inr (presentedEndpoint_none (h.stale hinted rfl ?_))
        intro connection hmem heligible hendpoint
        exact hgood ⟨connection, hmem, heligible, hendpoint⟩
    · rintro (⟨connection, hmem, heligible, hendpoint⟩ | hnothing)
      · rw [presentedEndpoint_hinted hmem heligible hendpoint]
        refine ⟨fun endpoint h => ?_, fun stale h hstale => ?_, fun h => (nomatch h)⟩
        · cases h
          exact ⟨connection, ⟨⟨hmem, heligible⟩, hendpoint⟩, hendpoint⟩
        · cases h
          exact absurd hendpoint (hstale connection hmem heligible)
      · rw [presentedEndpoint_nothing hnothing]
        exact ⟨fun _ h => (nomatch h), fun _ _ _ => rfl, fun _ _ => rfl⟩

end Window

/-! ## The tool -/

section Tool

variable {view : DiscoveryView} {kind : IdentityCeremonyKind}

/-- The connections the tool has to choose from. -/
theorem filter_tool (fits : IdentityResolution → Bool) :
    view.connections.filter (fun connection =>
        (connection.connected && isUsbTransport connection.endpoint.transport) && fits connection.resolution) =
      (connectedUsb view).filter fun connection => fits connection.resolution := by
  unfold connectedUsb
  rw [List.filter_filter]
  congr 1
  funext connection
  exact Bool.and_comm _ _

/-- On the first enrollment the unassociated mice are eligible, or every mouse where there is none. -/
theorem filter_initial : view.connections.filter (eligibleInTool .initialEnrollment view.connections) =
    if (connectedUsb view).any fun connection => isUnassociated connection.resolution
    then (connectedUsb view).filter fun connection => isUnassociated connection.resolution
    else connectedUsb view := by
  have hany : (view.connections.any fun other =>
      (other.connected && isUsbTransport other.endpoint.transport) && isUnassociated other.resolution) =
      (connectedUsb view).any fun connection => isUnassociated connection.resolution := by
    unfold connectedUsb
    rw [List.any_filter]
  unfold eligibleInTool
  rw [hany, filter_tool fun resolution => isUnassociated resolution ||
    !(connectedUsb view).any fun connection => isUnassociated connection.resolution]
  cases (connectedUsb view).any fun connection => isUnassociated connection.resolution with
  | false => simp
  | true => simp

/-- **The tool presents no ambiguous mouse**, whatever it is shown. -/
theorem tool_unambiguous : Unambiguous (eligibleInTool kind view.connections) none view.connections
    (pickCeremonyEndpoint view kind).toOption := by
  refine .of_only fun endpoint hsome => ?_
  have hpicked : pickCeremonyEndpoint view kind = .ok endpoint := by
    cases hpick : pickCeremonyEndpoint view kind with
    | error e =>
      rw [hpick] at hsome
      cases hsome
    | ok picked =>
      rw [hpick] at hsome
      cases hsome
      rfl
  unfold pickCeremonyEndpoint at hpicked
  dsimp only at hpicked
  split at hpicked
  · cases hpicked
  split at hpicked
  · next hkind =>
    subst hkind
    split at hpicked
    · next connection honly =>
      cases hpicked
      exact ⟨connection, (filter_tool isUnknown).trans honly, rfl⟩
    · cases hpicked
    · cases hpicked
  · next hforeign =>
    split at hpicked
    · next connection honly =>
      cases hpicked
      refine ⟨connection, ?_, rfl⟩
      cases kind with
      | foreignAdoption => exact (hforeign rfl).elim
      | initialEnrollment =>
        have hmem : connection ∈ (connectedUsb view).filter fun connection => isUnassociated connection.resolution := by
          rw [honly]
          exact List.mem_singleton_self connection
        rw [filter_initial, if_pos (List.any_eq_true.2 ⟨connection, List.mem_filter.1 hmem⟩), honly]
      | _ => exact (filter_tool isUnassociated).trans honly
    · next hnone =>
      split at hpicked
      · next connection hconnected =>
        cases hpicked
        refine ⟨connection, ?_, rfl⟩
        have hany : ¬ ((connectedUsb view).any fun connection => isUnassociated connection.resolution) = true := by
          intro hany
          obtain ⟨other, hother⟩ := List.any_eq_true.1 hany
          have hmem : other ∈ (connectedUsb view).filter fun connection => isUnassociated connection.resolution :=
            List.mem_filter.2 hother
          rw [hnone] at hmem
          cases hmem
        rw [filter_initial, if_neg hany, hconnected]
      · cases hpicked
    · cases hpicked

/-- Neither for a Bluetooth association. -/
theorem ble_unambiguous : Unambiguous (fun connection => connection.connected && connection.endpoint.transport = .ble) none
    view.connections (pickBleEndpoint view).toOption := by
  refine .of_only fun endpoint hsome => ?_
  unfold pickBleEndpoint at hsome
  split at hsome
  · cases hsome
  · next connection honly =>
    cases hsome
    exact ⟨connection, honly, rfl⟩
  · cases hsome

end Tool

/-- **When a ceremony presents no ambiguous mouse**: in the tool always, in the window exactly when the worker has no choice
to make. -/
theorem presented_unambiguous (kind : IdentityCeremonyKind) (hint : Option DeviceEndpoint) (view : DiscoveryView) :
    (Unambiguous (eligibleInWindow kind) hint view.connections (presentedEndpoint kind hint view.connections) ∧
      Unambiguous (eligibleInTool kind view.connections) none view.connections (pickCeremonyEndpoint view kind).toOption) ↔
    NoChoice kind hint view.connections :=
  (and_iff_left tool_unambiguous).trans window_unambiguous

end AttackSharkX3

namespace AttackSharkX3.Rig

/-- Two mice without a watermark are connected. -/
def twoBlank : DiscoveryView where
  mode := .persistent
  devices := []
  connections := [⟨wired "a", true, .unassociated .absent none⟩, ⟨wired "b", true, .unassociated .absent none⟩]

/-- **The worker takes the first of two**, and another than the hinted one, where the tool takes neither. -/
theorem presented_guesses : presentedEndpoint .addMouse none twoBlank.connections = some (wired "a") ∧
    presentedEndpoint .addMouse (some (wired "c")) twoBlank.connections = some (wired "a") ∧
    (pickCeremonyEndpoint twoBlank .addMouse).isOk = false ∧
    ¬ Unambiguous (eligibleInWindow .addMouse) none twoBlank.connections
      (presentedEndpoint .addMouse none twoBlank.connections) ∧
    ¬ Unambiguous (eligibleInWindow .addMouse) (some (wired "c")) twoBlank.connections
      (presentedEndpoint .addMouse (some (wired "c")) twoBlank.connections) := by
  refine ⟨rfl, rfl, rfl, fun h => ?_, fun h => ?_⟩
  · have hnone := h.several rfl (by decide)
    cases hnone
  · have hnone := h.stale (wired "c") rfl (by decide)
    cases hnone

end AttackSharkX3.Rig
