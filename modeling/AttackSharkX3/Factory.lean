import AttackSharkX3.Finishes
import AttackSharkX3.Wire.Bytes
/-!
# Factory — the connections of one transport

The production factory makes endpoints of what the HID and Bluetooth libraries enumerate, and of the simulated mice the
environment names.  An endpoint that is listed has a transport that was asked for, and is one an identity may have.
-/
namespace AttackSharkX3

open Wire (bind_ok)

inductive UsbDeviceKind where
  | wired
  | receiver
deriving DecidableEq

def UsbDeviceKind.transportKind : UsbDeviceKind → TransportKind
  | wired => .wired
  | receiver => .receiver

/-- A HID interface, as it is enumerated. -/
structure UsbInfo where
  vendorId : UInt16
  productId : UInt16
  serialNumber : Option String
  path : String
  product : Option String

/-- A Bluetooth device, with its identifier serialized. -/
structure BleInfo where
  stableId : String
  name : Option String
  connected : Bool

/-- The simulated mice of a spec: the backend's tag, the name of the scenario or preset, and a transport each. -/
structure SimSpec where
  tag : String
  name : String
  endpointTransports : List TransportKind

/-- **What is enumerated** by the libraries and named by the environment. -/
structure Enumeration where
  usb : UsbDeviceKind → Except ManagerError (List UsbInfo)
  ble : Except ManagerError (List BleInfo)
  sim : Except ManagerError (Option SimSpec)

namespace Enumeration

def listUsbDevices (found : Enumeration) (kind : UsbDeviceKind) : Except ManagerError (List DiscoveredEndpoint) := do
  let infos ← found.usb kind
  infos.mapM fun info => do
    let endpoint ← (DeviceEndpoint.usb kind.transportKind info.vendorId info.productId info.serialNumber info.path
      info.product).mapError .state
    return ⟨endpoint, true⟩

def listBleDevices (found : Enumeration) : Except ManagerError (List DiscoveredEndpoint) := do
  let infos ← found.ble
  infos.mapM fun info => do
    let endpoint ← (DeviceEndpoint.ble info.stableId info.name).mapError .state
    return ⟨endpoint, info.connected⟩

/-- The transport is one the selection asks for. -/
def wanted (selection : TransportSelection) (transport : TransportKind) : Bool :=
  match selection with
  | .auto => true
  | .exact exact => exact = transport

def simEndpoint (spec : SimSpec) (transport : TransportKind) (index : Nat) : Except StateError DeviceEndpoint :=
  let display := if 1 < spec.endpointTransports.length then s!"{spec.tag} {spec.name} {index + 1}"
    else s!"{spec.tag} {spec.name}"
  let locator := s!"sim:{spec.tag}:{index}"
  match transport with
  | .ble => DeviceEndpoint.ble locator (some display)
  | usb => DeviceEndpoint.usb usb 0x1d57 (if usb = .receiver then 0xfa60 else 0xfa61) none locator (some display)

def simEndpointsForSpec (spec : Option SimSpec) (selection : TransportSelection) :
    Except ManagerError (List DiscoveredEndpoint) :=
  match spec with
  | none => .ok []
  | some spec => (spec.endpointTransports.zipIdx.filter fun entry => wanted selection entry.1).mapM fun entry => do
    let endpoint ← (simEndpoint spec entry.1 entry.2).mapError .state
    return ⟨endpoint, true⟩

def simDiscoveredEndpoints (found : Enumeration) (selection : TransportSelection) :
    Except ManagerError (List DiscoveredEndpoint) := do
  let spec ← found.sim
  simEndpointsForSpec spec selection

/-- **The listing of a selection.** -/
def list (found : Enumeration) (selection : TransportSelection) : Except ManagerError (List DiscoveredEndpoint) :=
  match selection with
  | .auto => do
    let wired ← found.listUsbDevices .wired
    let receiver ← found.listUsbDevices .receiver
    let ble ← found.listBleDevices
    let sim ← found.simDiscoveredEndpoints .auto
    return wired ++ receiver ++ ble ++ sim
  | .exact .wired => do
    let wired ← found.listUsbDevices .wired
    let sim ← found.simDiscoveredEndpoints (.exact .wired)
    return wired ++ sim
  | .exact .receiver => do
    let receiver ← found.listUsbDevices .receiver
    let sim ← found.simDiscoveredEndpoints (.exact .receiver)
    return receiver ++ sim
  | .exact .ble => do
    let ble ← found.listBleDevices
    let sim ← found.simDiscoveredEndpoints (.exact .ble)
    return ble ++ sim

end Enumeration

/-! ## What is listed -/

/-- The results of a mapping that succeeds. -/
theorem of_mapM_ok {α β E : Type} {f : α → Except E β} : ∀ {l : List α} {bs : List β}, l.mapM f = .ok bs →
    ∀ b ∈ bs, ∃ a ∈ l, f a = .ok b
  | [], _, h, b, hb => by
    cases h
    cases hb
  | a :: l, bs, h, b, hb => by
    rw [List.mapM_cons] at h
    obtain ⟨first, hfirst, h⟩ := bind_ok.1 h
    obtain ⟨rest, hrest, h⟩ := bind_ok.1 h
    cases h
    rcases List.mem_cons.1 hb with rfl | hb
    · exact ⟨a, List.mem_cons_self, hfirst⟩
    · obtain ⟨a', ha', hb⟩ := of_mapM_ok hrest b hb
      exact ⟨a', List.mem_cons_of_mem _ ha', hb⟩

theorem of_mapError_ok {α : Type} {x : Except StateError α} {a : α} (h : x.mapError ManagerError.state = .ok a) :
    x = .ok a := by
  cases x with
  | error e => cases h
  | ok b =>
    cases h
    rfl

/-- What is not dropped is there still. -/
theorem mem_dropWhile {α : Type} {p : α → Bool} {a : α} (ha : p a = false) : ∀ {l : List α}, a ∈ l → a ∈ l.dropWhile p
  | b :: l, h => by
    rw [List.dropWhile_cons]
    split
    · next hb =>
      rcases List.mem_cons.1 h with rfl | h
      · rw [ha] at hb
        cases hb
      · exact mem_dropWhile ha h
    · exact h

theorem isBlank_trim {s : String} (h : isBlank s = false) : isBlank (trim s) = false := by
  unfold isBlank at *
  rw [List.all_eq_false] at *
  obtain ⟨c, hc, hspace⟩ := h
  rw [Bool.not_eq_true] at hspace
  refine ⟨c, ?_, by rw [hspace]; exact Bool.false_ne_true⟩
  unfold trim
  rw [String.toList_ofList, List.mem_reverse]
  refine mem_dropWhile hspace ?_
  rw [List.mem_reverse]
  exact mem_dropWhile hspace hc

/-- The serial number of a made endpoint is not blank. -/
theorem normalizeText_nonblank {text : Option String} : (normalizeText text).any isBlank = false := by
  cases text with
  | none => rfl
  | some s =>
    unfold normalizeText
    by_cases hblank : isBlank s = true
    · simp [Option.filter, hblank]
    · rw [Bool.not_eq_true] at hblank
      simp [Option.filter, hblank, isBlank_trim hblank]

/-- An endpoint all of whose parts pass is accepted. -/
theorem accepted_of_check {endpoint : DeviceEndpoint}
    (h : ∀ id, DeviceIdentity.validateEndpoint id endpoint.transport endpoint = .ok ()) : endpoint.Accepted := by
  intro id
  refine DeviceIdentity.validate_ok.2 fun kind stored hstored => ?_
  by_cases hkind : endpoint.transport = kind
  · subst hkind
    rw [DeviceIdentity.upsertEndpoint, BTreeMap.get_insert_self, Option.some.injEq] at hstored
    subst hstored
    exact h id
  · rw [DeviceIdentity.upsertEndpoint, BTreeMap.get_insert_of_ne _ hkind] at hstored
    simp [DeviceIdentity.new] at hstored

theorem usb_ok {transport : TransportKind} {vendorId productId : UInt16} {serialNumber displayName : Option String}
    {path : String} {endpoint : DeviceEndpoint}
    (h : DeviceEndpoint.usb transport vendorId productId serialNumber path displayName = .ok endpoint) :
    endpoint.transport = transport ∧ endpoint.Accepted := by
  unfold DeviceEndpoint.usb at h
  split at h
  · cases h
  · next hble =>
    split at h
    · cases h
    · next hpath =>
      cases h
      rw [Bool.not_eq_true] at hpath
      refine ⟨rfl, accepted_of_check fun id => ?_⟩
      cases transport with
      | ble => exact (hble rfl).elim
      | wired | receiver =>
        unfold DeviceIdentity.validateEndpoint
        simp [DeviceEndpoint.isCoherent, hpath, normalizeText_nonblank]
        rfl

theorem ble_ok {platformId : String} {displayName : Option String} {endpoint : DeviceEndpoint}
    (h : DeviceEndpoint.ble platformId displayName = .ok endpoint) : endpoint.transport = .ble ∧ endpoint.Accepted := by
  unfold DeviceEndpoint.ble at h
  split at h
  · cases h
  · next hid =>
    cases h
    rw [Bool.not_eq_true] at hid
    refine ⟨rfl, accepted_of_check fun id => ?_⟩
    unfold DeviceIdentity.validateEndpoint
    simp [DeviceEndpoint.isCoherent, isBlank_trim hid]
    rfl

namespace Enumeration

variable {found : Enumeration} {selection : TransportSelection} {listed : List DiscoveredEndpoint}

/-- The connection has a transport that was asked for, and an endpoint an identity may have. -/
structure Listed (selection : TransportSelection) (disc : DiscoveredEndpoint) : Prop where
  wanted : wanted selection disc.endpoint.transport = true
  accepted : disc.endpoint.Accepted

theorem listed_usb {kind : UsbDeviceKind} (h : found.listUsbDevices kind = .ok listed)
    (hwanted : Enumeration.wanted selection kind.transportKind = true) : ∀ disc ∈ listed, Listed selection disc := by
  intro disc hdisc
  obtain ⟨infos, -, h⟩ := bind_ok.1 h
  obtain ⟨info, -, hinfo⟩ := of_mapM_ok h disc hdisc
  obtain ⟨endpoint, hendpoint, hinfo⟩ := bind_ok.1 hinfo
  cases hinfo
  obtain ⟨htransport, haccepted⟩ := usb_ok (of_mapError_ok hendpoint)
  exact ⟨by rw [htransport]; exact hwanted, haccepted⟩

theorem listed_ble (h : found.listBleDevices = .ok listed) (hwanted : Enumeration.wanted selection .ble = true) :
    ∀ disc ∈ listed, Listed selection disc := by
  intro disc hdisc
  obtain ⟨infos, -, h⟩ := bind_ok.1 h
  obtain ⟨info, -, hinfo⟩ := of_mapM_ok h disc hdisc
  obtain ⟨endpoint, hendpoint, hinfo⟩ := bind_ok.1 hinfo
  cases hinfo
  obtain ⟨htransport, haccepted⟩ := ble_ok (of_mapError_ok hendpoint)
  exact ⟨by rw [htransport]; exact hwanted, haccepted⟩

theorem simEndpoint_ok {spec : SimSpec} {transport : TransportKind} {index : Nat} {endpoint : DeviceEndpoint}
    (h : simEndpoint spec transport index = .ok endpoint) : endpoint.transport = transport ∧ endpoint.Accepted := by
  unfold simEndpoint at h
  dsimp only at h
  cases transport with
  | ble => exact ble_ok h
  | wired | receiver => exact usb_ok h

theorem listed_sim (h : found.simDiscoveredEndpoints selection = .ok listed) : ∀ disc ∈ listed, Listed selection disc := by
  intro disc hdisc
  obtain ⟨spec, -, h⟩ := bind_ok.1 h
  unfold simEndpointsForSpec at h
  split at h
  · cases h
    cases hdisc
  · next spec =>
    obtain ⟨entry, hentry, hmade⟩ := of_mapM_ok h disc hdisc
    obtain ⟨endpoint, hendpoint, hmade⟩ := bind_ok.1 hmade
    cases hmade
    obtain ⟨htransport, haccepted⟩ := simEndpoint_ok (of_mapError_ok hendpoint)
    exact ⟨by rw [htransport]; exact (List.mem_filter.1 hentry).2, haccepted⟩

/-- **What is listed was asked for and is accepted.** -/
theorem list_listed (h : found.list selection = .ok listed) : ∀ disc ∈ listed, Listed selection disc := by
  intro disc hdisc
  unfold list at h
  split at h
  · obtain ⟨wired, hwired, h⟩ := bind_ok.1 h
    obtain ⟨receiver, hreceiver, h⟩ := bind_ok.1 h
    obtain ⟨ble, hble, h⟩ := bind_ok.1 h
    obtain ⟨sim, hsim, h⟩ := bind_ok.1 h
    cases h
    rcases List.mem_append.1 hdisc with hdisc | hdisc
    · rcases List.mem_append.1 hdisc with hdisc | hdisc
      · rcases List.mem_append.1 hdisc with hdisc | hdisc
        · exact listed_usb hwired rfl disc hdisc
        · exact listed_usb hreceiver rfl disc hdisc
      · exact listed_ble hble rfl disc hdisc
    · exact listed_sim hsim disc hdisc
  · obtain ⟨wired, hwired, h⟩ := bind_ok.1 h
    obtain ⟨sim, hsim, h⟩ := bind_ok.1 h
    cases h
    rcases List.mem_append.1 hdisc with hdisc | hdisc
    · exact listed_usb hwired rfl disc hdisc
    · exact listed_sim hsim disc hdisc
  · obtain ⟨receiver, hreceiver, h⟩ := bind_ok.1 h
    obtain ⟨sim, hsim, h⟩ := bind_ok.1 h
    cases h
    rcases List.mem_append.1 hdisc with hdisc | hdisc
    · exact listed_usb hreceiver rfl disc hdisc
    · exact listed_sim hsim disc hdisc
  · obtain ⟨ble, hble, h⟩ := bind_ok.1 h
    obtain ⟨sim, hsim, h⟩ := bind_ok.1 h
    cases h
    rcases List.mem_append.1 hdisc with hdisc | hdisc
    · exact listed_ble hble rfl disc hdisc
    · exact listed_sim hsim disc hdisc

end Enumeration

end AttackSharkX3
