import AttackSharkX3.Report.Sections
import AttackSharkX3.Wire.Framed
/-!
# The button codec — eighteen slots of three bytes

The table is read slot by slot, each at its own offset, and the slots make up the whole payload.
-/
namespace AttackSharkX3

open Wire

namespace ButtonsReport

/-- **A report of a table**, with this declared length. -/
def wire (declared : UInt8) (state : ButtonsState) : List UInt8 :=
  framed [BUTTON_REPORT_ID, declared, state.profile.get] (state.slots.flatMap (·.asBytes)) []

/-- The length each transport declares. -/
def declaredFor : TransportKind → UInt8
  | .receiver => BUTTON_RECEIVER_DECLARED_LENGTH
  | .wired | .ble => BUTTON_DECLARED_LENGTH

section Codec

variable {state : ButtonsState} {declared : UInt8} {packet : List UInt8} {transport : TransportKind}
  {profile : ProfileId} {d : DecodedButtonsReport}

theorem length_asBytes (slot : ButtonAssignment) : slot.asBytes.length = 3 := rfl

theorem length_flatMap (slots : List ButtonAssignment) : (slots.flatMap (·.asBytes)).length = slots.length * 3 := by
  induction slots with
  | nil => rfl
  | cons slot slots ih =>
    rw [List.flatMap_cons, List.length_append, ih, length_asBytes, List.length_cons]
    omega

theorem length_slots : (state.slots.flatMap (·.asBytes)).length = 54 := by
  rw [length_flatMap, state.slotCount]
  rfl

theorem length_wire : (wire declared state).length = BUTTON_REPORT_LENGTH := by
  rw [wire, length_framed, length_slots]
  rfl

/-- Tables of one size with the same bytes are equal. -/
theorem flatMap_inj : ∀ {slots slots' : List ButtonAssignment}, slots.length = slots'.length →
    slots.flatMap (·.asBytes) = slots'.flatMap (·.asBytes) → slots = slots'
  | [], [], _, _ => rfl
  | ⟨action, modifier, keyCode⟩ :: slots, ⟨action', modifier', keyCode'⟩ :: slots', hlength, h => by
    simp only [List.flatMap_cons, ButtonAssignment.asBytes, List.cons_append, List.nil_append, List.cons.injEq] at h
    obtain ⟨rfl, rfl, rfl, hrest⟩ := h
    rw [flatMap_inj (Nat.succ.inj hlength) hrest]

/-- **The slots that are read make up the bytes they are read from.** -/
theorem flatMap_slotAt : ∀ {n : Nat}, SLOTS_START + n * 3 ≤ packet.length →
    ((List.range n).map (slotAt packet)).flatMap (·.asBytes) = slice packet SLOTS_START (SLOTS_START + n * 3)
  | 0, _ => by
    unfold slice
    rw [Nat.zero_mul, Nat.add_zero, Nat.sub_self, List.take_zero]
    rfl
  | n + 1, hlength => by
    have hnext : SLOTS_START + (n + 1) * 3 = SLOTS_START + n * 3 + 3 := by omega
    rw [hnext] at hlength ⊢
    have hsplit : slice packet SLOTS_START (SLOTS_START + n * 3) ++
        slice packet (SLOTS_START + n * 3) (SLOTS_START + n * 3 + 3) = slice packet SLOTS_START (SLOTS_START + n * 3 + 3) :=
      slice_append (by omega) (by omega)
    rw [List.range_succ, List.map_append, List.flatMap_append, flatMap_slotAt (by omega), ← hsplit, slice_eq_map hlength]
    rfl

/-- The table, as the decoder reads it off a packet. -/
theorem slice_eq_slots (hlength : packet.length = BUTTON_REPORT_LENGTH) :
    slice packet SLOTS_START SLOTS_END = state.slots.flatMap (·.asBytes) ↔
      (List.range BUTTON_SLOT_COUNT).map (slotAt packet) = state.slots := by
  have hread : ((List.range BUTTON_SLOT_COUNT).map (slotAt packet)).flatMap (·.asBytes) =
      slice packet SLOTS_START SLOTS_END := by
    refine flatMap_slotAt ?_
    rw [hlength]
    decide
  constructor
  · intro h
    refine flatMap_inj ?_ (hread.trans h)
    rw [List.length_map, List.length_range, state.slotCount]
  · intro h
    rw [← hread, h]

/-- **A packet is a report of the table** when its header, slots and checksum say so. -/
theorem eq_wire (hlength : packet.length = BUTTON_REPORT_LENGTH) : packet = wire declared state ↔
    (byte packet 0 = BUTTON_REPORT_ID ∧ byte packet 1 = declared ∧ byte packet 2 = state.profile.get) ∧
      slice packet SLOTS_START SLOTS_END = state.slots.flatMap (·.asBytes) ∧
      word (byte packet SLOTS_END) (byte packet (SLOTS_END + 1)) = sum16 (state.slots.flatMap (·.asBytes)) := by
  have hpacket : packet.length = 59 := hlength
  have hheader : slice packet 0 3 = [BUTTON_REPORT_ID, declared, state.profile.get] ↔
      byte packet 0 = BUTTON_REPORT_ID ∧ byte packet 1 = declared ∧ byte packet 2 = state.profile.get := by
    rw [slice_eq_map (n := 3) (by omega)]
    show [byte packet 0, byte packet 1, byte packet 2] = _ ↔ _
    simp
  have hparts : packet.length = [BUTTON_REPORT_ID, declared, state.profile.get].length +
      (state.slots.flatMap (·.asBytes)).length + 2 + ([] : List UInt8).length := by
    rw [length_slots]
    exact hlength
  have hend : [BUTTON_REPORT_ID, declared, state.profile.get].length + (state.slots.flatMap (·.asBytes)).length = SLOTS_END := by
    rw [length_slots]
    rfl
  unfold wire
  rw [eq_framed hparts, hend, show [BUTTON_REPORT_ID, declared, state.profile.get].length = 3 from rfl, hheader]
  simp only [List.length_nil, Nat.not_lt_zero, false_implies, implies_true, and_true]
  rfl

/-- **What decodes** under a declared length. -/
theorem decodeWithDeclaredLength_ok : decodeWithDeclaredLength packet profile declared = .ok d ↔
    d.state.profile = profile ∧ packet = wire declared d.state := by
  unfold decodeWithDeclaredLength
  constructor
  · intro h
    obtain ⟨hlength, h⟩ := expect_bind_ok.1 h
    obtain ⟨hid, h⟩ := expect_bind_ok.1 h
    obtain ⟨hdeclared, h⟩ := expect_bind_ok.1 h
    obtain ⟨hprofile, h⟩ := expect_bind_ok.1 h
    obtain ⟨hsum, h⟩ := expect_bind_ok.1 h
    cases h
    have hslots := (@slice_eq_slots ⟨profile, (List.range BUTTON_SLOT_COUNT).map (slotAt packet), by simp⟩ packet
      hlength).2 rfl
    refine ⟨rfl, (eq_wire hlength).2 ⟨⟨hid, hdeclared, hprofile⟩, hslots, ?_⟩⟩
    rw [← hslots]
    exact hsum
  · rintro ⟨rfl, hpacket⟩
    obtain ⟨state⟩ := d
    have hlength : packet.length = BUTTON_REPORT_LENGTH := hpacket ▸ length_wire
    obtain ⟨⟨hid, hdeclared, hprofile⟩, hslots, hsum⟩ := (eq_wire hlength).1 hpacket
    refine expect_bind_ok.2 ⟨hlength, ?_⟩
    refine expect_bind_ok.2 ⟨hid, ?_⟩
    refine expect_bind_ok.2 ⟨hdeclared, ?_⟩
    refine expect_bind_ok.2 ⟨hprofile, ?_⟩
    refine expect_bind_ok.2 ⟨?_, ?_⟩
    · rw [hsum, hslots]
    · simp only [(slice_eq_slots hlength).1 hslots]
      rfl

theorem decodeForTransport_ok : decodeForTransport packet transport profile = .ok d ↔
    d.state.profile = profile ∧ packet = wire (declaredFor transport) d.state := by
  have hdeclared : decodeForTransport packet transport profile =
      decodeWithDeclaredLength packet profile (declaredFor transport) := by
    cases transport <;> rfl
  rw [hdeclared, decodeWithDeclaredLength_ok]

theorem encode_eq_wire : encode state = wire BUTTON_DECLARED_LENGTH state := by
  have hslots : slice ([BUTTON_REPORT_ID, BUTTON_DECLARED_LENGTH, state.profile.get] ++ state.slots.flatMap (·.asBytes))
      SLOTS_START SLOTS_END = state.slots.flatMap (·.asBytes) := by
    have hself := @Wire.slice_self (state.slots.flatMap (·.asBytes))
    rw [length_slots] at hself
    rw [slice_append_right (Nat.le_refl 3)]
    exact hself
  unfold encode wire framed
  simp only [hslots, List.append_nil]

end Codec

end ButtonsReport

open ButtonsReport

/-- **The button codec is exact.**  A table that is encoded decodes to itself over the wire and over BLE; what decodes is the
encoding of what it decodes to, but for the length the receiver declares; each slot is the three bytes at its offset, and
packets that differ in a slot decode to different tables. -/
theorem buttons_codec_exact :
    (∀ (state : ButtonsState) (transport : TransportKind), transport ≠ .receiver →
      decodeForTransport (encode state) transport state.profile = .ok ⟨state⟩) ∧
    (∀ (packet : List UInt8) (transport : TransportKind) (profile : ProfileId) (d : DecodedButtonsReport),
      decodeForTransport packet transport profile = .ok d → d.state.profile = profile ∧
        packet = (encode d.state).set 1 (declaredFor transport) ∧
          ∀ i < BUTTON_SLOT_COUNT, d.state.slots[i]? = some (slotAt packet i) ∧
            slice packet (3 + 3 * i) (6 + 3 * i) = (slotAt packet i).asBytes) ∧
    ∀ (packet packet' : List UInt8) (transport transport' : TransportKind) (profile profile' : ProfileId)
      (d d' : DecodedButtonsReport), decodeForTransport packet transport profile = .ok d →
        decodeForTransport packet' transport' profile' = .ok d' → d.state.slots = d'.state.slots →
          ∀ i < BUTTON_SLOT_COUNT, slotAt packet i = slotAt packet' i := by
  have hslotAt : ∀ {packet : List UInt8} {transport : TransportKind} {profile : ProfileId} {d : DecodedButtonsReport},
      decodeForTransport packet transport profile = .ok d →
        (List.range BUTTON_SLOT_COUNT).map (slotAt packet) = d.state.slots := by
    intro packet transport profile d hd
    obtain ⟨-, hwire⟩ := decodeForTransport_ok.1 hd
    have hlength : packet.length = BUTTON_REPORT_LENGTH := hwire ▸ length_wire
    exact (slice_eq_slots hlength).1 ((eq_wire hlength).1 hwire).2.1
  refine ⟨?_, ?_, ?_⟩
  · intro state transport hne
    refine decodeForTransport_ok.2 ⟨rfl, ?_⟩
    rw [encode_eq_wire]
    cases transport with
    | receiver => exact absurd rfl hne
    | wired | ble => rfl
  · intro packet transport profile d hd
    obtain ⟨hprofile, hwire⟩ := decodeForTransport_ok.1 hd
    have hlength : packet.length = BUTTON_REPORT_LENGTH := hwire ▸ length_wire
    refine ⟨hprofile, ?_, fun i hi => ⟨?_, ?_⟩⟩
    · rw [hwire, encode_eq_wire]
      rfl
    · rw [← hslotAt hd]
      simp [hi]
    · have hi' : i < 18 := hi
      have hpacket : packet.length = 59 := hlength
      have hend : 6 + 3 * i = SLOTS_START + i * 3 + 3 := by
        unfold SLOTS_START
        omega
      have hstart : 3 + 3 * i = SLOTS_START + i * 3 := by
        unfold SLOTS_START
        omega
      rw [hend, hstart, slice_eq_map (by unfold SLOTS_START; omega)]
      rfl
  · intro packet packet' transport transport' profile profile' d d' hd hd' hslots i hi
    have hmap := (hslotAt hd).trans (hslots.trans (hslotAt hd').symm)
    have hget := congrArg (·[i]?) hmap
    simpa [hi] using hget

/-- A readback over the cable. -/
theorem buttons_codec_exact_wired :
    decodeForTransport (encode ⟨.MIN_ID, List.replicate BUTTON_SLOT_COUNT ⟨1, 2, 3⟩, rfl⟩) .wired .MIN_ID =
      .ok ⟨⟨.MIN_ID, List.replicate BUTTON_SLOT_COUNT ⟨1, 2, 3⟩, rfl⟩⟩ :=
  buttons_codec_exact.1 ⟨.MIN_ID, List.replicate BUTTON_SLOT_COUNT ⟨1, 2, 3⟩, rfl⟩ .wired nofun

end AttackSharkX3
