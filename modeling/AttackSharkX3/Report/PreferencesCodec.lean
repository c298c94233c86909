import AttackSharkX3.Report.DpiCodec
import AttackSharkX3.Report.Sections
import AttackSharkX3.Wire.Framed
/-!
# The preferences codec — one layout under two declared lengths

A report is its payload under a header, with the payload's sum, and two zeros where it is full.  The receiver declares a
length of its own, or the canonical one.
-/
namespace AttackSharkX3

open Wire

namespace PreferencesReport

/-- The bytes after the checksum. -/
def padding : PreferencesFraming → List UInt8
  | .compact => []
  | .full => [0, 0]

/-- **A report of a state**, with this declared length. -/
def wire (declared : UInt8) (state : PreferencesState) (framing : PreferencesFraming) : List UInt8 :=
  framed [PREFERENCES_REPORT_ID, declared, state.profile.get] state.payload (padding framing)

/-- What a transport may declare for the length. -/
def Declares (transport : TransportKind) (declared : UInt8) : Prop :=
  declared = PREFERENCES_DECLARED_LENGTH ∨ (transport = .receiver ∧ declared = PREFERENCES_RECEIVER_DECLARED_LENGTH)

section Codec

variable {state : PreferencesState} {framing : PreferencesFraming} {declared : UInt8} {packet : List UInt8}
  {transport : TransportKind} {profile : ProfileId} {d : DecodedPreferencesReport}

theorem length_payload : state.payload.length = 8 := by
  simp [PreferencesState.payload, state.hostColor.length_eq]

theorem length_padding : (padding framing).length + 13 = framing.transmittedLength := by
  cases framing <;> rfl

theorem length_wire : (wire declared state framing).length = framing.transmittedLength := by
  rw [← length_padding, wire, length_framed, length_payload, List.length_cons, List.length_cons, List.length_cons,
    List.length_nil]
  omega

theorem decodeFraming_ok {length : Nat} : decodeFraming length = .ok framing ↔ length = framing.transmittedLength := by
  unfold decodeFraming PREFERENCES_COMPACT_LENGTH PREFERENCES_FULL_LENGTH
  constructor
  · intro h
    split at h
    · next hcompact =>
      cases h
      exact hcompact
    · split at h
      · next hfull =>
        cases h
        exact hfull
      · cases h
  · rintro rfl
    cases framing <;> rfl

theorem length_of_transmitted (h : packet.length = framing.transmittedLength) :
    packet.length = 3 + state.payload.length + 2 + (padding framing).length := by
  rw [h, ← length_padding, length_payload]
  omega

theorem validatePadding_ok : validatePadding packet framing = .ok () ↔
    ∀ k < (padding framing).length, byte packet (13 + k) = byte (padding framing) k := by
  unfold validatePadding
  cases framing with
  | compact => simp [padding]
  | full =>
    rw [if_pos rfl, validateFixedRange, validateFixedFrom_ok]
    refine forall₂_congr fun k hk => ?_
    have hcases : k = 0 ∨ k = 1 := by
      have hlt : k < 2 := hk
      omega
    rcases hcases with rfl | rfl <;> rfl

/-- The payload, as the decoder reads it off a packet. -/
theorem slice_eq_payload (hlength : 13 ≤ packet.length) : slice packet 3 11 = state.payload ↔
    byte packet 3 = state.lightMode ∧ byte packet 4 = state.configuration ∧ byte packet 5 = state.deepSleep ∧
      Bytes.read packet 6 3 = state.hostColor ∧ byte packet 9 = state.sleepTimer ∧ byte packet 10 = state.debounce := by
  have hslice : slice packet 3 11 = [byte packet 3, byte packet 4, byte packet 5, byte packet 6, byte packet 7,
      byte packet 8, byte packet 9, byte packet 10] := by
    rw [slice_eq_map (n := 8) (by omega)]
    rfl
  obtain ⟨profile, light, configuration, deep, ⟨color, hcolor⟩, sleep, debounce⟩ := state
  match color, hcolor with
  | [red, green, blue], hcolor =>
    rw [hslice]
    simp only [PreferencesState.payload, List.cons_append, List.nil_append, List.cons.injEq, and_true, Bytes.read,
      Bytes.mk.injEq]
    have hread : (List.range 3).map (fun k => byte packet (6 + k)) = [byte packet 6, byte packet 7, byte packet 8] := rfl
    rw [hread]
    simp [and_assoc]

/-- **A packet is a report of the state** when its header, payload, checksum and padding say so. -/
theorem eq_wire (hlength : packet.length = framing.transmittedLength) : packet = wire declared state framing ↔
    (byte packet 0 = PREFERENCES_REPORT_ID ∧ byte packet 1 = declared ∧ byte packet 2 = state.profile.get) ∧
      slice packet 3 11 = state.payload ∧
      word (byte packet PREFERENCES_CHECKSUM_OFFSET) (byte packet (PREFERENCES_CHECKSUM_OFFSET + 1)) = sum16 state.payload ∧
      validatePadding packet framing = .ok () := by
  have hlong : 13 ≤ packet.length := by
    have hp := @length_padding framing
    omega
  have hheader : slice packet 0 3 = [PREFERENCES_REPORT_ID, declared, state.profile.get] ↔
      byte packet 0 = PREFERENCES_REPORT_ID ∧ byte packet 1 = declared ∧ byte packet 2 = state.profile.get := by
    rw [slice_eq_map (n := 3) (by omega)]
    show [byte packet 0, byte packet 1, byte packet 2] = _ ↔ _
    simp
  unfold wire
  rw [eq_framed (length_of_transmitted hlength), validatePadding_ok]
  have hend : [PREFERENCES_REPORT_ID, declared, state.profile.get].length + state.payload.length = 11 := by
    rw [length_payload]
    rfl
  rw [hend, show [PREFERENCES_REPORT_ID, declared, state.profile.get].length = 3 from rfl, hheader]
  rfl

/-- **What decodes** under a declared length. -/
theorem decodeWithDeclaredLength_ok : decodeWithDeclaredLength packet profile declared = .ok d ↔
    d.state.profile = profile ∧ packet = wire declared d.state d.framing := by
  unfold decodeWithDeclaredLength
  constructor
  · intro h
    obtain ⟨framing, hframing, h⟩ := bind_ok.1 h
    obtain ⟨hid, h⟩ := expect_bind_ok.1 h
    obtain ⟨hdeclared, h⟩ := expect_bind_ok.1 h
    obtain ⟨hprofile, h⟩ := expect_bind_ok.1 h
    obtain ⟨_, hpadding, h⟩ := bind_ok.1 h
    obtain ⟨hsum, h⟩ := expect_bind_ok.1 h
    cases h
    have hlength := decodeFraming_ok.1 hframing
    have hlong : 13 ≤ packet.length := by
      have hp := @length_padding framing
      omega
    refine ⟨rfl, (eq_wire hlength).2 ⟨⟨hid, hdeclared, hprofile⟩, ?_, ?_, hpadding⟩⟩
    · exact (slice_eq_payload hlong).2 ⟨rfl, rfl, rfl, rfl, rfl, rfl⟩
    · rw [← (slice_eq_payload hlong).2 ⟨rfl, rfl, rfl, rfl, rfl, rfl⟩]
      exact hsum
  · rintro ⟨rfl, hpacket⟩
    obtain ⟨state, framing⟩ := d
    have hlength : packet.length = framing.transmittedLength := hpacket ▸ length_wire
    have hlong : 13 ≤ packet.length := by
      have hp := @length_padding framing
      omega
    obtain ⟨⟨hid, hdeclared, hprofile⟩, hpayload, hsum, hpadding⟩ := (eq_wire hlength).1 hpacket
    obtain ⟨hlight, hconfiguration, hdeep, hcolor, hsleep, hdebounce⟩ := (slice_eq_payload hlong).1 hpayload
    refine bind_ok.2 ⟨framing, decodeFraming_ok.2 hlength, ?_⟩
    refine expect_bind_ok.2 ⟨hid, ?_⟩
    refine expect_bind_ok.2 ⟨hdeclared, ?_⟩
    refine expect_bind_ok.2 ⟨hprofile, ?_⟩
    refine bind_ok.2 ⟨(), hpadding, ?_⟩
    refine expect_bind_ok.2 ⟨?_, ?_⟩
    · rw [hsum, ← hpayload]
      rfl
    · rw [hlight, hconfiguration, hdeep, hcolor, hsleep, hdebounce]
      rfl

/-- A report that declares another length is refused for it. -/
theorem decode_otherwise {declared' : UInt8} (hne : declared ≠ declared') :
    decodeWithDeclaredLength (wire declared state framing) profile declared' =
      .error (.unexpectedDeclaredLength declared' declared) := by
  have hframing : decodeFraming (wire declared state framing).length = .ok framing := decodeFraming_ok.2 length_wire
  have hid : byte (wire declared state framing) 0 = PREFERENCES_REPORT_ID := rfl
  have hdeclared : byte (wire declared state framing) 1 = declared := rfl
  unfold decodeWithDeclaredLength expect
  rw [hframing, if_pos hid, hdeclared, if_neg hne]
  rfl

/-- The length a transport is asked for first. -/
def firstDeclared : TransportKind → UInt8
  | .receiver => PREFERENCES_RECEIVER_DECLARED_LENGTH
  | .wired | .ble => PREFERENCES_DECLARED_LENGTH

theorem declares_firstDeclared : Declares transport (firstDeclared transport) := by
  cases transport with
  | receiver => exact .inr ⟨rfl, rfl⟩
  | wired | ble => exact .inl rfl

/-- The other length, where a first decoding stopped at the declared one. -/
def orShorter (packet : List UInt8) (transport : TransportKind) (profile : ProfileId) :
    Except ProtocolError DecodedPreferencesReport → Except ProtocolError DecodedPreferencesReport
  | .ok decoded => .ok decoded
  | .error (.unexpectedDeclaredLength expected actual) =>
    if transport = .receiver ∧ packet[1]? = some PREFERENCES_DECLARED_LENGTH then
      decodeWithDeclaredLength packet profile PREFERENCES_DECLARED_LENGTH
    else .error (.unexpectedDeclaredLength expected actual)
  | .error e => .error e

theorem decodeAsDeclared_ok : decodeAsDeclared packet transport profile = .ok d ↔ d.state.profile = profile ∧
    ∃ declared, Declares transport declared ∧ packet = wire declared d.state d.framing := by
  have hfirst : decodeAsDeclared packet transport profile =
      orShorter packet transport profile (decodeWithDeclaredLength packet profile (firstDeclared transport)) := by
    cases transport <;> rfl
  rw [hfirst]
  unfold orShorter
  constructor
  · intro h
    split at h
    · next decoded hdecoded =>
      cases h
      obtain ⟨hprofile, hwire⟩ := decodeWithDeclaredLength_ok.1 hdecoded
      exact ⟨hprofile, _, declares_firstDeclared, hwire⟩
    · split at h
      · obtain ⟨hprofile, hwire⟩ := decodeWithDeclaredLength_ok.1 h
        exact ⟨hprofile, _, .inl rfl, hwire⟩
      · cases h
    · cases h
  · rintro ⟨hprofile, declared, hdeclares, rfl⟩
    by_cases hsame : declared = firstDeclared transport
    · rw [hsame, decodeWithDeclaredLength_ok.2 ⟨hprofile, rfl⟩]
    · rw [decode_otherwise hsame]
      obtain ⟨rfl, rfl⟩ : declared = PREFERENCES_DECLARED_LENGTH ∧ transport = .receiver := by
        rcases hdeclares with rfl | ⟨rfl, rfl⟩
        · cases transport with
          | receiver => exact ⟨rfl, rfl⟩
          | wired | ble => exact absurd rfl hsame
        · exact absurd rfl hsame
      dsimp only
      rw [if_pos ⟨rfl, rfl⟩]
      exact decodeWithDeclaredLength_ok.2 ⟨hprofile, rfl⟩

/-- A report says one state, in one framing. -/
theorem wire_inj {state' : PreferencesState} {framing' : PreferencesFraming} {declared' : UInt8}
    (h : wire declared state framing = wire declared' state' framing') : state = state' ∧ framing = framing' := by
  have hframing : framing = framing' := by
    have hlength := congrArg List.length h
    rw [length_wire, length_wire] at hlength
    cases framing <;> cases framing' <;> first | rfl | cases hlength
  have hdeclared : declared = declared' := congrArg (fun packet => byte packet 1) h
  have hprofile : state.profile.get = state'.profile.get := congrArg (fun packet => byte packet 2) h
  subst hframing hdeclared
  have hfirst : decodeWithDeclaredLength (wire declared state framing) state.profile declared = .ok ⟨state, framing⟩ :=
    decodeWithDeclaredLength_ok.2 ⟨rfl, rfl⟩
  have hsecond : decodeWithDeclaredLength (wire declared state' framing) state.profile declared = .ok ⟨state', framing⟩ :=
    decodeWithDeclaredLength_ok.2 ⟨(ProfileId.get_inj _ _ hprofile).symm, rfl⟩
  rw [h, hsecond] at hfirst
  cases hfirst
  exact ⟨rfl, rfl⟩

/-- **What decodes** over a transport: a report of the result's state, in a framing and under a length the transport has. -/
theorem decodeForTransport_ok : decodeForTransport packet transport profile = .ok d ↔ d.state.profile = profile ∧
    d.framing.supportsTransport transport = true ∧
      ∃ declared, Declares transport declared ∧ packet = wire declared d.state d.framing := by
  have hsupports : (¬ (d.framing = .full ∧ d.framing.supportsTransport transport = false)) ↔
      d.framing.supportsTransport transport = true := by
    cases d.framing <;> cases transport <;> simp [PreferencesFraming.supportsTransport]
  unfold decodeForTransport
  rw [bind_ok]
  constructor
  · rintro ⟨d', hd', h⟩
    obtain ⟨hframing, h⟩ := expect_bind_ok.1 h
    cases h
    obtain ⟨hprofile, hwire⟩ := decodeAsDeclared_ok.1 hd'
    exact ⟨hprofile, hsupports.1 hframing, hwire⟩
  · rintro ⟨hprofile, hframing, hwire⟩
    exact ⟨d, decodeAsDeclared_ok.2 ⟨hprofile, hwire⟩, expect_bind_ok.2 ⟨hsupports.2 hframing, rfl⟩⟩

theorem asBytes_encodeFramed : (encodeFramed state framing).asBytes = wire PREFERENCES_DECLARED_LENGTH state framing := by
  have hpayload : slice ([PREFERENCES_REPORT_ID, PREFERENCES_DECLARED_LENGTH, state.profile.get] ++ state.payload) 3
      PREFERENCES_CHECKSUM_OFFSET = state.payload := by
    have hself := @Wire.slice_self state.payload
    rw [length_payload] at hself
    rw [slice_append_right (by simp)]
    exact hself
  unfold encodeFramed asBytes wire framed
  simp only [hpayload]
  cases framing with
  | compact =>
    rw [List.take_append_of_le_length (by simp [length_payload, PreferencesFraming.transmittedLength, PREFERENCES_COMPACT_LENGTH]),
      List.take_of_length_le (by simp [length_payload, PreferencesFraming.transmittedLength, PREFERENCES_COMPACT_LENGTH])]
    rw [padding, List.append_nil]
  | full =>
    rw [List.take_of_length_le (by simp [length_payload, PreferencesFraming.transmittedLength, PREFERENCES_FULL_LENGTH])]
    rfl

end Codec

end PreferencesReport

open PreferencesReport

/-- **The preferences codec is exact.**  What is encoded decodes to what was encoded, and for no other profile; what decodes is
the encoding of what it decodes to, except that the receiver may declare its own length; and a packet is of one profile and
one framing only. -/
theorem preferences_codec_exact :
    (∀ (state : PreferencesState) (transport : TransportKind) (framing : PreferencesFraming),
      framing.supportsTransport transport = true →
        decodeForTransport (encodeFramed state framing).asBytes transport state.profile = .ok ⟨state, framing⟩) ∧
    (∀ (packet : List UInt8) (transport : TransportKind) (profile : ProfileId) (d : DecodedPreferencesReport),
      decodeForTransport packet transport profile = .ok d →
        d.state.profile = profile ∧ d.framing.supportsTransport transport = true ∧
          (packet = (encodeFramed d.state d.framing).asBytes ∨
            (transport = .receiver ∧
              packet = (encodeFramed d.state d.framing).asBytes.set 1 PREFERENCES_RECEIVER_DECLARED_LENGTH))) ∧
    ∀ (packet : List UInt8) (transport transport' : TransportKind) (profile profile' : ProfileId)
      (d d' : DecodedPreferencesReport), decodeForTransport packet transport profile = .ok d →
        decodeForTransport packet transport' profile' = .ok d' → profile = profile' ∧ d = d' := by
  refine ⟨?_, ?_, ?_⟩
  · intro state transport framing hsupports
    rw [asBytes_encodeFramed]
    exact decodeForTransport_ok.2 ⟨rfl, hsupports, PREFERENCES_DECLARED_LENGTH, .inl rfl, rfl⟩
  · intro packet transport profile d hd
    obtain ⟨hprofile, hsupports, declared, hdeclares, rfl⟩ := decodeForTransport_ok.1 hd
    refine ⟨hprofile, hsupports, ?_⟩
    rw [asBytes_encodeFramed]
    rcases hdeclares with rfl | ⟨htransport, rfl⟩
    · exact .inl rfl
    · exact .inr ⟨htransport, rfl⟩
  · intro packet transport transport' profile profile' d d' hd hd'
    obtain ⟨hprofile, -, declared, -, hwire⟩ := decodeForTransport_ok.1 hd
    obtain ⟨hprofile', -, declared', -, hwire'⟩ := decodeForTransport_ok.1 hd'
    obtain ⟨hstate, hframing⟩ := wire_inj (hwire.symm.trans hwire')
    refine ⟨by rw [← hprofile, ← hprofile', hstate], ?_⟩
    cases d
    cases d'
    cases hstate
    cases hframing
    rfl

/-- A readback over Bluetooth. -/
theorem preferences_codec_exact_compact :
    decodeForTransport (encodeFramed ⟨.MIN_ID, 1, 2, 3, ⟨[4, 5, 6], rfl⟩, 7, 8⟩ .compact).asBytes .ble .MIN_ID =
      .ok ⟨⟨.MIN_ID, 1, 2, 3, ⟨[4, 5, 6], rfl⟩, 7, 8⟩, .compact⟩ :=
  preferences_codec_exact.1 ⟨.MIN_ID, 1, 2, 3, ⟨[4, 5, 6], rfl⟩, 7, 8⟩ .ble .compact rfl

end AttackSharkX3
