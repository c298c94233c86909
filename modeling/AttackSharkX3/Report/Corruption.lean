import AttackSharkX3.Report.ButtonsCodec
import AttackSharkX3.Report.PreferencesCodec
/-!
# Corruption — one changed byte

The three reports of a section are framed alike.  What still decodes after one byte has changed is a report of the same
layout, so its body is the one that was sent.
-/
namespace AttackSharkX3

open Wire

section Changed

variable {packet : List UInt8} {transport : TransportKind} {profile : ProfileId} {i : Nat} {x : UInt8}

namespace DpiReport

/-- A report that still decodes is of the same state. -/
theorem decode_set {state : DpiState} {framing : DpiFraming} (hselects : Selects state) {declared : UInt8}
    {d : DecodedDpiReport} (hd : decode ((wire declared state framing).set i x) transport state.profile = .ok d) :
    d.state = state := by
  obtain ⟨⟨htransport, hprofile⟩, -, hsupports, declared', hdeclares, hwire⟩ := decode_ok.1 hd
  have hframing : d.framing = framing := by
    have hlength := congrArg List.length hwire
    rw [List.length_set, length_wire, length_wire] at hlength
    revert hlength
    cases d.framing <;> cases framing <;> first | exact fun _ => rfl | exact nofun
  have hbody : body d.state = body state := by
    refine framed_set ?_ ?_ hwire
    · rfl
    · rw [length_body, length_body]
  have hsame : (wire declared state framing).set i x = wire declared' state framing := by
    rw [hwire, hframing]
    unfold wire
    rw [hbody, hprofile]
  have hagain : decode ((wire declared state framing).set i x) transport state.profile =
      .ok ⟨state, transport, framing⟩ := by
    refine decode_ok.2 ⟨⟨rfl, rfl⟩, hselects, ?_, declared', hdeclares, hsame⟩
    rw [← hframing]
    exact hsupports
  rw [hagain] at hd
  cases hd
  rfl

end DpiReport

namespace PreferencesReport

theorem decode_set {state : PreferencesState} {framing : PreferencesFraming} {declared : UInt8} {d : DecodedPreferencesReport}
    (hd : decodeForTransport ((wire declared state framing).set i x) transport state.profile = .ok d) : d.state = state := by
  obtain ⟨hprofile, -, declared', -, hwire⟩ := decodeForTransport_ok.1 hd
  have hpayload : d.state.payload = state.payload := by
    refine framed_set ?_ ?_ hwire
    · rfl
    · rw [length_payload, length_payload]
  have hsame : wire declared' d.state d.framing = wire declared' state d.framing := by
    unfold wire
    rw [hpayload, hprofile]
  exact (wire_inj hsame).1

end PreferencesReport

namespace ButtonsReport

theorem decode_set {state : ButtonsState} {declared : UInt8} {d : DecodedButtonsReport}
    (hd : decodeForTransport ((wire declared state).set i x) transport state.profile = .ok d) : d.state = state := by
  obtain ⟨hprofile, hwire⟩ := decodeForTransport_ok.1 hd
  have hslots : d.state.slots = state.slots := by
    refine flatMap_inj ?_ (framed_set ?_ ?_ hwire)
    · rw [d.state.slotCount, state.slotCount]
    · rfl
    · rw [length_slots, length_slots]
  revert hprofile hslots
  obtain ⟨⟨profile, slots, count⟩⟩ := d
  obtain ⟨profile', slots', count'⟩ := state
  rintro ⟨⟩ ⟨⟩
  rfl

end ButtonsReport

end Changed

/-- **One changed byte is never read as other settings.**  Whatever byte of an encoded report is replaced, and by whatever
value, decoding it for the same profile fails or gives the state that was encoded. -/
theorem one_byte_detected (transport : TransportKind) (i : Nat) (x : UInt8) :
    (∀ (state : DpiState) (framing : DpiFraming) (report : DpiReport), DpiReport.encodeFramed state framing = .ok report →
      ∀ d, DpiReport.decode (report.asBytes.set i x) transport state.profile = .ok d → d.state = state) ∧
    (∀ (state : PreferencesState) (framing : PreferencesFraming) (d : DecodedPreferencesReport),
      PreferencesReport.decodeForTransport ((PreferencesReport.encodeFramed state framing).asBytes.set i x) transport
        state.profile = .ok d → d.state = state) ∧
    ∀ (state : ButtonsState) (d : DecodedButtonsReport),
      ButtonsReport.decodeForTransport ((ButtonsReport.encode state).set i x) transport state.profile = .ok d →
        d.state = state := by
  refine ⟨?_, ?_, ?_⟩
  · intro state framing report hreport d hd
    rw [DpiReport.asBytes_encodeFramed hreport] at hd
    exact DpiReport.decode_set (DpiReport.encodeFramed_ok.1 ⟨report, hreport⟩) hd
  · intro state framing d hd
    rw [PreferencesReport.asBytes_encodeFramed] at hd
    exact PreferencesReport.decode_set hd
  · intro state d hd
    rw [ButtonsReport.encode_eq_wire] at hd
    exact ButtonsReport.decode_set hd

/-- The length a receiver declares is one changed byte, and the report is read as what was encoded. -/
theorem one_byte_detected_receiver : ∃ d : DecodedPreferencesReport,
    PreferencesReport.decodeForTransport
      ((PreferencesReport.encodeFramed ⟨.MIN_ID, 1, 2, 3, ⟨[4, 5, 6], rfl⟩, 7, 8⟩ .compact).asBytes.set 1
        PREFERENCES_RECEIVER_DECLARED_LENGTH) .receiver .MIN_ID = .ok d ∧
      d.state = ⟨.MIN_ID, 1, 2, 3, ⟨[4, 5, 6], rfl⟩, 7, 8⟩ := by
  have hd : PreferencesReport.decodeForTransport
      ((PreferencesReport.encodeFramed ⟨.MIN_ID, 1, 2, 3, ⟨[4, 5, 6], rfl⟩, 7, 8⟩ .compact).asBytes.set 1
        PREFERENCES_RECEIVER_DECLARED_LENGTH) .receiver .MIN_ID =
        .ok ⟨⟨.MIN_ID, 1, 2, 3, ⟨[4, 5, 6], rfl⟩, 7, 8⟩, .compact⟩ := by
    rw [PreferencesReport.asBytes_encodeFramed]
    refine PreferencesReport.decodeForTransport_ok.2
      ⟨rfl, rfl, PREFERENCES_RECEIVER_DECLARED_LENGTH, .inr ⟨rfl, rfl⟩, rfl⟩
  exact ⟨_, hd, (one_byte_detected .receiver 1 PREFERENCES_RECEIVER_DECLARED_LENGTH).2.1
    ⟨.MIN_ID, 1, 2, 3, ⟨[4, 5, 6], rfl⟩, 7, 8⟩ .compact _ hd⟩

end AttackSharkX3
