import AttackSharkX3.Report.DpiCodec
import AttackSharkX3.Rig
import AttackSharkX3.Update
/-!
# Watermark — the identity a tail carries

A tail is read in four steps: its length, the magic, the version and the checksum.  Each outcome of `decodeWatermark` is
the set of the slices that stop at one of them; those that pass all four are the watermarks, one for each token.  What is
not a whole tail holds no identity, whatever it starts with.
-/
namespace AttackSharkX3

open DpiReport

/-- Replaces the tail of a section by the watermark of this identity. -/
def DpiState.overlayPhysicalId [Crc32fast] (state : DpiState) (id : PhysicalId) : DpiState :=
  { state with preservedTail := id.toWatermarkBytes }

def DpiState.withPhysicalId [Crc32fast] (state : DpiState) (id : PhysicalId) : DpiState := state.overlayPhysicalId id

section Tails

variable [Crc32fast] {tail : List UInt8} {state : DpiState} {id : PhysicalId}

/-- The manager's overlay of an identity is the driver's. -/
theorem withPhysicalWatermark_eq : withPhysicalWatermark state (some id) = state.withPhysicalId id := rfl

@[simp] theorem DpiState.physicalId_withPhysicalId : (state.withPhysicalId id).physicalId = .valid id :=
  decode_toWatermarkBytes id

/-! ## The four steps -/

/-- A whole tail that starts with the magic. -/
def Marked (tail : List UInt8) : Prop := tail.length = WATERMARK_LENGTH ∧ WATERMARK_MAGIC <+: tail

omit [Crc32fast] in
theorem take_magic : tail.take WATERMARK_MAGIC.length = WATERMARK_MAGIC ↔ WATERMARK_MAGIC <+: tail := by
  rw [List.prefix_iff_eq_take, eq_comm]

omit [Crc32fast] in
theorem version_getD {version : UInt8} (h : tail.length = WATERMARK_LENGTH) :
    tail.getD WATERMARK_VERSION_OFFSET 0 = version ↔ tail[WATERMARK_VERSION_OFFSET]? = some version := by
  have hlt : WATERMARK_VERSION_OFFSET < tail.length := by
    rw [h]
    decide
  rw [List.getD_eq_getElem?_getD, List.getElem?_eq_getElem hlt]
  simp

/-- **No identity**: what is not a whole tail with the magic. -/
theorem decodeWatermark_absent : decodeWatermark tail = .absent ↔ ¬ Marked tail := by
  unfold decodeWatermark Marked
  by_cases hlength : tail.length = WATERMARK_LENGTH
  · by_cases hmagic : WATERMARK_MAGIC <+: tail
    · have htake := take_magic.2 hmagic
      simp only [dif_pos hlength, if_neg (not_not.2 htake)]
      simp only [hlength, hmagic, and_self, not_true, iff_false]
      split
      · intro h
        cases h
      · split
        · intro h
          cases h
        · intro h
          cases h
    · have htake : tail.take WATERMARK_MAGIC.length ≠ WATERMARK_MAGIC := mt take_magic.1 hmagic
      simp [hlength, hmagic, htake]
  · simp [hlength]

/-- **Another format**: a marked tail of any version but the first. -/
theorem decodeWatermark_unsupportedVersion {version : UInt8} : decodeWatermark tail = .unsupportedVersion version ↔
    Marked tail ∧ tail[WATERMARK_VERSION_OFFSET]? = some version ∧ version ≠ WATERMARK_VERSION := by
  by_cases hmarked : Marked tail
  · have hlength := hmarked.1
    have htake := take_magic.2 hmarked.2
    rw [and_iff_right hmarked, ← version_getD hlength]
    unfold decodeWatermark
    simp only [dif_pos hlength, if_neg (not_not.2 htake)]
    split
    · next hversion =>
      constructor
      · intro h
        cases h
        exact ⟨rfl, hversion⟩
      · rintro ⟨h, -⟩
        exact congrArg WatermarkDecode.unsupportedVersion h
    · next hversion =>
      rw [not_not] at hversion
      constructor
      · intro h
        split at h <;> cases h
      · rintro ⟨h, hne⟩
        exact (hne (h.symm.trans hversion)).elim
  · rw [decodeWatermark_absent.2 hmarked]
    simp [hmarked]

omit [Crc32fast] in
/-- The words of the checksum are those of its value. -/
theorem toBeBytes_fromBeBytes {bytes : List UInt8} (h : bytes.length = 4) : toBeBytes (fromBeBytes bytes) = bytes := by
  obtain ⟨a, b, c, d, rfl⟩ : ∃ a b c d, bytes = [a, b, c, d] := by
    match bytes, h with
    | [a, b, c, d], _ => exact ⟨a, b, c, d, rfl⟩
  have ha := a.toNat_lt
  have hb := b.toNat_lt
  have hc := c.toNat_lt
  have hd := d.toNat_lt
  have hvalue : (fromBeBytes [a, b, c, d]).toNat = ((a.toNat * 2 ^ 8 + b.toNat) * 2 ^ 8 + c.toNat) * 2 ^ 8 + d.toNat := by
    simp only [fromBeBytes, List.foldl_cons, List.foldl_nil, UInt32.toNat_ofNat']
    omega
  unfold toBeBytes
  rw [hvalue]
  have h0 : UInt8.ofNat ((((a.toNat * 2 ^ 8 + b.toNat) * 2 ^ 8 + c.toNat) * 2 ^ 8 + d.toNat) / 2 ^ 24) = a := by
    apply UInt8.toNat.inj
    rw [UInt8.toNat_ofNat']
    omega
  have h1 : UInt8.ofNat ((((a.toNat * 2 ^ 8 + b.toNat) * 2 ^ 8 + c.toNat) * 2 ^ 8 + d.toNat) / 2 ^ 16) = b := by
    apply UInt8.toNat.inj
    rw [UInt8.toNat_ofNat']
    omega
  have h2 : UInt8.ofNat ((((a.toNat * 2 ^ 8 + b.toNat) * 2 ^ 8 + c.toNat) * 2 ^ 8 + d.toNat) / 2 ^ 8) = c := by
    apply UInt8.toNat.inj
    rw [UInt8.toNat_ofNat']
    omega
  have h3 : UInt8.ofNat (((a.toNat * 2 ^ 8 + b.toNat) * 2 ^ 8 + c.toNat) * 2 ^ 8 + d.toNat) = d := by
    apply UInt8.toNat.inj
    rw [UInt8.toNat_ofNat']
    omega
  rw [h0, h1, h2, h3]

omit [Crc32fast] in
/-- A marked tail of the first version is the magic, the version, the token and four bytes of checksum. -/
theorem marked_parts (hmarked : Marked tail) (hversion : tail[WATERMARK_VERSION_OFFSET]? = some WATERMARK_VERSION) :
    tail.take WATERMARK_CRC_START =
      WATERMARK_MAGIC ++ WATERMARK_VERSION :: (tail.drop WATERMARK_TOKEN_START).take WATERMARK_TOKEN_LENGTH := by
  obtain ⟨hlength, rest, rfl⟩ := hmarked
  match rest, hversion with
  | version :: rest, hversion =>
    cases hversion
    rfl

/-- **An identity**: a tail decodes to a token when it is that token's watermark, and only then. -/
theorem decodeWatermark_valid : decodeWatermark tail = .valid id ↔ tail = id.toWatermarkBytes.toList := by
  constructor
  · intro h
    have hmarked : Marked tail := by
      by_contra hnot
      rw [decodeWatermark_absent.2 hnot] at h
      cases h
    obtain ⟨hlength, hmagic⟩ := hmarked
    have htake := take_magic.2 hmagic
    unfold decodeWatermark at h
    simp only [dif_pos hlength, if_neg (not_not.2 htake)] at h
    split at h
    · cases h
    · next hversion =>
      rw [not_not, version_getD hlength] at hversion
      split at h
      · cases h
      · next hchecksum =>
        rw [not_not] at hchecksum
        have hparts := marked_parts ⟨hlength, hmagic⟩ hversion
        have hwords : (tail.drop WATERMARK_CRC_START).length = 4 := by
          rw [List.length_drop, hlength]
          rfl
        cases h
        rw [toWatermarkBytes_toList]
        unfold PhysicalId.marked
        dsimp only
        rw [← hparts, ← hchecksum, toBeBytes_fromBeBytes hwords, List.take_append_drop]
  · rintro rfl
    exact decode_toWatermarkBytes id

/-- **A broken identity**: a marked tail of the first version that is no token's watermark. -/
theorem decodeWatermark_malformed : decodeWatermark tail = .malformed ↔
    Marked tail ∧ tail[WATERMARK_VERSION_OFFSET]? = some WATERMARK_VERSION ∧
      ∀ id : PhysicalId, tail ≠ id.toWatermarkBytes.toList := by
  constructor
  · intro h
    have hmarked : Marked tail := by
      by_contra hnot
      rw [decodeWatermark_absent.2 hnot] at h
      cases h
    have hlt : WATERMARK_VERSION_OFFSET < tail.length := by
      rw [hmarked.1]
      decide
    refine ⟨hmarked, ?_, ?_⟩
    · rw [List.getElem?_eq_getElem hlt]
      by_contra hversion
      have hother := decodeWatermark_unsupportedVersion.2
        ⟨hmarked, List.getElem?_eq_getElem hlt, fun heq => hversion (congrArg some heq)⟩
      rw [h] at hother
      cases hother
    · intro id heq
      rw [decodeWatermark_valid.2 heq] at h
      cases h
  · rintro ⟨hmarked, hversion, hnone⟩
    cases hd : decodeWatermark tail with
    | absent => exact (decodeWatermark_absent.1 hd hmarked).elim
    | malformed => rfl
    | unsupportedVersion version =>
      obtain ⟨-, hversion', hne⟩ := decodeWatermark_unsupportedVersion.1 hd
      rw [hversion] at hversion'
      exact (hne (Option.some.inj hversion').symm).elim
    | valid id => exact (hnone id (decodeWatermark_valid.1 hd)).elim

end Tails

/-- **Watermark decoding is exact.**  Whatever the checksum function: a slice decodes to a token when it is that token's
watermark and only then; the other outcomes are told apart by the length, the magic and the version, and no whole tail
that starts with the magic is without a watermark; two tokens have two watermarks; and a section with an identity
overlaid, framed and decoded, carries that identity. -/
theorem watermark_exact [Crc32fast] :
    (∀ (tail : List UInt8) (id : PhysicalId), decodeWatermark tail = .valid id ↔ tail = id.toWatermarkBytes.toList) ∧
    (∀ tail : List UInt8,
      (decodeWatermark tail = .absent ↔ ¬ (tail.length = WATERMARK_LENGTH ∧ WATERMARK_MAGIC <+: tail)) ∧
      (∀ version, decodeWatermark tail = .unsupportedVersion version ↔
        (tail.length = WATERMARK_LENGTH ∧ WATERMARK_MAGIC <+: tail) ∧
          tail[WATERMARK_VERSION_OFFSET]? = some version ∧ version ≠ WATERMARK_VERSION) ∧
      (decodeWatermark tail = .malformed ↔
        (tail.length = WATERMARK_LENGTH ∧ WATERMARK_MAGIC <+: tail) ∧
          tail[WATERMARK_VERSION_OFFSET]? = some WATERMARK_VERSION ∧
          ∀ id : PhysicalId, tail ≠ id.toWatermarkBytes.toList)) ∧
    (∀ a b : PhysicalId, a ≠ b → a.toWatermarkBytes ≠ b.toWatermarkBytes) ∧
    ∀ (state : DpiState) (id : PhysicalId) (framing : DpiFraming),
      ((∃ report, encodeFramed (state.withPhysicalId id) framing = .ok report) ↔ Selects state) ∧
      ∀ report, encodeFramed (state.withPhysicalId id) framing = .ok report →
        ∀ transport, framing.supportsTransport transport = true →
          ∃ d, decode report.asBytes transport state.profile = .ok d ∧ d.state = state.withPhysicalId id ∧
            d.state.physicalId = .valid id := by
  refine ⟨fun tail id => decodeWatermark_valid, ?_, ?_, ?_⟩
  · intro tail
    exact ⟨decodeWatermark_absent, fun version => decodeWatermark_unsupportedVersion, decodeWatermark_malformed⟩
  · intro a b hne heq
    exact hne (toWatermarkBytes_inj heq)
  · intro state id framing
    refine ⟨encodeFramed_ok, ?_⟩
    intro report hreport transport hsupports
    have hselects : Selects (state.withPhysicalId id) := encodeFramed_ok.1 ⟨report, hreport⟩
    have hdecode : decode report.asBytes transport state.profile =
        .ok ⟨state.withPhysicalId id, transport, framing⟩ := by
      refine decode_ok.2 ⟨⟨rfl, rfl⟩, hselects, hsupports, DPI_DECLARED_LENGTH, .inl rfl, ?_⟩
      exact asBytes_encodeFramed hreport
    exact ⟨_, hdecode, rfl, DpiState.physicalId_withPhysicalId⟩

/-- The magic alone is a slice that starts with the magic, and no tail. -/
theorem decodeWatermark_magic :
    ¬ ∀ (_ : Crc32fast) (tail : List UInt8), WATERMARK_MAGIC <+: tail → decodeWatermark tail ≠ .absent := by
  intro h
  have hmagic := h ⟨fun _ => 0⟩ WATERMARK_MAGIC (List.prefix_refl _)
  apply hmagic
  rfl

namespace Rig

/-- The identity is read back from two stages framed for the receiver. -/
theorem watermark_exact_twoStages : ∃ report,
    encodeFramed (twoStages.withPhysicalId ⟨⟨List.replicate 16 7, rfl⟩⟩) .full = .ok report ∧
    ∃ d, decode report.asBytes .receiver .MIN_ID = .ok d ∧
      d.state.physicalId = .valid ⟨⟨List.replicate 16 7, rfl⟩⟩ := by
  have hoverlaid := watermark_exact.2.2.2 twoStages ⟨⟨List.replicate 16 7, rfl⟩⟩ .full
  obtain ⟨report, hreport⟩ := hoverlaid.1.2 ⟨by decide, by decide⟩
  obtain ⟨d, hd, -, hid⟩ := hoverlaid.2 report hreport .receiver rfl
  exact ⟨report, hreport, d, hd, hid⟩

end Rig

end AttackSharkX3
