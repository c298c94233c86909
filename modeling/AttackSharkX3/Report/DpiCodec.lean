import AttackSharkX3.Report.Dpi
/-!
# The DPI codec — a report says one state, and a state is said one way

Each decoding step succeeds exactly on the bytes its encoder makes.  A decoded packet is therefore the encoding of what
it decodes to, but for the length the receiver declares.
-/
namespace AttackSharkX3

open Wire

/-! ## Fields -/

@[simp] theorem validateFixedFrom_ok {packet : List UInt8} {expected : UInt8} : ∀ {count start : Nat},
    validateFixedFrom packet expected count start = .ok () ↔ ∀ k < count, byte packet (start + k) = expected
  | 0, _ => by simp [validateFixedFrom]
  | count + 1, start => by
    unfold validateFixedFrom validateFixedByte
    rw [expect_bind_ok, validateFixedFrom_ok]
    constructor
    · rintro ⟨hfirst, hrest⟩ k hk
      cases k with
      | zero => exact hfirst
      | succ k =>
        have hk' := hrest k (by omega)
        rwa [Nat.add_assoc, Nat.add_comm 1] at hk'
    · intro h
      refine ⟨h 0 (by omega), ?_⟩
      intro k hk
      have hk' := h (k + 1) (by omega)
      rwa [Nat.add_comm k, ← Nat.add_assoc] at hk'

theorem decodeFraming_ok {transport : TransportKind} {length : Nat} {framing : DpiFraming} :
    decodeFraming transport length = .ok framing ↔
      framing.supportsTransport transport = true ∧ length = framing.transmittedLength := by
  unfold decodeFraming
  cases transport <;> cases framing <;>
    simp [DpiFraming.supportsTransport, DpiFraming.transmittedLength, DPI_WIRED_LENGTH, DPI_RECEIVER_LENGTH] <;>
    split <;> simp_all

theorem countOnes_le (mask : UInt8) : countOnes mask ≤ 8 := by
  unfold countOnes
  exact Nat.le_trans List.countP_le_length (by rw [List.length_range])

theorem countOnes_mask {count : Nat} (h : 1 ≤ count ∧ count ≤ 8) :
    countOnes (enabledStageMaskUnchecked count) = count := by
  have hcases : count = 1 ∨ count = 2 ∨ count = 3 ∨ count = 4 ∨ count = 5 ∨ count = 6 ∨ count = 7 ∨ count = 8 := by omega
  rcases hcases with rfl | rfl | rfl | rfl | rfl | rfl | rfl | rfl <;> decide

/-- The mask says how many stages there are. -/
theorem decodeStageCount_ok {mask : UInt8} {count : Nat} :
    decodeStageCount mask = .ok count ↔ (1 ≤ count ∧ count ≤ 8) ∧ mask = enabledStageMaskUnchecked count := by
  unfold decodeStageCount
  constructor
  · intro h
    split at h
    · cases h
    · next hmask =>
      rw [not_or, not_not] at hmask
      have hle := countOnes_le mask
      cases h
      exact ⟨⟨Nat.pos_of_ne_zero hmask.1, hle⟩, hmask.2.symm⟩
  · rintro ⟨hcount, rfl⟩
    rw [countOnes_mask hcount, if_neg]
    rintro (hzero | hne)
    · omega
    · exact hne rfl

theorem decodeLiftOffDistance_ok {value : UInt8} {distance : LiftOffDistance} :
    decodeLiftOffDistance value = .ok distance ↔ value = distance.code := by
  unfold decodeLiftOffDistance
  split
  · cases distance <;> simp [LiftOffDistance.code]
  · cases distance <;> simp [LiftOffDistance.code]
  · next hzero hone =>
    constructor
    · intro h
      cases h
    · intro h
      cases distance
      · exact (hzero h).elim
      · exact (hone h).elim

theorem decodeToggle_ok {field : String} {value : UInt8} {on : Bool} :
    decodeToggle field value = .ok on ↔ value = on.toUInt8 := by
  unfold decodeToggle
  split
  · cases on <;> simp <;> decide
  · cases on <;> simp <;> decide
  · next hzero hone =>
    constructor
    · intro h
      cases h
    · intro h
      cases on
      · exact (hzero h).elim
      · exact (hone h).elim

theorem StageIndex.tryFrom_ok {value : UInt8} {index : StageIndex} :
    StageIndex.tryFrom value = .ok index ↔ value = index.get := by
  unfold StageIndex.tryFrom
  split
  · next h =>
    constructor
    · intro heq
      cases heq
      rfl
    · rintro rfl
      rfl
  · next h =>
    constructor
    · intro heq
      cases heq
    · rintro rfl
      exact (h index.range).elim

theorem validateStageSelection_ok {count : Nat} {active : StageIndex} :
    validateStageSelection count active = .ok () ↔ (1 ≤ count ∧ count ≤ 8) ∧ active.get.toNat ≤ count := by
  unfold validateStageSelection
  split
  · next h => exact ⟨fun h' => (nomatch h'), fun h' => (h h'.1).elim⟩
  · next h =>
    split
    · next hactive => exact ⟨fun h' => (nomatch h'), fun h' => by omega⟩
    · next hactive => exact ⟨fun _ => ⟨not_not.1 h, by omega⟩, fun _ => rfl⟩

/-! ## Stages -/

theorem DpiValue.toNat_raw (dpi : DpiValue) : 50 * (dpi.raw.toNat + 1) = dpi.get.toNat := by
  obtain ⟨get, hlow, hhigh, hstep⟩ := dpi
  have hlow : 50 ≤ get.toNat := hlow
  have hstep : get.toNat % 50 = 0 := by
    have h := congrArg UInt16.toNat hstep
    rwa [UInt16.toNat_mod] at h
  have hone : (1 : UInt16) ≤ get / 50 := by
    rw [UInt16.le_iff_toNat_le, UInt16.toNat_div]
    show 1 ≤ get.toNat / 50
    omega
  unfold raw
  rw [UInt16.toNat_sub_of_le _ _ hone, UInt16.toNat_div]
  show 50 * (get.toNat / 50 - 1 + 1) = get.toNat
  omega

theorem DpiValue.raw_le (dpi : DpiValue) : dpi.raw ≤ 519 := by
  have hraw := dpi.toNat_raw
  have hhigh : dpi.get.toNat ≤ 26000 := dpi.range.2.1
  rw [UInt16.le_iff_toNat_le]
  show dpi.raw.toNat ≤ 519
  omega

theorem DpiValue.get_inj {a b : DpiValue} (h : a.get = b.get) : a = b := by
  cases a
  cases b
  cases h
  rfl

theorem DpiValue.tryFrom_get (dpi : DpiValue) : DpiValue.tryFrom dpi.get = .ok dpi := by
  have hstep : dpi.get / 50 * 50 = dpi.get := by
    have hmod : dpi.get.toNat % 50 = 0 := by
      have h := congrArg UInt16.toNat dpi.range.2.2
      rwa [UInt16.toNat_mod] at h
    have hlt := dpi.get.toNat_lt
    apply UInt16.toNat.inj
    rw [UInt16.toNat_mul, UInt16.toNat_div]
    show dpi.get.toNat / 50 * 50 % 2 ^ 16 = dpi.get.toNat
    omega
  unfold tryFrom DpiValue.new
  rw [dif_pos ⟨dpi.range.1, dpi.range.2.1, hstep⟩]

/-- A wire value in range is one DPI's. -/
theorem DpiValue.tryFrom_raw {raw : UInt16} (h : raw ≤ 519) {dpi : DpiValue} :
    DpiValue.tryFrom ((raw + 1) * 50) = .ok dpi ↔ raw = dpi.raw := by
  have hraw : raw.toNat ≤ 519 := h
  have hsum : (raw + 1).toNat = raw.toNat + 1 := by
    rw [UInt16.toNat_add]
    show (raw.toNat + 1) % 2 ^ 16 = raw.toNat + 1
    omega
  have hproduct : ((raw + 1) * 50).toNat = 50 * (raw.toNat + 1) := by
    rw [UInt16.toNat_mul, hsum]
    show (raw.toNat + 1) * 50 % 2 ^ 16 = 50 * (raw.toNat + 1)
    omega
  constructor
  · intro heq
    unfold tryFrom at heq
    split at heq
    · next found hnew =>
      cases heq
      unfold DpiValue.new at hnew
      split at hnew
      · next hrange =>
        have hget : (raw + 1) * 50 = dpi.get := congrArg DpiValue.get (Option.some.inj hnew)
        have hget := congrArg UInt16.toNat hget
        have htwo := dpi.toNat_raw
        apply UInt16.toNat.inj
        omega
      · cases hnew
    · cases heq
  · rintro rfl
    have hget : (dpi.raw + 1) * 50 = dpi.get := by
      apply UInt16.toNat.inj
      rw [hproduct, dpi.toNat_raw]
    rw [hget]
    exact dpi.tryFrom_get

@[simp] theorem stageRaw_nil (k : Nat) : stageRaw [] k = 0 := rfl
@[simp] theorem stageRaw_cons_zero (dpi : DpiValue) (rest : List DpiValue) : stageRaw (dpi :: rest) 0 = dpi.raw := rfl
@[simp] theorem stageRaw_cons_succ (dpi : DpiValue) (rest : List DpiValue) (k : Nat) :
    stageRaw (dpi :: rest) (k + 1) = stageRaw rest k := rfl

/-- The word of a stage position. -/
def stageWord (packet : List UInt8) (index : Nat) : UInt16 := word (byte packet (16 + index)) (byte packet (8 + index))

/-- **The stage table decodes to the stages whose words it holds**, with zeros past the last. -/
theorem decodeStages_ok {packet : List UInt8} {count : Nat} : ∀ {remaining index : Nat} {stages : List DpiValue},
    decodeStages packet count remaining index = .ok stages ↔
      stages.length = min remaining (count - index) ∧
        ∀ k < remaining, stageWord packet (index + k) = stageRaw stages k
  | 0, index, stages => by
    simp [decodeStages, eq_comm]
  | remaining + 1, index, stages => by
    have hshift : ∀ {P : Nat → Prop}, (∀ k < remaining + 1, P k) ↔ P 0 ∧ ∀ k < remaining, P (k + 1) := by
      intro P
      constructor
      · intro h
        exact ⟨h 0 (by omega), fun k hk => h (k + 1) (by omega)⟩
      · rintro ⟨hzero, hsucc⟩ k hk
        cases k with
        | zero => exact hzero
        | succ k => exact hsucc k (by omega)
    have hnext : ∀ k, index + 1 + k = index + (k + 1) := by omega
    unfold decodeStages
    by_cases hunused : count ≤ index
    · rw [if_pos hunused, expect_bind_ok, decodeStages_ok, hshift]
      have hlength : min remaining (count - (index + 1)) = 0 := by omega
      have hlength' : min (remaining + 1) (count - index) = 0 := by omega
      rw [hlength, hlength']
      simp only [hnext]
      constructor
      · rintro ⟨hzero, hnil, hrest⟩
        obtain rfl := List.length_eq_zero_iff.1 hnil
        exact ⟨rfl, hzero, hrest⟩
      · rintro ⟨hnil, hzero, hrest⟩
        obtain rfl := List.length_eq_zero_iff.1 hnil
        exact ⟨hzero, rfl, hrest⟩
    · rw [if_neg hunused, expect_bind_ok, bind_ok, hshift]
      have hlength : min (remaining + 1) (count - index) = min remaining (count - (index + 1)) + 1 := by omega
      rw [hlength]
      constructor
      · rintro ⟨hle, dpi, hdpi, htail⟩
        obtain ⟨rest, hrest, hstages⟩ := bind_ok.1 htail
        obtain rfl : dpi :: rest = stages := Except.ok.inj hstages
        rw [decodeStages_ok] at hrest
        simp only [hnext] at hrest
        exact ⟨by rw [List.length_cons, hrest.1], (DpiValue.tryFrom_raw hle).1 hdpi, hrest.2⟩
      · rintro ⟨hstages, hfirst, hrest⟩
        cases stages with
        | nil => cases hstages
        | cons dpi rest =>
          have hraw : stageWord packet index = dpi.raw := hfirst
          have hle : stageWord packet index ≤ 519 := hraw ▸ dpi.raw_le
          refine ⟨hle, dpi, (DpiValue.tryFrom_raw hle).2 hraw, ?_⟩
          refine bind_ok.2 ⟨rest, decodeStages_ok.2 ⟨Nat.succ.inj hstages, ?_⟩, rfl⟩
          simp only [hnext]
          exact hrest

/-! ## The report -/

namespace DpiReport

/-- The bytes after the checksum. -/
def padding : DpiFraming → List UInt8
  | .compact => []
  | .full => [0, 0, 0, 0]

/-- **A report of a state**, with this declared length. -/
def wire (declared : UInt8) (state : DpiState) (framing : DpiFraming) : List UInt8 :=
  [DPI_REPORT_ID, declared, state.profile.get] ++ body state ++
    [highByte (sum16 (body state)), lowByte (sum16 (body state))] ++ padding framing

variable {state : DpiState} {framing : DpiFraming} {declared : UInt8} {packet : List UInt8} {k : Nat}

theorem length_body (state : DpiState) : (body state).length = 47 := by
  simp [body, state.preservedTail.length_eq]

theorem byte_body_low (h : k < 8) : byte (body state) (5 + k) = lowByte (stageRaw state.stages k) := by
  unfold body
  rw [List.append_assoc, List.append_assoc, List.append_assoc, byte_append_right (by simp), byte_append_left (by simp; omega)]
  have hk : 5 + k - 5 = k := by omega
  simp only [List.length_cons, List.length_nil]
  rw [hk, byte_map_range h]

theorem byte_body_high (h : k < 8) : byte (body state) (13 + k) = highByte (stageRaw state.stages k) := by
  unfold body
  rw [List.append_assoc, List.append_assoc, byte_append_right (by simp), byte_append_left (by simp; omega)]
  have hk : 13 + k - 13 = k := by omega
  simp only [List.length_append, List.length_map, List.length_range, List.length_cons, List.length_nil]
  rw [hk, byte_map_range h]

theorem byte_body_active : byte (body state) 21 = state.activeStage.get := by
  unfold body
  rw [List.append_assoc, byte_append_right (by simp)]
  simp [byte]

theorem byte_body_tail : byte (body state) (22 + k) = byte state.preservedTail.toList k := by
  unfold body
  rw [byte_append_right (by simp)]
  have hk : 22 + k - 22 = k := by omega
  simp only [List.length_append, List.length_map, List.length_range, List.length_cons, List.length_nil]
  rw [hk]

/-- The body of a state, byte by byte. -/
theorem eq_body {bytes : List UInt8} (hlength : bytes.length = 47) : bytes = body state ↔
    (byte bytes 0 = state.sensor.liftOffDistance.code ∧ byte bytes 1 = state.sensor.rippleControl.toUInt8 ∧
      byte bytes 2 = enabledStageMaskUnchecked state.stages.length ∧ byte bytes 3 = state.sensor.angleSnap.toUInt8 ∧
      byte bytes 4 = state.sensor.motionSync.toUInt8) ∧
    (∀ k < 8, word (byte bytes (13 + k)) (byte bytes (5 + k)) = stageRaw state.stages k) ∧
    byte bytes 21 = state.activeStage.get ∧ ∀ k < 25, byte bytes (22 + k) = byte state.preservedTail.toList k := by
  constructor
  · rintro rfl
    refine ⟨⟨rfl, rfl, rfl, rfl, rfl⟩, ?_, byte_body_active, fun k _ => byte_body_tail⟩
    intro k hk
    rw [byte_body_high hk, byte_body_low hk, word_bytes]
  · rintro ⟨⟨h0, h1, h2, h3, h4⟩, hstages, hactive, htail⟩
    apply ext_byte (by rw [hlength, length_body])
    intro i hi
    rw [hlength] at hi
    have hregion : i = 0 ∨ i = 1 ∨ i = 2 ∨ i = 3 ∨ i = 4 ∨ (∃ k < 8, i = 5 + k) ∨ (∃ k < 8, i = 13 + k) ∨ i = 21 ∨
        ∃ k < 25, i = 22 + k := by
      rcases Nat.lt_or_ge i 5 with h | h
      · omega
      rcases Nat.lt_or_ge i 13 with h' | h'
      · exact .inr (.inr (.inr (.inr (.inr (.inl ⟨i - 5, by omega, by omega⟩)))))
      rcases Nat.lt_or_ge i 21 with h'' | h''
      · exact .inr (.inr (.inr (.inr (.inr (.inr (.inl ⟨i - 13, by omega, by omega⟩))))))
      rcases Nat.eq_or_lt_of_le h'' with rfl | h'''
      · omega
      · exact .inr (.inr (.inr (.inr (.inr (.inr (.inr (.inr ⟨i - 22, by omega, by omega⟩)))))))
    rcases hregion with rfl | rfl | rfl | rfl | rfl | ⟨k, hk, rfl⟩ | ⟨k, hk, rfl⟩ | rfl | ⟨k, hk, rfl⟩
    · exact h0
    · exact h1
    · exact h2
    · exact h3
    · exact h4
    · rw [byte_body_low hk]
      exact (word_eq.1 (hstages k hk)).2
    · rw [byte_body_high hk]
      exact (word_eq.1 (hstages k hk)).1
    · rw [byte_body_active]
      exact hactive
    · rw [byte_body_tail]
      exact htail k hk

theorem length_padding : (padding framing).length + 52 = framing.transmittedLength := by
  cases framing <;> rfl

theorem length_wire : (wire declared state framing).length = framing.transmittedLength := by
  rw [← length_padding]
  simp [wire, length_body]
  omega

theorem slice_wire_body : slice (wire declared state framing) 3 CHECKSUM_OFFSET = body state := by
  have hlength := length_body state
  unfold wire CHECKSUM_OFFSET
  rw [slice_append_left (by simp [hlength]), slice_append_left (by simp [hlength]), slice_append_right (by simp)]
  have hself := @Wire.slice_self (body state)
  rwa [hlength] at hself

theorem word_wire_checksum :
    word (byte (wire declared state framing) 50) (byte (wire declared state framing) 51) = sum16 (body state) := by
  have hread : ∀ k < 2, byte (wire declared state framing) (50 + k) =
      byte [highByte (sum16 (body state)), lowByte (sum16 (body state))] k := by
    intro k hk
    unfold wire
    rw [byte_append_left (by simp [length_body]; omega), byte_append_right (by simp [length_body])]
    congr 1
    simp [length_body]
  rw [hread 0 (by omega), hread 1 (by omega)]
  exact word_bytes _

theorem byte_wire_padding : byte (wire declared state framing) (52 + k) = byte (padding framing) k := by
  unfold wire
  rw [byte_append_right (by simp [length_body])]
  congr 1
  simp [length_body]

/-- **A packet is a report of the state** when its identity, body, checksum and padding say so. -/
theorem eq_wire (hlength : packet.length = framing.transmittedLength) : packet = wire declared state framing ↔
    (byte packet 0 = DPI_REPORT_ID ∧ byte packet 1 = declared ∧ byte packet 2 = state.profile.get) ∧
      slice packet 3 CHECKSUM_OFFSET = body state ∧
      word (byte packet CHECKSUM_OFFSET) (byte packet (CHECKSUM_OFFSET + 1)) = sum16 (body state) ∧
      (framing = .full → ∀ k < 4, byte packet (52 + k) = 0) := by
  constructor
  · rintro rfl
    refine ⟨⟨rfl, rfl, rfl⟩, slice_wire_body, word_wire_checksum, ?_⟩
    rintro rfl k hk
    rw [byte_wire_padding]
    have hcases : k = 0 ∨ k = 1 ∨ k = 2 ∨ k = 3 := by omega
    rcases hcases with rfl | rfl | rfl | rfl <;> rfl
  · rintro ⟨⟨hid, hdeclared, hprofile⟩, hbody, hsum, hzeros⟩
    have hpadding := @length_padding framing
    have hheader : slice packet 0 3 = [DPI_REPORT_ID, declared, state.profile.get] := by
      rw [slice_eq_map (n := 3) (by omega)]
      show [byte packet (0 + 0), byte packet (0 + 1), byte packet (0 + 2)] = _
      rw [hid, hdeclared, hprofile]
    have hchecksum : slice packet 50 52 = [highByte (sum16 (body state)), lowByte (sum16 (body state))] := by
      rw [slice_eq_map (n := 2) (by omega)]
      show [byte packet CHECKSUM_OFFSET, byte packet (CHECKSUM_OFFSET + 1)] = _
      obtain ⟨hhigh, hlow⟩ := word_eq.1 hsum
      rw [hhigh, hlow]
    have hrest : slice packet 52 packet.length = padding framing := by
      cases framing with
      | compact =>
        rw [hlength]
        simp [slice, padding, DpiFraming.transmittedLength, DPI_WIRED_LENGTH]
      | full =>
        rw [hlength]
        show slice packet 52 (52 + 4) = _
        rw [slice_eq_map (n := 4) (by rw [hlength]; exact Nat.le_refl _)]
        show [byte packet (52 + 0), byte packet (52 + 1), byte packet (52 + 2), byte packet (52 + 3)] = _
        rw [hzeros rfl 0 (by omega), hzeros rfl 1 (by omega), hzeros rfl 2 (by omega), hzeros rfl 3 (by omega)]
        rfl
    have hwhole : slice packet 0 3 ++ slice packet 3 50 ++ slice packet 50 52 ++ slice packet 52 packet.length = packet := by
      rw [slice_append (by omega) (by omega), slice_append (by omega) (by omega), slice_append (by omega) (by omega),
        slice_self]
    rw [← hwhole, hheader, hchecksum, hrest]
    unfold wire
    rw [show slice packet 3 50 = body state from hbody]

/-- What a transport may declare for the length. -/
def Declares (transport : TransportKind) (declared : UInt8) : Prop :=
  declared = DPI_DECLARED_LENGTH ∨ (transport = .receiver ∧ declared = DPI_RECEIVER_DECLARED_LENGTH)

/-- The stages and the active one that a report can say. -/
def Selects (state : DpiState) : Prop :=
  (1 ≤ state.stages.length ∧ state.stages.length ≤ 8) ∧ state.activeStage.get.toNat ≤ state.stages.length

theorem read_tail {tail : Tail} : Bytes.read packet FIXED_TAIL_START 25 = tail ↔
    ∀ k < 25, byte packet (25 + k) = byte tail.toList k := by
  have hread : ∀ k < 25, byte (Bytes.read packet FIXED_TAIL_START 25).toList k = byte packet (25 + k) :=
    fun k hk => byte_map_range hk
  constructor
  · rintro rfl k hk
    exact (hread k hk).symm
  · intro h
    have hlist : (Bytes.read packet FIXED_TAIL_START 25).toList = tail.toList := by
      apply ext_byte
      · rw [Bytes.length_eq, Bytes.length_eq]
      · intro k hk
        rw [Bytes.length_eq] at hk
        rw [hread k hk, h k hk]
    cases tail
    cases hlist
    rfl

/-- The body of a state, as the decoder reads it off a packet. -/
theorem slice_eq_body (hlength : 52 ≤ packet.length) : slice packet 3 CHECKSUM_OFFSET = body state ↔
    (byte packet 3 = state.sensor.liftOffDistance.code ∧ byte packet 4 = state.sensor.rippleControl.toUInt8 ∧
      byte packet 5 = enabledStageMaskUnchecked state.stages.length ∧ byte packet 6 = state.sensor.angleSnap.toUInt8 ∧
      byte packet 7 = state.sensor.motionSync.toUInt8) ∧
    (∀ k < 8, stageWord packet k = stageRaw state.stages k) ∧ byte packet 24 = state.activeStage.get ∧
    ∀ k < 25, byte packet (25 + k) = byte state.preservedTail.toList k := by
  have hread : ∀ k < 47, byte (slice packet 3 CHECKSUM_OFFSET) k = byte packet (3 + k) :=
    fun k hk => byte_slice (by unfold CHECKSUM_OFFSET; omega)
  have hslice : (slice packet 3 CHECKSUM_OFFSET).length = 47 := by
    rw [length_slice (by unfold CHECKSUM_OFFSET; omega)]
    rfl
  rw [eq_body hslice, hread 0 (by omega), hread 1 (by omega), hread 2 (by omega), hread 3 (by omega),
    hread 4 (by omega), hread 21 (by omega)]
  have hstages : (∀ k < 8, word (byte (slice packet 3 CHECKSUM_OFFSET) (13 + k))
      (byte (slice packet 3 CHECKSUM_OFFSET) (5 + k)) = stageRaw state.stages k) ↔
      ∀ k < 8, stageWord packet k = stageRaw state.stages k := by
    refine forall₂_congr fun k hk => ?_
    rw [hread _ (by omega), hread _ (by omega), ← Nat.add_assoc, ← Nat.add_assoc]
    rfl
  have htail : (∀ k < 25, byte (slice packet 3 CHECKSUM_OFFSET) (22 + k) = byte state.preservedTail.toList k) ↔
      ∀ k < 25, byte packet (25 + k) = byte state.preservedTail.toList k := by
    refine forall₂_congr fun k hk => ?_
    rw [hread _ (by omega), ← Nat.add_assoc]
  rw [hstages, htail]

theorem declares_iff {transport : TransportKind} {declared : UInt8} : Declares transport declared ↔
    (declared = match transport with
      | .receiver => DPI_RECEIVER_DECLARED_LENGTH
      | .wired | .ble => DPI_DECLARED_LENGTH) ∨ (transport = .receiver ∧ declared = DPI_DECLARED_LENGTH) := by
  unfold Declares
  cases transport <;> simp [or_comm]

/-- **What decodes**: a report of the result's state, over a transport that has its framing and declared length. -/
theorem decode_ok {transport : TransportKind} {profile : ProfileId} {d : DecodedDpiReport} :
    decode packet transport profile = .ok d ↔ (d.transport = transport ∧ d.state.profile = profile) ∧
      Selects d.state ∧ d.framing.supportsTransport transport = true ∧
      ∃ declared, Declares transport declared ∧ packet = wire declared d.state d.framing := by
  constructor
  · intro h
    unfold decode at h
    obtain ⟨framing, hframing, h⟩ := bind_ok.1 h
    obtain ⟨hid, h⟩ := expect_bind_ok.1 h
    obtain ⟨hdeclared, h⟩ := expect_bind_ok.1 h
    obtain ⟨hprofile, h⟩ := expect_bind_ok.1 h
    obtain ⟨_, hpadding, h⟩ := bind_ok.1 h
    obtain ⟨hsum, h⟩ := expect_bind_ok.1 h
    obtain ⟨liftOffDistance, hliftOff, h⟩ := bind_ok.1 h
    obtain ⟨rippleControl, hripple, h⟩ := bind_ok.1 h
    obtain ⟨angleSnap, hangle, h⟩ := bind_ok.1 h
    obtain ⟨motionSync, hmotion, h⟩ := bind_ok.1 h
    obtain ⟨stageCount, hcount, h⟩ := bind_ok.1 h
    obtain ⟨stages, hstages, h⟩ := bind_ok.1 h
    obtain ⟨activeStage, hactive, h⟩ := bind_ok.1 h
    obtain ⟨_, hselects, h⟩ := bind_ok.1 h
    cases h
    obtain ⟨hsupports, hlength⟩ := decodeFraming_ok.1 hframing
    obtain ⟨⟨hlow, hhigh⟩, hmask⟩ := decodeStageCount_ok.1 hcount
    obtain ⟨hstagesLength, hwords⟩ := decodeStages_ok.1 hstages
    obtain rfl : stages.length = stageCount := by omega
    have hlong : 52 ≤ packet.length := by
      have hp := @length_padding framing
      omega
    have hbody : slice packet 3 CHECKSUM_OFFSET = body ⟨profile, stages, activeStage,
        ⟨liftOffDistance, rippleControl, angleSnap, motionSync⟩, .read packet FIXED_TAIL_START 25⟩ :=
      (slice_eq_body hlong).2 ⟨⟨decodeLiftOffDistance_ok.1 hliftOff, decodeToggle_ok.1 hripple, hmask,
        decodeToggle_ok.1 hangle, decodeToggle_ok.1 hmotion⟩, by simpa using hwords, StageIndex.tryFrom_ok.1 hactive,
        read_tail.1 rfl⟩
    refine ⟨⟨rfl, rfl⟩, validateStageSelection_ok.1 hselects, hsupports, byte packet 1, declares_iff.2 hdeclared, ?_⟩
    refine (eq_wire hlength).2 ⟨⟨hid, rfl, hprofile⟩, hbody, ?_, ?_⟩
    · rw [← hbody]
      exact hsum
    · rintro rfl
      exact validateFixedFrom_ok.1 hpadding
  · rintro ⟨⟨rfl, rfl⟩, hselects, hsupports, declared, hdeclares, hpacket⟩
    obtain ⟨state, transport, framing⟩ := d
    have hlength : packet.length = framing.transmittedLength := hpacket ▸ length_wire
    have hlong : 52 ≤ packet.length := by
      have hp := @length_padding framing
      omega
    obtain ⟨⟨hid, hdeclared, hprofile⟩, hbody, hsum, hzeros⟩ := (eq_wire hlength).1 hpacket
    obtain ⟨⟨hliftOff, hripple, hmask, hangle, hmotion⟩, hstages, hactive, htail⟩ := (slice_eq_body hlong).1 hbody
    unfold decode
    refine bind_ok.2 ⟨framing, decodeFraming_ok.2 ⟨hsupports, hlength⟩, ?_⟩
    refine expect_bind_ok.2 ⟨hid, ?_⟩
    refine expect_bind_ok.2 ⟨declares_iff.1 (hdeclared ▸ hdeclares), ?_⟩
    refine expect_bind_ok.2 ⟨hprofile, ?_⟩
    refine bind_ok.2 ⟨(), ?_, ?_⟩
    · unfold validatePadding
      split
      · next hfull => exact validateFixedFrom_ok.2 (hzeros hfull)
      · rfl
    refine expect_bind_ok.2 ⟨by rw [hbody, hsum], ?_⟩
    refine bind_ok.2 ⟨_, decodeLiftOffDistance_ok.2 hliftOff, ?_⟩
    refine bind_ok.2 ⟨_, decodeToggle_ok.2 hripple, ?_⟩
    refine bind_ok.2 ⟨_, decodeToggle_ok.2 hangle, ?_⟩
    refine bind_ok.2 ⟨_, decodeToggle_ok.2 hmotion, ?_⟩
    refine bind_ok.2 ⟨_, decodeStageCount_ok.2 ⟨hselects.1, hmask⟩, ?_⟩
    have hcount : state.stages.length ≤ 8 := hselects.1.2
    refine bind_ok.2 ⟨state.stages, decodeStages_ok.2 ⟨(Nat.min_eq_right hcount).symm, by simpa using hstages⟩, ?_⟩
    refine bind_ok.2 ⟨_, StageIndex.tryFrom_ok.2 hactive, ?_⟩
    refine bind_ok.2 ⟨(), validateStageSelection_ok.2 hselects, ?_⟩
    rw [read_tail.2 htail]
    rfl

/-- **What encodes**: every state with a valid selection, as its report of the canonical length. -/
theorem encodeFramed_ok : (∃ report, encodeFramed state framing = .ok report) ↔ Selects state := by
  unfold encodeFramed
  constructor
  · rintro ⟨report, h⟩
    obtain ⟨_, hselects, -⟩ := bind_ok.1 h
    exact validateStageSelection_ok.1 hselects
  · intro h
    exact ⟨_, bind_ok.2 ⟨(), validateStageSelection_ok.2 h, rfl⟩⟩

theorem asBytes_encodeFramed {report : DpiReport} (h : encodeFramed state framing = .ok report) :
    report.asBytes = wire DPI_DECLARED_LENGTH state framing := by
  unfold encodeFramed at h
  obtain ⟨_, -, h⟩ := bind_ok.1 h
  cases h
  have hbody : slice ([DPI_REPORT_ID, DPI_DECLARED_LENGTH, state.profile.get] ++ body state) 3 CHECKSUM_OFFSET =
      body state := by
    have hself := @Wire.slice_self (body state)
    rw [length_body] at hself
    rw [slice_append_right (by simp)]
    exact hself
  have hlength := length_body state
  unfold asBytes wire
  simp only [hbody]
  cases framing with
  | compact =>
    rw [List.take_append_of_le_length (by simp [hlength, DpiFraming.transmittedLength, DPI_WIRED_LENGTH]),
      List.take_of_length_le (by simp [hlength, DpiFraming.transmittedLength, DPI_WIRED_LENGTH])]
    rw [padding, List.append_nil]
  | full =>
    rw [List.take_of_length_le (by simp [hlength, DpiFraming.transmittedLength, DPI_RECEIVER_LENGTH])]
    rfl

end DpiReport

open DpiReport

/-- **The DPI codec is exact.**  What is encoded decodes to what was encoded; what decodes is the encoding of what it
decodes to, except that the receiver may declare its own length; so packets that decode alike differ there at most. -/
theorem dpi_codec_exact :
    (∀ (state : DpiState) (transport : TransportKind) (framing : DpiFraming),
      1 ≤ state.stages.length → state.stages.length ≤ 8 → state.activeStage.get.toNat ≤ state.stages.length →
      framing.supportsTransport transport = true →
      ∃ report, encodeFramed state framing = .ok report ∧
        decode report.asBytes transport state.profile = .ok ⟨state, transport, framing⟩) ∧
    (∀ (packet : List UInt8) (transport : TransportKind) (profile : ProfileId) (d : DecodedDpiReport),
      decode packet transport profile = .ok d →
      ∃ report, encodeFramed d.state d.framing = .ok report ∧
        (packet = report.asBytes ∨
          (transport = .receiver ∧ packet = report.asBytes.set 1 DPI_RECEIVER_DECLARED_LENGTH))) ∧
    ∀ (packet packet' : List UInt8) (transport transport' : TransportKind) (profile profile' : ProfileId)
      (d : DecodedDpiReport),
      decode packet transport profile = .ok d → decode packet' transport' profile' = .ok d →
      packet.length = packet'.length ∧ ∀ i, i ≠ 1 → packet[i]? = packet'[i]? := by
  refine ⟨?_, ?_, ?_⟩
  · intro state transport framing hlow hhigh hactive hsupports
    have hselects : Selects state := ⟨⟨hlow, hhigh⟩, hactive⟩
    obtain ⟨report, hreport⟩ := encodeFramed_ok.2 hselects
    refine ⟨report, hreport, decode_ok.2 ⟨⟨rfl, rfl⟩, hselects, hsupports, DPI_DECLARED_LENGTH, .inl rfl, ?_⟩⟩
    exact asBytes_encodeFramed hreport
  · intro packet transport profile d hd
    obtain ⟨-, hselects, -, declared, hdeclares, rfl⟩ := decode_ok.1 hd
    obtain ⟨report, hreport⟩ := encodeFramed_ok.2 hselects
    refine ⟨report, hreport, ?_⟩
    rw [asBytes_encodeFramed hreport]
    rcases hdeclares with rfl | ⟨htransport, rfl⟩
    · exact .inl rfl
    · exact .inr ⟨htransport, rfl⟩
  · intro packet packet' transport transport' profile profile' d hd hd'
    obtain ⟨-, -, -, declared, -, rfl⟩ := decode_ok.1 hd
    obtain ⟨-, -, -, declared', -, rfl⟩ := decode_ok.1 hd'
    refine ⟨by rw [length_wire, length_wire], ?_⟩
    intro i hi
    match i, hi with
    | 0, _ => rfl
    | i + 2, _ => rfl

/-- Two stages of an empty profile 1. -/
def twoStages : DpiState :=
  ⟨.MIN_ID, [⟨800, DpiValue.range_800⟩, ⟨1600, DpiValue.range_1600⟩], ⟨2, StageIndex.two_range⟩, {}, DpiState.CAPTURED_EMPTY_PROFILE_TAIL⟩

/-- A readback of two stages over the receiver. -/
theorem dpi_codec_exact_twoStages : ∃ report, encodeFramed twoStages .full = .ok report ∧
    decode report.asBytes .receiver .MIN_ID = .ok ⟨twoStages, .receiver, .full⟩ :=
  dpi_codec_exact.1 twoStages .receiver .full (by decide) (by decide) (by decide) rfl

end AttackSharkX3
