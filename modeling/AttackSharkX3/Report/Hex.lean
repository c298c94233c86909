import AttackSharkX3.Protocol
/-!
# Hex — tokens and tails as text

A token and the tail of a DPI section stand in documents as hexadecimal text.  Both forms are one codec at two lengths: it
writes lowercase digits, and reads digits of either case off the bytes of the text.
-/
namespace AttackSharkX3

/-! ## The codec -/

/-- The bytes of a text, as `str::as_bytes` has them. -/
def asBytes (text : String) : List UInt8 := text.toUTF8.data.toList

/-- `std::str::from_utf8`. -/
def fromUtf8 (bytes : List UInt8) : Option String := String.fromUTF8? ⟨bytes.toArray⟩

/-- How reading a text may fail. -/
inductive HexError where
  | invalidLength (length : Nat) (expected : String)
  | custom (detail : String)
deriving DecidableEq

/-- `b"0123456789abcdef"`. -/
def HEX_CHARS : List UInt8 :=
  [0x30, 0x31, 0x32, 0x33, 0x34, 0x35, 0x36, 0x37, 0x38, 0x39, 0x61, 0x62, 0x63, 0x64, 0x65, 0x66]

def hexNibble (c : UInt8) : Except String UInt8 :=
  if 0x30 ≤ c ∧ c ≤ 0x39 then .ok (c - 0x30)
  else if 0x61 ≤ c ∧ c ≤ 0x66 then .ok (c - 0x61 + 10)
  else if 0x41 ≤ c ∧ c ≤ 0x46 then .ok (c - 0x41 + 10)
  else .error s!"invalid hex character: {Char.ofNat c.toNat}"

/-- The two digits of each byte, the high half first. -/
def hexBuffer (bytes : List UInt8) : List UInt8 :=
  bytes.flatMap fun byte : UInt8 => [HEX_CHARS.getD (byte >>> 4).toNat 0, HEX_CHARS.getD (byte &&& 0x0f).toNat 0]

/-- **The text of some bytes**; the conversion is asserted to succeed. -/
def hexSerialize (bytes : List UInt8) : Option String := fromUtf8 (hexBuffer bytes)

/-- The bytes two digits each stand for. -/
def hexPairs : List UInt8 → Except String (List UInt8)
  | hi :: lo :: rest => do
    let hi ← hexNibble hi
    let lo ← hexNibble lo
    return (hi <<< 4 ||| lo) :: (← hexPairs rest)
  | _ => .ok []

theorem length_hexPairs : ∀ {digits bytes : List UInt8}, hexPairs digits = .ok bytes → bytes.length = digits.length / 2
  | [], bytes, h | [_], bytes, h => by
    cases h
    simp
  | hi :: lo :: rest, bytes, h => by
    rw [hexPairs] at h
    cases hhi : hexNibble hi with
    | error e => simp [hhi, bind, Except.bind] at h
    | ok high =>
      cases hlo : hexNibble lo with
      | error e => simp [hhi, hlo, bind, Except.bind] at h
      | ok low =>
        cases hrest : hexPairs rest with
        | error e => simp [hhi, hlo, hrest, bind, Except.bind] at h
        | ok others =>
          simp [hhi, hlo, hrest, bind, Except.bind, pure, Except.pure] at h
          rw [← h, List.length_cons, length_hexPairs hrest, List.length_cons, List.length_cons]
          omega

/-- **Reads `n` bytes off a text** of exactly as many digits. -/
def hexDeserialize (n : Nat) (expected : String) (text : String) : Except HexError (Bytes n) :=
  if hlength : (asBytes text).length ≠ n * 2 then .error (.invalidLength (asBytes text).length expected)
  else match hbytes : hexPairs (asBytes text) with
    | .error e => .error (.custom e)
    | .ok bytes => .ok ⟨bytes, by rw [length_hexPairs hbytes, not_not.1 hlength, Nat.mul_div_cancel _ (by decide)]⟩

/-! ## The two forms -/

def PhysicalId.serialize (id : PhysicalId) : Option String := hexSerialize id.token.toList

def PhysicalId.deserialize (text : String) : Except HexError PhysicalId :=
  (hexDeserialize WATERMARK_TOKEN_LENGTH "32 hexadecimal characters" text).map PhysicalId.mk

/-- The tail of a DPI section, as `preserved_tail_hex` writes it. -/
def Tail.serialize (tail : Tail) : Option String := hexSerialize tail.toList

def Tail.deserialize (text : String) : Except HexError Tail := hexDeserialize 25 "50 hexadecimal characters" text

/-! ## Bytes of a text -/

theorem asBytes_ofList (chars : List Char) : asBytes (String.ofList chars) = chars.flatMap String.utf8EncodeChar := by
  show (String.ofList chars).toByteArray.data.toList = _
  rw [String.toByteArray_ofList, List.utf8Encode, List.toList_data_toByteArray]

theorem asBytes_eq (text : String) : asBytes text = text.toList.flatMap String.utf8EncodeChar := by
  rw [← asBytes_ofList, String.ofList_toList]

/-- A text is read back off its bytes. -/
theorem fromUtf8_asBytes (text : String) : fromUtf8 (asBytes text) = some text := by
  have hbytes : (⟨(asBytes text).toArray⟩ : ByteArray) = text.toByteArray := by simp [asBytes]
  rw [fromUtf8, hbytes, String.fromUTF8?, dif_pos text.isValidUTF8]
  rfl

theorem utf8EncodeChar_ascii {c : Char} (h : c.toNat < 128) : String.utf8EncodeChar c = [.ofNat c.toNat] := by
  have hle : c.val.toNat ≤ 0x7f := Nat.le_of_lt_succ h
  unfold String.utf8EncodeChar
  exact if_pos hle

/-- The bytes of another character are none of ASCII. -/
theorem utf8EncodeChar_high {c : Char} (h : 128 ≤ c.toNat) : ∀ b ∈ String.utf8EncodeChar c, 128 ≤ b.toNat := by
  have hnot : ¬ c.val.toNat ≤ 0x7f := by
    have hnat : c.val.toNat = c.toNat := rfl
    omega
  intro b hb
  unfold String.utf8EncodeChar at hb
  simp only [hnot, if_false] at hb
  split at hb
  · simp only [List.mem_cons, List.not_mem_nil, or_false] at hb
    rcases hb with rfl | rfl <;> simp only [UInt8.toNat_ofNat'] <;> omega
  split at hb
  · simp only [List.mem_cons, List.not_mem_nil, or_false] at hb
    rcases hb with rfl | rfl | rfl <;> simp only [UInt8.toNat_ofNat'] <;> omega
  · simp only [List.mem_cons, List.not_mem_nil, or_false] at hb
    rcases hb with rfl | rfl | rfl | rfl <;> simp only [UInt8.toNat_ofNat'] <;> omega

/-! ## Digits -/

/-- `char::is_ascii_hexdigit`. -/
def isAsciiHexdigit (c : Char) : Bool := ('0' ≤ c && c ≤ '9') || ('a' ≤ c && c ≤ 'f') || ('A' ≤ c && c ≤ 'F')

theorem toNat_of_hexdigit {c : Char} (h : isAsciiHexdigit c = true) : c.toNat < 128 := by
  have hcases : (48 ≤ c.toNat ∧ c.toNat ≤ 57) ∨ (97 ≤ c.toNat ∧ c.toNat ≤ 102) ∨ (65 ≤ c.toNat ∧ c.toNat ≤ 70) := by
    simpa [isAsciiHexdigit, Char.le_def, UInt32.le_iff_toNat_le, or_assoc] using h
  omega

/-- The digit, as `hexSerialize` writes it. -/
def lowered (c : Char) : UInt8 := .ofNat c.toLower.toNat

/-- **A digit has a value below 16**, and is the one that is written for it, but for its case. -/
theorem hexNibble_digit {c : Char} (h : isAsciiHexdigit c = true) : ∃ v, hexNibble (.ofNat c.toNat) = .ok v ∧
    v.toNat < 16 ∧ HEX_CHARS.getD v.toNat 0 = lowered c := by
  have hall : ∀ n < 128, isAsciiHexdigit (.ofNat n) = true → (hexNibble (.ofNat n)).toOption.any (fun v =>
      v.toNat < 16 ∧ HEX_CHARS.getD v.toNat 0 = lowered (.ofNat n)) = true := by decide
  have hc := hall c.toNat (toNat_of_hexdigit h)
  rw [Char.ofNat_toNat] at hc
  have hv := hc h
  cases hnibble : hexNibble (.ofNat c.toNat) with
  | error e =>
    rw [hnibble] at hv
    cases hv
  | ok v =>
    rw [hnibble] at hv
    exact ⟨v, rfl, of_decide_eq_true hv⟩

/-- A byte with a value is a digit's. -/
theorem hexdigit_of_nibble {b v : UInt8} (h : hexNibble b = .ok v) : b.toNat < 128 ∧ isAsciiHexdigit (.ofNat b.toNat) = true := by
  have hlt : b.toNat < 128 := by
    simp only [hexNibble, UInt8.le_iff_toNat_le] at h
    split at h
    · next hdigit =>
      have hle : b.toNat ≤ 0x39 := hdigit.2
      omega
    split at h
    · next hletter =>
      have hle : b.toNat ≤ 0x66 := hletter.2
      omega
    split at h
    · next hletter =>
      have hle : b.toNat ≤ 0x46 := hletter.2
      omega
    · cases h
  have hall : ∀ n < 128, (hexNibble (.ofNat n)).toOption.isSome = true → isAsciiHexdigit (.ofNat n) = true := by decide
  refine ⟨hlt, hall b.toNat hlt ?_⟩
  rw [UInt8.ofNat_toNat, h]
  rfl

/-- Sixteen high halves by sixteen low ones are all bytes. -/
theorem byte_halves {P : UInt8 → Prop} (h : ∀ high < 16, ∀ low < 16, P (.ofNat (high * 16 + low))) (b : UInt8) : P b := by
  have hhigh : b.toNat / 16 < 16 := (Nat.div_lt_iff_lt_mul (by decide)).2 b.toNat_lt
  have hb := h (b.toNat / 16) hhigh (b.toNat % 16) (Nat.mod_lt _ (by decide))
  rwa [Nat.div_add_mod', UInt8.ofNat_toNat] at hb

/-- **A byte is made of its halves again**, and each half has its digit. -/
theorem hexNibble_halves (b : UInt8) :
    hexNibble (HEX_CHARS.getD (b >>> 4).toNat 0) = .ok (b >>> 4) ∧
    hexNibble (HEX_CHARS.getD (b &&& 0x0f).toNat 0) = .ok (b &&& 0x0f) ∧ (b >>> 4) <<< 4 ||| (b &&& 0x0f) = b := by
  have hdigit : ∀ n < 16, (hexNibble (HEX_CHARS.getD n 0)).toOption = some (.ofNat n) := by decide
  have digit (v : UInt8) (hv : v.toNat < 16) : hexNibble (HEX_CHARS.getD v.toNat 0) = .ok v := by
    have hv' := hdigit v.toNat hv
    rw [UInt8.ofNat_toNat] at hv'
    cases hnibble : hexNibble (HEX_CHARS.getD v.toNat 0) with
    | error e =>
      rw [hnibble] at hv'
      cases hv'
    | ok w =>
      rw [hnibble] at hv'
      exact congrArg _ (Option.some.inj hv')
  have hhalves : (b >>> 4).toNat < 16 ∧ (b &&& 0x0f).toNat < 16 ∧ (b >>> 4) <<< 4 ||| (b &&& 0x0f) = b :=
    byte_halves (P := fun b => (b >>> 4).toNat < 16 ∧ (b &&& 0x0f).toNat < 16 ∧ (b >>> 4) <<< 4 ||| (b &&& 0x0f) = b)
      (by decide) b
  exact ⟨digit _ hhalves.1, digit _ hhalves.2.1, hhalves.2.2⟩

/-- Two halves are the halves of their byte. -/
theorem halves_joined {high low : UInt8} (hhigh : high.toNat < 16) (hlow : low.toNat < 16) :
    (high <<< 4 ||| low) >>> 4 = high ∧ (high <<< 4 ||| low) &&& 0x0f = low := by
  have hall : ∀ h < 16, ∀ l < 16, ((UInt8.ofNat h) <<< 4 ||| UInt8.ofNat l) >>> 4 = UInt8.ofNat h ∧
      ((UInt8.ofNat h) <<< 4 ||| UInt8.ofNat l) &&& 0x0f = UInt8.ofNat l := by decide
  have hboth := hall high.toNat hhigh low.toNat hlow
  rwa [UInt8.ofNat_toNat, UInt8.ofNat_toNat] at hboth

/-! ## Texts of digits -/

/-- The bytes of a text of digits. -/
theorem asBytes_digits {chars : List Char} (h : ∀ c ∈ chars, c.toNat < 128) :
    chars.flatMap String.utf8EncodeChar = chars.map fun c => UInt8.ofNat c.toNat := by
  induction chars with
  | nil => rfl
  | cons c rest ih =>
    rw [List.flatMap_cons, utf8EncodeChar_ascii (h c List.mem_cons_self), ih fun d hd => h d (List.mem_cons_of_mem _ hd)]
    rfl

/-- **Every byte has a value exactly if every character is a digit.** -/
theorem nibbles_iff (chars : List Char) : (∀ b ∈ chars.flatMap String.utf8EncodeChar, ∃ v, hexNibble b = .ok v) ↔
    ∀ c ∈ chars, isAsciiHexdigit c = true := by
  constructor
  · intro h c hc
    have hlt : c.toNat < 128 := by
      by_contra hhigh
      obtain ⟨b, hb⟩ := List.exists_mem_of_ne_nil _ (String.utf8EncodeChar_ne_nil (c := c))
      obtain ⟨v, hv⟩ := h b (List.mem_flatMap.2 ⟨c, hc, hb⟩)
      have hge := utf8EncodeChar_high (Nat.le_of_not_lt hhigh) b hb
      have hlow := (hexdigit_of_nibble hv).1
      omega
    obtain ⟨v, hv⟩ := h (.ofNat c.toNat) (List.mem_flatMap.2 ⟨c, hc, by rw [utf8EncodeChar_ascii hlt]; exact List.mem_singleton_self _⟩)
    have hdigit := (hexdigit_of_nibble hv).2
    have hnat : (UInt8.ofNat c.toNat).toNat = c.toNat := by
      rw [UInt8.toNat_ofNat']
      exact Nat.mod_eq_of_lt (by omega)
    rwa [hnat, Char.ofNat_toNat] at hdigit
  · intro h b hb
    obtain ⟨c, hc, hb⟩ := List.mem_flatMap.1 hb
    rw [utf8EncodeChar_ascii (toNat_of_hexdigit (h c hc)), List.mem_singleton] at hb
    obtain ⟨v, hv, -⟩ := hexNibble_digit (h c hc)
    exact ⟨v, hb ▸ hv⟩

/-- The digits are read, if each has a value. -/
theorem hexPairs_ok_iff : ∀ {digits : List UInt8}, digits.length % 2 = 0 →
    ((∃ bytes, hexPairs digits = .ok bytes) ↔ ∀ b ∈ digits, ∃ v, hexNibble b = .ok v)
  | [], _ => by simp [hexPairs]
  | [_], heven => by simp at heven
  | hi :: lo :: rest, heven => by
    have hrest : rest.length % 2 = 0 := by
      rw [List.length_cons, List.length_cons] at heven
      omega
    have ih := hexPairs_ok_iff hrest
    rw [hexPairs]
    simp only [List.mem_cons, forall_eq_or_imp]
    rw [← ih]
    cases hexNibble hi with
    | error e => simp [bind, Except.bind]
    | ok high =>
      cases hexNibble lo with
      | error e => simp [bind, Except.bind]
      | ok low =>
        cases hexPairs rest with
        | error e => simp [bind, Except.bind]
        | ok bytes => simp [bind, Except.bind, pure, Except.pure]

/-- **What is written is read back.** -/
theorem hexPairs_hexBuffer : ∀ bytes : List UInt8, hexPairs (hexBuffer bytes) = .ok bytes
  | [] => rfl
  | b :: rest => by
    obtain ⟨hhigh, hlow, hjoined⟩ := hexNibble_halves b
    have hcons : hexBuffer (b :: rest) =
        HEX_CHARS.getD (b >>> 4).toNat 0 :: HEX_CHARS.getD (b &&& 0x0f).toNat 0 :: hexBuffer rest := rfl
    rw [hcons, hexPairs, hhigh, hlow, hexPairs_hexBuffer rest]
    simp only [bind, Except.bind, pure, Except.pure, hjoined]

/-- **What is read is written again** in lowercase. -/
theorem hexBuffer_hexPairs : ∀ {chars : List Char} {bytes : List UInt8}, chars.length % 2 = 0 →
    (∀ c ∈ chars, isAsciiHexdigit c = true) → hexPairs (chars.map fun c => UInt8.ofNat c.toNat) = .ok bytes →
    hexBuffer bytes = chars.map lowered
  | [], bytes, _, _, h => by
    cases h
    rfl
  | [_], _, heven, _, _ => by simp at heven
  | c :: d :: rest, bytes, heven, hdigits, h => by
    obtain ⟨high, hhigh, hhlt, hhc⟩ := hexNibble_digit (hdigits c List.mem_cons_self)
    obtain ⟨low, hlow, hllt, hld⟩ := hexNibble_digit (hdigits d (List.mem_cons_of_mem _ List.mem_cons_self))
    rw [List.map_cons, List.map_cons, hexPairs, hhigh, hlow] at h
    cases hrest : hexPairs (rest.map fun c => UInt8.ofNat c.toNat) with
    | error e => simp [hrest, bind, Except.bind] at h
    | ok others =>
      simp only [hrest, bind, Except.bind, pure, Except.pure, Except.ok.injEq] at h
      have hothers : hexBuffer others = rest.map lowered := by
        refine hexBuffer_hexPairs ?_ (fun c hc => hdigits c (List.mem_cons_of_mem _ (List.mem_cons_of_mem _ hc))) hrest
        rw [List.length_cons, List.length_cons] at heven
        omega
      obtain ⟨hhi, hlo⟩ := halves_joined hhlt hllt
      subst h
      show HEX_CHARS.getD ((high <<< 4 ||| low) >>> 4).toNat 0 :: HEX_CHARS.getD ((high <<< 4 ||| low) &&& 0x0f).toNat 0 ::
        hexBuffer others = _
      rw [hhi, hlo, hhc, hld, hothers]
      rfl

/-! ## The codec on texts -/

variable {n : Nat} {expected text : String}

theorem hexDeserialize_ok {bytes : Bytes n} : hexDeserialize n expected text = .ok bytes ↔
    (asBytes text).length = n * 2 ∧ hexPairs (asBytes text) = .ok bytes.toList := by
  unfold hexDeserialize
  split
  · next hlength => simp [hlength]
  · next hlength =>
    split
    · next e hbytes => simp [hbytes]
    · next read hbytes =>
      constructor
      · rintro ⟨⟩
        exact ⟨not_not.1 hlength, hbytes⟩
      · rintro ⟨-, heq⟩
        obtain ⟨list, hlist⟩ := bytes
        obtain rfl : read = list := Except.ok.inj (hbytes.symm.trans heq)
        rfl

/-- **A text is accepted** exactly if it is so many digits. -/
theorem hexDeserialize_accepts : (∃ bytes, hexDeserialize n expected text = .ok bytes) ↔
    text.toList.length = n * 2 ∧ ∀ c ∈ text.toList, isAsciiHexdigit c = true := by
  have hdigits (h : ∀ c ∈ text.toList, isAsciiHexdigit c = true) : (asBytes text).length = text.toList.length := by
    rw [asBytes_eq, asBytes_digits fun c hc => toNat_of_hexdigit (h c hc), List.length_map]
  constructor
  · rintro ⟨bytes, hbytes⟩
    obtain ⟨hlength, hread⟩ := hexDeserialize_ok.1 hbytes
    have hall := (hexPairs_ok_iff (by omega)).1 ⟨_, hread⟩
    rw [asBytes_eq] at hall
    have hchars := (nibbles_iff _).1 hall
    exact ⟨(hdigits hchars).symm.trans hlength, hchars⟩
  · rintro ⟨hlength, hchars⟩
    have hlength' : (asBytes text).length = n * 2 := (hdigits hchars).trans hlength
    have hall := (nibbles_iff _).2 hchars
    rw [← asBytes_eq] at hall
    obtain ⟨bytes, hbytes⟩ := (hexPairs_ok_iff (by omega)).2 hall
    have hcount : bytes.length = n := by
      rw [length_hexPairs hbytes, hlength', Nat.mul_div_cancel _ (by decide)]
    exact ⟨⟨bytes, hcount⟩, hexDeserialize_ok.2 ⟨hlength', hbytes⟩⟩

theorem length_hexBuffer (bytes : List UInt8) : (hexBuffer bytes).length = bytes.length * 2 := by
  induction bytes with
  | nil => rfl
  | cons b rest ih =>
    show (hexBuffer rest).length + 2 = _
    rw [ih, List.length_cons, Nat.succ_mul]

/-- What is written is a text of its bytes. -/
theorem hexSerialize_text (bytes : List UInt8) : ∃ text, hexSerialize bytes = some text ∧ asBytes text = hexBuffer bytes := by
  have hascii (b : UInt8) (hb : b ∈ hexBuffer bytes) : b.toNat < 128 := by
    have heven : (hexBuffer bytes).length % 2 = 0 := by rw [length_hexBuffer, Nat.mul_mod_left]
    obtain ⟨v, hv⟩ := (hexPairs_ok_iff heven).1 ⟨bytes, hexPairs_hexBuffer bytes⟩ b hb
    exact (hexdigit_of_nibble hv).1
  have hchar (b : UInt8) (hb : b ∈ hexBuffer bytes) : (Char.ofNat b.toNat).toNat = b.toNat := by
    have hall : ∀ n < 128, (Char.ofNat n).toNat = n := by decide
    exact hall b.toNat (hascii b hb)
  have hbytes : asBytes (String.ofList ((hexBuffer bytes).map fun b => Char.ofNat b.toNat)) = hexBuffer bytes := by
    rw [asBytes_ofList, asBytes_digits, List.map_map]
    · refine (List.map_congr_left fun b hb => ?_).trans (List.map_id _)
      rw [Function.comp_apply, hchar b hb, UInt8.ofNat_toNat, id]
    · intro c hc
      obtain ⟨b, hb, rfl⟩ := List.mem_map.1 hc
      rw [hchar b hb]
      exact hascii b hb
  exact ⟨_, (congrArg fromUtf8 hbytes.symm).trans (fromUtf8_asBytes _), hbytes⟩

/-- **The bytes that are written are read back.** -/
theorem hexDeserialize_hexSerialize (expected : String) (bytes : Bytes n) : ∃ text, hexSerialize bytes.toList = some text ∧
    hexDeserialize n expected text = .ok bytes := by
  obtain ⟨text, htext, hbytes⟩ := hexSerialize_text bytes.toList
  refine ⟨text, htext, hexDeserialize_ok.2 ⟨?_, ?_⟩⟩
  · rw [hbytes, length_hexBuffer, bytes.length_eq]
  · rw [hbytes, hexPairs_hexBuffer]

/-- **An accepted text is written again** in lowercase. -/
theorem hexSerialize_hexDeserialize {bytes : Bytes n} (h : hexDeserialize n expected text = .ok bytes) :
    hexSerialize bytes.toList = some text.toLower := by
  obtain ⟨hlength, hdigits⟩ := hexDeserialize_accepts.1 ⟨bytes, h⟩
  obtain ⟨-, hread⟩ := hexDeserialize_ok.1 h
  rw [asBytes_eq, asBytes_digits fun c hc => toNat_of_hexdigit (hdigits c hc)] at hread
  have hlower : asBytes text.toLower = hexBuffer bytes.toList := by
    rw [hexBuffer_hexPairs (by omega) hdigits hread, asBytes_eq,
      show text.toLower = text.map Char.toLower from rfl, String.toList_map, asBytes_digits,
      List.map_map]
    · rfl
    · intro c hc
      obtain ⟨d, hd, rfl⟩ := List.mem_map.1 hc
      have hall : ∀ n < 128, (Char.ofNat n).toLower.toNat < 128 := by decide
      have hd := hall d.toNat (toNat_of_hexdigit (hdigits d hd))
      rwa [Char.ofNat_toNat] at hd
  rw [hexSerialize, ← hlower, fromUtf8_asBytes]

/-- **Two accepted texts stand for the same bytes** exactly if they are equal but for case. -/
theorem hexDeserialize_eq_iff {text' : String} {bytes bytes' : Bytes n} (h : hexDeserialize n expected text = .ok bytes)
    (h' : hexDeserialize n expected text' = .ok bytes') : bytes = bytes' ↔ text.toLower = text'.toLower := by
  have hwritten := hexSerialize_hexDeserialize h
  have hwritten' := hexSerialize_hexDeserialize h'
  constructor
  · rintro rfl
    exact Option.some.inj (hwritten.symm.trans hwritten')
  · intro hlower
    obtain ⟨read, hread, hbytes⟩ := hexDeserialize_hexSerialize expected bytes
    obtain ⟨read', hread', hbytes'⟩ := hexDeserialize_hexSerialize expected bytes'
    obtain rfl : read = text.toLower := Option.some.inj (hread.symm.trans hwritten)
    obtain rfl : read' = text'.toLower := Option.some.inj (hread'.symm.trans hwritten')
    rw [hlower, hbytes'] at hbytes
    exact (Except.ok.inj hbytes).symm

/-! ## Tokens and tails -/

/-- **Hexadecimal forms are exact**: tokens and tails are read back as they are written, the accepted texts are those of
exactly 32 or 50 digits in either case, and two of them stand for the same bytes exactly if they are equal but for case. -/
theorem hex_forms_exact :
    ((∀ id : PhysicalId, ∃ text, id.serialize = some text ∧ PhysicalId.deserialize text = .ok id) ∧
      (∀ text, (∃ id, PhysicalId.deserialize text = .ok id) ↔
        text.toList.length = 32 ∧ ∀ c ∈ text.toList, isAsciiHexdigit c = true) ∧
      ∀ text text' id id', PhysicalId.deserialize text = .ok id → PhysicalId.deserialize text' = .ok id' →
        (id = id' ↔ text.toLower = text'.toLower)) ∧
    ((∀ tail : Tail, ∃ text, Tail.serialize tail = some text ∧ Tail.deserialize text = .ok tail) ∧
      (∀ text, (∃ tail, Tail.deserialize text = .ok tail) ↔
        text.toList.length = 50 ∧ ∀ c ∈ text.toList, isAsciiHexdigit c = true) ∧
      ∀ text text' tail tail', Tail.deserialize text = .ok tail → Tail.deserialize text' = .ok tail' →
        (tail = tail' ↔ text.toLower = text'.toLower)) := by
  have token {text : String} {id : PhysicalId} : PhysicalId.deserialize text = .ok id ↔
      hexDeserialize WATERMARK_TOKEN_LENGTH "32 hexadecimal characters" text = .ok id.token := by
    unfold PhysicalId.deserialize
    cases hexDeserialize WATERMARK_TOKEN_LENGTH "32 hexadecimal characters" text with
    | error e => exact ⟨nofun, nofun⟩
    | ok bytes =>
      constructor
      · rintro ⟨⟩
        rfl
      · rintro ⟨⟩
        rfl
  refine ⟨⟨fun id => ?_, fun text => ?_, fun text text' id id' h h' => ?_⟩,
    hexDeserialize_hexSerialize "50 hexadecimal characters", fun text => hexDeserialize_accepts,
    fun text text' tail tail' h h' => hexDeserialize_eq_iff h h'⟩
  · obtain ⟨text, htext, hbytes⟩ := hexDeserialize_hexSerialize "32 hexadecimal characters" id.token
    exact ⟨text, htext, token.2 hbytes⟩
  · refine Iff.trans ?_ (@hexDeserialize_accepts WATERMARK_TOKEN_LENGTH "32 hexadecimal characters" text)
    exact ⟨fun ⟨id, hid⟩ => ⟨id.token, token.1 hid⟩, fun ⟨bytes, hbytes⟩ => ⟨⟨bytes⟩, token.2 hbytes⟩⟩
  · rw [← hexDeserialize_eq_iff (token.1 h) (token.1 h')]
    exact ⟨congrArg PhysicalId.token, fun heq => congrArg PhysicalId.mk heq⟩

end AttackSharkX3
