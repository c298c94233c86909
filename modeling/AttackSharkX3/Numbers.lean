import AttackSharkX3.Device
/-!
# Numbers — the number of a key

A key is `mouse-N` for one number `N`, written in decimal without leading zeros, and every number from 1 that fits in 64
bits has its key.
-/
namespace AttackSharkX3

/-! ## Decimal digits -/

theorem decimalDigit_of_isDigit {c : Char} (h : c.isDigit = true) : decimalDigit c = some (c.toNat - '0'.toNat) := by
  obtain ⟨hlow, hhigh⟩ : '0' ≤ c ∧ c ≤ '9' := by
    simpa [Char.isDigit, Char.le_def] using h
  rw [decimalDigit, if_pos ⟨hlow, hhigh⟩]

theorem foldl_decimalDigit : ∀ (digits : List Char) (n : Nat), (∀ c ∈ digits, c.isDigit = true) →
    digits.foldl (fun acc c => do return (← acc) * 10 + (← decimalDigit c)) (some n) = some (Nat.ofDigitChars 10 digits n)
  | [], n, _ => by simp
  | c :: digits, n, h => by
    have hc := decimalDigit_of_isDigit (h c List.mem_cons_self)
    have hrest := foldl_decimalDigit digits (n * 10 + (c.toNat - '0'.toNat)) fun c hc => h c (List.mem_cons_of_mem _ hc)
    rw [List.foldl_cons, Nat.ofDigitChars_cons, Nat.mul_comm 10 n]
    simp only [hc]
    exact hrest

/-- A number is read back off its digits. -/
theorem parseDecimal_toDigits (n : Nat) : parseDecimal (Nat.toDigits 10 n) = some n := by
  have hne : (Nat.toDigits 10 n).isEmpty = false := List.isEmpty_eq_false_iff.2 Nat.toDigits_ne_nil
  have hdigits : ∀ c ∈ Nat.toDigits 10 n, c.isDigit = true := fun c hc =>
    Nat.isDigit_of_mem_toDigits (by decide) (by decide) hc
  rw [parseDecimal, hne, if_neg (by decide), foldl_decimalDigit _ _ hdigits, Nat.ofDigitChars_ten_toDigits]

/-- A positive number has no leading zero. -/
theorem toDigits_head {n : Nat} (h : 0 < n) : (Nat.toDigits 10 n).head? ≠ some '0' := by
  induction n using Nat.strongRecOn with
  | ind n ih =>
    by_cases hlt : n < 10
    · rw [Nat.toDigits_of_lt_base hlt, List.head?_cons]
      intro heq
      have hzero := Nat.toNat_digitChar_sub_48_of_lt_ten hlt
      rw [Option.some.inj heq] at hzero
      simp at hzero
      omega
    · have hge : 10 ≤ n := Nat.le_of_not_lt hlt
      have hhead := ih (n / 10) (Nat.div_lt_self h (by decide)) (Nat.div_pos hge (by decide))
      obtain ⟨c, cs, hcs⟩ := List.exists_cons_of_ne_nil (Nat.toDigits_ne_nil (n := n / 10) (b := 10))
      rw [hcs] at hhead
      rw [Nat.toDigits_of_base_le (by decide) hge, hcs]
      exact hhead

/-! ## Keys -/

namespace DeviceId

theorem toList_key (n : Nat) : s!"mouse-{n}".toList = "mouse-".toList ++ Nat.toDigits 10 n := by
  show ("mouse-" ++ toString n).toList = _
  rw [String.toList_append, Nat.toString_eq_repr, Nat.toList_repr]

/-- The number of a key is read off it. -/
theorem parseLogicalNumber_key {n : Nat} (hpos : 0 < n) (hlt : n < 2 ^ 64) : parseLogicalNumber s!"mouse-{n}" = some n := by
  have htake : s!"mouse-{n}".toList.take 6 = "mouse-".toList := by
    rw [toList_key]
    exact List.take_left' rfl
  have hdrop : s!"mouse-{n}".toList.drop 6 = Nat.toDigits 10 n := by
    rw [toList_key]
    exact List.drop_left' rfl
  have hzeros : ¬ (1 < (Nat.toDigits 10 n).length ∧ (Nat.toDigits 10 n).head? = some '0') := fun h => toDigits_head hpos h.2
  rw [parseLogicalNumber, htake, hdrop, if_neg (not_not.2 rfl)]
  dsimp only
  rw [if_neg hzeros, parseDecimal_toDigits, Option.filter_some, if_pos]
  exact decide_eq_true ⟨Nat.pos_iff_ne_zero.1 hpos, hlt⟩

theorem isWhitespace_of_isDigit {c : Char} (h : c.isDigit = true) : isWhitespace c = false := by
  obtain ⟨hlow, hhigh⟩ : 48 ≤ c.toNat ∧ c.toNat ≤ 57 := by
    simpa [Char.isDigit, Char.le_def, UInt32.le_iff_toNat_le] using h
  simp [isWhitespace]
  omega

/-- A key has no whitespace at either end. -/
theorem trim_key (n : Nat) : trim s!"mouse-{n}" = s!"mouse-{n}" := by
  obtain ⟨digits, last, hdigits⟩ := List.eq_nil_or_concat (Nat.toDigits 10 n) |>.resolve_left Nat.toDigits_ne_nil
  have hlast : isWhitespace last = false := isWhitespace_of_isDigit <|
    Nat.isDigit_of_mem_toDigits (b := 10) (n := n) (by decide) (by decide) (by simp [hdigits])
  have hkey : s!"mouse-{n}".toList = 'm' :: ("ouse-".toList ++ digits ++ [last]) := by
    rw [toList_key, hdigits]
    simp
  have hm : isWhitespace 'm' = false := by decide
  rw [trim, hkey, List.dropWhile_cons_of_neg (by simp [hm]), ← List.cons_append, List.reverse_append, List.reverse_singleton,
    List.singleton_append, List.dropWhile_cons_of_neg (by simp [hlast]), List.reverse_cons, List.reverse_reverse,
    List.cons_append, ← hkey, String.ofList_toList]

theorem validateLogicalId_key {n : Nat} (hpos : 0 < n) (hlt : n < 2 ^ 64) : validateLogicalId s!"mouse-{n}" = .ok () := by
  have hblank : isBlank s!"mouse-{n}" = false := by
    rw [isBlank, toList_key]
    rfl
  rw [validateLogicalId, hblank, trim_key, parseLogicalNumber_key hpos hlt]
  simp [Nat.pos_iff_ne_zero.1 hpos]

theorem new_asStr {value : String} {id : DeviceId} (h : new value = .ok id) : id.asStr = value := by
  unfold new at h
  split at h
  · cases h
    rfl
  · cases h

theorem new_of_asStr (id : DeviceId) : new id.asStr = .ok id := by
  unfold new
  split
  · rfl
  · next e he =>
    rw [id.valid] at he
    cases he

/-- **Every number from 1 that fits in 64 bits has its key.** -/
theorem fromNumber_ok {n : Nat} (hpos : 0 < n) (hlt : n < 2 ^ 64) : ∃ id, fromNumber n = .ok id ∧ id.number = some n := by
  have hvalid := validateLogicalId_key hpos hlt
  have hnew : new s!"mouse-{n}" = .ok ⟨s!"mouse-{n}", hvalid⟩ := by
    unfold new
    split
    · rfl
    · next e he =>
      rw [hvalid] at he
      cases he
  refine ⟨⟨_, hvalid⟩, ?_, parseLogicalNumber_key hpos hlt⟩
  rw [fromNumber, if_neg (Nat.pos_iff_ne_zero.1 hpos), hnew]

/-- A key is written as its number is. -/
theorem number_key (id : DeviceId) : ∃ n, id.number = some n ∧ id.asStr = s!"mouse-{n}" := by
  have hvalid := id.valid
  unfold validateLogicalId at hvalid
  split at hvalid
  · cases hvalid
  split at hvalid
  · cases hvalid
  split at hvalid
  · next number hnumber =>
    split at hvalid
    · cases hvalid
    · next hkey => exact ⟨number, hnumber, (not_not.1 hkey).symm⟩
  · cases hvalid

/-- **A key has the number it was made of.** -/
theorem number_fromNumber {n : Nat} {id : DeviceId} (h : fromNumber n = .ok id) : id.number = some n := by
  obtain ⟨number, hnumber, hkey⟩ := number_key id
  unfold fromNumber at h
  split at h
  · cases h
  rw [new_asStr h] at hkey
  have hdigits : Nat.toDigits 10 n = Nat.toDigits 10 number := by
    have hlists := congrArg String.toList hkey
    rw [toList_key, toList_key] at hlists
    exact List.append_cancel_left hlists
  have hsame : n = number := by
    rw [← Nat.ofDigitChars_ten_toDigits (n := n), hdigits, Nat.ofDigitChars_ten_toDigits]
  rw [hnumber, hsame]

/-- Different numbers name different mice. -/
theorem fromNumber_inj {a b : Nat} {id : DeviceId} (ha : fromNumber a = .ok id) (hb : fromNumber b = .ok id) : a = b := by
  have hnumber := (number_fromNumber ha).symm.trans (number_fromNumber hb)
  exact Option.some.inj hnumber

/-- A key is one that is written so. -/
theorem of_new {value : String} {id : DeviceId} (h : new value = .ok id) : ∃ n, 1 ≤ n ∧ n < 2 ^ 64 ∧ value = "mouse-" ++ n.repr := by
  obtain ⟨n, hnumber, hkey⟩ := number_key id
  have hrange : n ≠ 0 ∧ n < 2 ^ 64 := by
    unfold number parseLogicalNumber at hnumber
    split at hnumber
    · cases hnumber
    dsimp only at hnumber
    split at hnumber
    · cases hnumber
    exact of_decide_eq_true (Option.filter_eq_some_iff.1 hnumber).2
  refine ⟨n, Nat.pos_of_ne_zero hrange.1, hrange.2, ?_⟩
  rw [← new_asStr h, hkey]
  rfl

/-- A key is made of its number again. -/
theorem fromNumber_number {n : Nat} {id : DeviceId} (h : id.number = some n) : fromNumber n = .ok id := by
  obtain ⟨number, hnumber, hkey⟩ := number_key id
  obtain rfl : number = n := Option.some.inj (hnumber.symm.trans h)
  obtain ⟨k, hpos, -, hvalue⟩ := of_new (new_of_asStr id)
  have hsame : k = number := by
    have hk : s!"mouse-{k}".toList = s!"mouse-{number}".toList := congrArg String.toList (hvalue.symm.trans hkey)
    rw [toList_key, toList_key] at hk
    rw [← Nat.ofDigitChars_ten_toDigits (n := k), List.append_cancel_left hk, Nat.ofDigitChars_ten_toDigits]
  rw [fromNumber, if_neg (by omega), ← hkey, new_of_asStr]

/-! ## Keys in documents -/

def serialize (id : DeviceId) : String := id.asStr

def deserialize (value : String) : Except StateError DeviceId := new value

end DeviceId

/-- **Keys are canonical**: the accepted texts are those of the numbers from 1 that fit in 64 bits, each number has one key
and each key one number, and a key is read back as it is written. -/
theorem keys_canonical :
    (∀ value, (∃ id, DeviceId.new value = .ok id) ↔ ∃ n : Nat, 1 ≤ n ∧ n < 2 ^ 64 ∧ value = "mouse-" ++ n.repr) ∧
    (∀ value id, DeviceId.new value = .ok id → id.asStr = value ∧
      ∃ n, id.number = some n ∧ DeviceId.fromNumber n = .ok id) ∧
    (∀ n id, DeviceId.fromNumber n = .ok id → id.number = some n) ∧
    (∀ value value' id id', DeviceId.new value = .ok id → DeviceId.new value' = .ok id' → id.number = id'.number →
      value = value') ∧
    ∀ id : DeviceId, DeviceId.deserialize id.serialize = .ok id := by
  refine ⟨fun value => ⟨?_, ?_⟩, fun value id h => ⟨DeviceId.new_asStr h, ?_⟩, fun n id => DeviceId.number_fromNumber, ?_,
    DeviceId.new_of_asStr⟩
  · rintro ⟨id, h⟩
    exact DeviceId.of_new h
  · rintro ⟨n, hpos, hlt, rfl⟩
    obtain ⟨id, hid, -⟩ := DeviceId.fromNumber_ok hpos hlt
    rw [DeviceId.fromNumber, if_neg (by omega)] at hid
    exact ⟨id, hid⟩
  · obtain ⟨n, hnumber, -⟩ := DeviceId.number_key id
    exact ⟨n, hnumber, DeviceId.fromNumber_number hnumber⟩
  · intro value value' id id' h h' hsame
    obtain ⟨n, hnumber, hkey⟩ := DeviceId.number_key id
    obtain ⟨n', hnumber', hkey'⟩ := DeviceId.number_key id'
    obtain rfl : n = n' := Option.some.inj (hnumber.symm.trans (hsame.trans hnumber'))
    rw [← DeviceId.new_asStr h, ← DeviceId.new_asStr h', hkey, hkey']

end AttackSharkX3
