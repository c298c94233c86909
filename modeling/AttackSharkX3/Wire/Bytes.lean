import Mathlib.Data.List.Basic
import Mathlib.Data.Nat.Bitwise
/-!
# Bytes — packets as lists of bytes

A decoder reads a packet by offsets and slices, once its length is known; an encoder appends fields.  The rules here say
what an offset reads of appended fields, and that the slices between increasing offsets make up the packet.
-/
namespace Wire

/-- The byte at an offset. -/
def byte (packet : List UInt8) (offset : Nat) : UInt8 := packet.getD offset 0

/-- The bytes of `start..stop`. -/
def slice (packet : List UInt8) (start stop : Nat) : List UInt8 := (packet.drop start).take (stop - start)

section Reading

variable {a b packet : List UInt8} {i j k n : Nat}

theorem byte_append_left (h : i < a.length) : byte (a ++ b) i = byte a i := by
  unfold byte
  rw [List.getD_eq_getElem?_getD, List.getD_eq_getElem?_getD, List.getElem?_append_left h]

theorem byte_append_right (h : a.length ≤ i) : byte (a ++ b) i = byte b (i - a.length) := by
  unfold byte
  rw [List.getD_eq_getElem?_getD, List.getD_eq_getElem?_getD, List.getElem?_append_right h]

theorem byte_map_range {f : Nat → UInt8} (h : i < n) : byte ((List.range n).map f) i = f i := by
  simp [byte, h]

theorem byte_slice (h : k < j - i) : byte (slice packet i j) k = byte packet (i + k) := by
  simp [byte, slice, h, List.getElem?_drop]

theorem length_slice (h : j ≤ packet.length) : (slice packet i j).length = j - i := by
  unfold slice
  rw [List.length_take, List.length_drop]
  omega

theorem slice_self : slice packet 0 packet.length = packet := by
  simp [slice]

/-- **Slices that meet join.** -/
theorem slice_append (hij : i ≤ j) (hjk : j ≤ k) : slice packet i j ++ slice packet j k = slice packet i k := by
  unfold slice
  have hk : k - i = (j - i) + (k - j) := by omega
  have hj : j = i + (j - i) := by omega
  rw [hk, List.take_add, List.drop_drop, ← hj]

theorem slice_eq_map (h : i + n ≤ packet.length) :
    slice packet i (i + n) = (List.range n).map fun k => byte packet (i + k) := by
  have hlength : (slice packet i (i + n)).length = n := by
    rw [length_slice h]
    omega
  apply List.ext_getElem (by simpa using hlength)
  intro k hk _
  have hkn : k < n := hlength ▸ hk
  have hread : byte (slice packet i (i + n)) k = byte packet (i + k) := byte_slice (by omega)
  rw [byte, List.getD_eq_getElem _ _ hk] at hread
  simpa using hread

/-- Packets of one length with the same bytes are equal. -/
theorem ext_byte (hlength : a.length = b.length) (h : ∀ i < a.length, byte a i = byte b i) : a = b := by
  apply List.ext_getElem hlength
  intro i hi hi'
  have hbyte := h i hi
  rwa [byte, byte, List.getD_eq_getElem _ _ hi, List.getD_eq_getElem _ _ hi'] at hbyte

theorem slice_append_left (h : j ≤ a.length) : slice (a ++ b) i j = slice a i j := by
  unfold slice
  by_cases hij : i ≤ a.length
  · rw [List.drop_append_of_le_length hij, List.take_append_of_le_length]
    rw [List.length_drop]
    omega
  · have hzero : j - i = 0 := by omega
    rw [hzero, List.take_zero, List.take_zero]

theorem slice_append_right (h : a.length ≤ i) : slice (a ++ b) i j = slice b (i - a.length) (j - a.length) := by
  unfold slice
  have hj : j - a.length - (i - a.length) = j - i := by omega
  rw [hj, List.drop_append, List.drop_eq_nil_of_le h, List.nil_append]

end Reading

/-! ## Sixteen-bit words -/

/-- The wrapping sum of the bytes. -/
def sum16 (bytes : List UInt8) : UInt16 := bytes.foldl (fun sum byte => sum + byte.toUInt16) 0

def lowByte (word : UInt16) : UInt8 := word.toUInt8
def highByte (word : UInt16) : UInt8 := (word >>> 8).toUInt8

/-- A word of its two bytes. -/
def word (high low : UInt8) : UInt16 := low.toUInt16 ||| (high.toUInt16 <<< 8)

theorem toNat_word (high low : UInt8) : (word high low).toNat = low.toNat + 256 * high.toNat := by
  have hlow := low.toNat_lt
  have hhigh := high.toNat_lt
  have hshift : high.toNat <<< 8 = 256 * high.toNat := by
    rw [Nat.shiftLeft_eq]
    omega
  have hor : low.toNat ||| high.toNat <<< 8 = high.toNat <<< 8 + low.toNat := by
    rw [Nat.lor_comm, Nat.shiftLeft_add_eq_or_of_lt (by simpa using hlow)]
  unfold word
  rw [UInt16.toNat_or, UInt16.toNat_shiftLeft]
  simp only [UInt8.toNat_toUInt16]
  have h8 : (8 : UInt16).toNat % 16 = 8 := rfl
  rw [h8, Nat.mod_eq_of_lt (by omega), hor, hshift]
  omega

theorem toNat_lowByte (w : UInt16) : (lowByte w).toNat = w.toNat % 256 := by
  simp [lowByte]

theorem toNat_highByte (w : UInt16) : (highByte w).toNat = w.toNat / 256 := by
  have hw := w.toNat_lt
  simp [highByte, UInt16.toNat_shiftRight, Nat.shiftRight_eq_div_pow]
  omega

@[simp] theorem word_bytes (w : UInt16) : word (highByte w) (lowByte w) = w := by
  apply UInt16.toNat.inj
  rw [toNat_word, toNat_lowByte, toNat_highByte]
  omega

@[simp] theorem lowByte_word (high low : UInt8) : lowByte (word high low) = low := by
  apply UInt8.toNat.inj
  have hlow := low.toNat_lt
  rw [toNat_lowByte, toNat_word]
  omega

@[simp] theorem highByte_word (high low : UInt8) : highByte (word high low) = high := by
  apply UInt8.toNat.inj
  have hlow := low.toNat_lt
  rw [toNat_highByte, toNat_word]
  omega

theorem word_eq {high low : UInt8} {w : UInt16} : word high low = w ↔ high = highByte w ∧ low = lowByte w := by
  constructor
  · rintro rfl
    simp
  · rintro ⟨rfl, rfl⟩
    simp

/-! ## Checks -/

section Checks

variable {E α β : Type}

/-- Fails with `e` unless `c`. -/
def expect (c : Prop) [Decidable c] (e : E) : Except E Unit := if c then .ok () else .error e

@[simp] theorem expect_ok {c : Prop} [Decidable c] {e : E} : expect c e = .ok () ↔ c := by
  unfold expect
  split <;> simp_all

/-- A decoder succeeds when each of its steps does. -/
theorem bind_ok {x : Except E α} {f : α → Except E β} {b : β} : (x >>= f) = .ok b ↔ ∃ a, x = .ok a ∧ f a = .ok b := by
  cases x with
  | error e => exact ⟨fun h => (nomatch h), fun ⟨_, h, _⟩ => (nomatch h)⟩
  | ok a =>
    constructor
    · intro h
      exact ⟨a, rfl, h⟩
    · rintro ⟨_, ⟨⟩, h⟩
      exact h

theorem expect_bind_ok {c : Prop} [Decidable c] {e : E} {f : Unit → Except E β} {b : β} :
    (expect c e >>= f) = .ok b ↔ c ∧ f () = .ok b := by
  unfold expect
  by_cases hc : c
  · rw [if_pos hc]
    exact ⟨fun h => ⟨hc, h⟩, fun h => h.2⟩
  · rw [if_neg hc]
    exact ⟨fun h => (nomatch h), fun h => (hc h.1).elim⟩

end Checks
end Wire
