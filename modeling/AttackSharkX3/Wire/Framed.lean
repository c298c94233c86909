import AttackSharkX3.Wire.Bytes
/-!
# Framed — a header, a body with its sum, and padding

A packet of this layout is known from its parts.  One changed byte never leaves a packet of the layout with another body:
in the body it changes the sum, and elsewhere it leaves the body alone.
-/
namespace Wire

/-- **A body under a header**, followed by its sum, the high byte first, and by padding. -/
def framed (header body padding : List UInt8) : List UInt8 :=
  header ++ body ++ [highByte (sum16 body), lowByte (sum16 body)] ++ padding

section Framed

variable {header body padding header' body' padding' packet : List UInt8} {i j k : Nat} {x : UInt8}

theorem length_framed : (framed header body padding).length = header.length + body.length + 2 + padding.length := by
  simp [framed]
  omega

theorem slice_framed_header : slice (framed header body padding) 0 header.length = header := by
  unfold framed
  rw [slice_append_left (by simp), slice_append_left (by simp), slice_append_left (Nat.le_refl _), slice_self]

theorem slice_framed_body :
    slice (framed header body padding) header.length (header.length + body.length) = body := by
  unfold framed
  rw [slice_append_left (by simp), slice_append_left (by simp), slice_append_right (Nat.le_refl _)]
  have hend : header.length + body.length - header.length = body.length := by omega
  rw [Nat.sub_self, hend, slice_self]

theorem word_framed : word (byte (framed header body padding) (header.length + body.length))
    (byte (framed header body padding) (header.length + body.length + 1)) = sum16 body := by
  have hread : ∀ k < 2, byte (framed header body padding) (header.length + body.length + k) =
      byte [highByte (sum16 body), lowByte (sum16 body)] k := by
    intro k hk
    unfold framed
    rw [byte_append_left (by simp; omega), byte_append_right (by simp)]
    congr 1
    simp
  have hzero := hread 0 (by omega)
  rw [Nat.add_zero] at hzero
  rw [hzero, hread 1 (by omega)]
  exact word_bytes _

theorem byte_framed_padding : byte (framed header body padding) (header.length + body.length + 2 + k) = byte padding k := by
  unfold framed
  rw [byte_append_right (by simp; omega)]
  congr 1
  simp
  omega

/-- **A packet has this layout** when its header, its body, its sum and its padding are these. -/
theorem eq_framed (hlength : packet.length = header.length + body.length + 2 + padding.length) :
    packet = framed header body padding ↔ slice packet 0 header.length = header ∧
      slice packet header.length (header.length + body.length) = body ∧
      word (byte packet (header.length + body.length)) (byte packet (header.length + body.length + 1)) = sum16 body ∧
      ∀ k < padding.length, byte packet (header.length + body.length + 2 + k) = byte padding k := by
  constructor
  · rintro rfl
    exact ⟨slice_framed_header, slice_framed_body, word_framed, fun k _ => byte_framed_padding⟩
  · rintro ⟨hheader, hbody, hsum, hpadding⟩
    obtain ⟨hhigh, hlow⟩ := word_eq.1 hsum
    have hchecksum : slice packet (header.length + body.length) (header.length + body.length + 2) =
        [highByte (sum16 body), lowByte (sum16 body)] := by
      rw [slice_eq_map (by omega), ← hhigh, ← hlow]
      rfl
    have hrest : slice packet (header.length + body.length + 2) packet.length = padding := by
      apply ext_byte
      · rw [length_slice (Nat.le_refl _)]
        omega
      · intro k hk
        rw [length_slice (Nat.le_refl _)] at hk
        rw [byte_slice hk]
        exact hpadding k (by omega)
    have hwhole : slice packet 0 header.length ++ slice packet header.length (header.length + body.length) ++
        slice packet (header.length + body.length) (header.length + body.length + 2) ++
        slice packet (header.length + body.length + 2) packet.length = packet := by
      rw [slice_append (by omega) (by omega), slice_append (by omega) (by omega), slice_append (by omega) (by omega),
        slice_self]
    rw [← hwhole, hheader, hbody, hchecksum, hrest]
    rfl

end Framed

/-! ## One changed byte -/

section Set

variable {header body padding header' body' padding' packet : List UInt8} {i j k : Nat} {x : UInt8}

theorem byte_set_ne (h : i ≠ j) : byte (packet.set i x) j = byte packet j := by
  unfold byte
  rw [List.getD_eq_getElem?_getD, List.getD_eq_getElem?_getD, List.getElem?_set_ne h]

/-- A slice the change is not in. -/
theorem slice_set_outside (h : i < j ∨ k ≤ i) : slice (packet.set i x) j k = slice packet j k := by
  unfold slice
  rcases h with h | h
  · rw [List.drop_set_of_lt h]
  · by_cases hij : j ≤ i
    · rw [List.drop_set, if_neg (by omega), List.take_set_of_le (by omega)]
    · rw [List.drop_set_of_lt (by omega)]

/-- A slice the change is in. -/
theorem slice_set_inside (h : j ≤ i) : slice (packet.set i x) j k = (slice packet j k).set (i - j) x := by
  unfold slice
  rw [List.drop_set, if_neg (by omega), List.take_set]

theorem foldl_sum16 (sum : UInt16) : body.foldl (fun sum byte => sum + byte.toUInt16) sum = sum + sum16 body := by
  induction body generalizing sum with
  | nil => simp [sum16]
  | cons b body ih =>
    unfold sum16
    rw [List.foldl_cons, List.foldl_cons, ih, ih (0 + b.toUInt16), UInt16.zero_add, UInt16.add_assoc]

theorem sum16_append : sum16 (body ++ body') = sum16 body + sum16 body' := by
  unfold sum16
  rw [List.foldl_append, foldl_sum16]
  rfl

theorem sum16_cons (b : UInt8) : sum16 (b :: body) = b.toUInt16 + sum16 body := by
  unfold sum16
  rw [List.foldl_cons, foldl_sum16, UInt16.zero_add]
  rfl

/-- **One changed byte changes the sum.** -/
theorem sum16_set_inj (h : sum16 (body.set i x) = sum16 body) : body.set i x = body := by
  by_cases hi : i < body.length
  · have hsplit : body = body.take i ++ body[i] :: body.drop (i + 1) := by
      rw [← List.drop_eq_getElem_cons hi, List.take_append_drop]
    rw [List.set_eq_take_append_cons_drop, if_pos hi] at h ⊢
    have hbody : sum16 body = sum16 (body.take i) + (body[i].toUInt16 + sum16 (body.drop (i + 1))) := by
      rw [← sum16_cons, ← sum16_append, ← hsplit]
    rw [sum16_append, sum16_cons, hbody, UInt16.add_right_inj, UInt16.add_left_inj] at h
    have hsame : x = body[i] := by
      apply UInt8.toNat.inj
      have hnat := congrArg UInt16.toNat h
      rwa [UInt8.toNat_toUInt16, UInt8.toNat_toUInt16] at hnat
    rw [hsame, ← hsplit]
  · rw [List.set_eq_of_length_le (by omega)]

/-- **A changed byte never makes another body.** -/
theorem framed_set (hheader : header'.length = header.length) (hbody : body'.length = body.length)
    (h : (framed header body padding).set i x = framed header' body' padding') : body' = body := by
  have hread : slice ((framed header body padding).set i x) header.length (header.length + body.length) = body' := by
    rw [h, ← hheader, ← hbody]
    exact slice_framed_body
  by_cases hinside : header.length ≤ i ∧ i < header.length + body.length
  · rw [slice_set_inside hinside.1, slice_framed_body] at hread
    have hsum : sum16 body' = sum16 body := by
      have hword := @word_framed header' body' padding'
      rw [← h, hheader, hbody, byte_set_ne (by omega), byte_set_ne (by omega), word_framed] at hword
      exact hword.symm
    rw [← hread] at hsum ⊢
    exact sum16_set_inj hsum
  · rw [slice_set_outside (by omega), slice_framed_body] at hread
    exact hread.symm

end Set
end Wire
