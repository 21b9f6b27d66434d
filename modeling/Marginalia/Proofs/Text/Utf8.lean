import Marginalia.Text.Utf8

/-!
# Reading what has been encoded

The bytes of a text are decoded to the text: each character is read from the bytes that it is
encoded by, whatever follows them.

## Main results

* `Utf8.decodeFrom_encodeChar`: a character is read from its bytes
* `Utf8.decode_encode`: a text is read from its bytes
-/

namespace Marginalia

namespace Utf8

variable {pos seen left low high value n : Nat} {b byte : UInt8} {before : Text} {r : Bytes}

theorem toNat_tail (n : Nat) : (tail n).toNat = 0x80 + n % 64 := by
  rw [tail, UInt8.toNat_ofNat']
  omega

theorem toNat_ofNat_of_lt (h : n < 256) : (UInt8.ofNat n).toNat = n := by
  rw [UInt8.toNat_ofNat']
  omega

/-- A byte in the middle of a sequence. -/
theorem decodeFrom_tail (hleft : 1 < left) (hlow : low ≤ 0x80 + n % 64)
    (hhigh : 0x80 + n % 64 ≤ high) :
    decodeFrom pos (.tail byte seen left low high value) before (tail n :: r) =
      decodeFrom (pos + 1) (.tail byte (seen + 1) (left - 1) 0x80 0xbf (64 * value + n % 64))
        before r := by
  have hmod : (0x80 + n % 64) % 64 = n % 64 := by omega
  rw [decodeFrom, toNat_tail, if_pos ⟨hlow, hhigh⟩, hmod]
  dsimp only
  rw [if_neg (by omega)]

/-- The last byte of a sequence. -/
theorem decodeFrom_last (hlow : low ≤ 0x80 + n % 64) (hhigh : 0x80 + n % 64 ≤ high) :
    decodeFrom pos (.tail byte seen 1 low high value) before (tail n :: r) =
      decodeFrom (pos + 1) .none (Char.ofNat (64 * value + n % 64) :: before) r := by
  have hmod : (0x80 + n % 64) % 64 = n % 64 := by omega
  rw [decodeFrom, toNat_tail, if_pos ⟨hlow, hhigh⟩, hmod]
  dsimp only
  rw [if_pos (Nat.le_refl 1)]

/-- The first byte of a sequence. -/
theorem decodeFrom_leading {pending : Pending} (hb : 0x80 ≤ b.toNat)
    (h : leading? b = some pending) :
    decodeFrom pos .none before (b :: r) = decodeFrom (pos + 1) pending before r := by
  rw [decodeFrom, if_neg (by omega), h]

/-- The first of two bytes. -/
theorem leading?_two (h : 0x80 ≤ n) (h' : n < 0x800) :
    leading? (UInt8.ofNat (0xc0 + n / 64)) =
      some (.tail (UInt8.ofNat (0xc0 + n / 64)) 1 1 0x80 0xbf (n / 64)) := by
  unfold leading?
  rw [toNat_ofNat_of_lt (by omega)]
  dsimp only
  rw [if_neg (by omega), if_pos (by omega), Nat.add_sub_cancel_left]

/-- The first of three bytes. The second one is in a smaller range where shorter sequences or halves
of pairs begin alike. -/
theorem leading?_three (h : 0x800 ≤ n) (h' : n < 0x10000) (hvalid : n < 0xd800 ∨ 0xdfff < n) :
    ∃ low high, leading? (UInt8.ofNat (0xe0 + n / 4096)) =
        some (.tail (UInt8.ofNat (0xe0 + n / 4096)) 1 2 low high (n / 4096)) ∧
      low ≤ 0x80 + n / 64 % 64 ∧ 0x80 + n / 64 % 64 ≤ high := by
  unfold leading?
  rw [toNat_ofNat_of_lt (by omega)]
  dsimp only
  rw [if_neg (by omega), if_neg (by omega), Nat.add_sub_cancel_left]
  split
  · exact ⟨0xa0, 0xbf, by rw [show n / 4096 = 0 by omega], by omega, by omega⟩
  split
  · exact ⟨0x80, 0x9f, by rw [show n / 4096 = 13 by omega], by omega, by omega⟩
  · exact ⟨0x80, 0xbf, by rw [if_pos (by omega)], by omega, by omega⟩

/-- The first of four bytes. The second one is in a smaller range where shorter sequences begin
alike and where there are no more characters. -/
theorem leading?_four (h : 0x10000 ≤ n) (h' : n < 0x110000) :
    ∃ low high, leading? (UInt8.ofNat (0xf0 + n / 262144)) =
        some (.tail (UInt8.ofNat (0xf0 + n / 262144)) 1 3 low high (n / 262144)) ∧
      low ≤ 0x80 + n / 4096 % 64 ∧ 0x80 + n / 4096 % 64 ≤ high := by
  unfold leading?
  rw [toNat_ofNat_of_lt (by omega)]
  dsimp only
  rw [if_neg (by omega), if_neg (by omega), if_neg (by omega), if_neg (by omega),
    if_neg (by omega), Nat.add_sub_cancel_left]
  split
  · exact ⟨0x90, 0xbf, by rw [show n / 262144 = 0 by omega], by omega, by omega⟩
  split
  · exact ⟨0x80, 0xbf, rfl, by omega, by omega⟩
  · exact ⟨0x80, 0x8f, by rw [if_pos (by omega), show n / 262144 = 4 by omega], by omega, by omega⟩

/-- **A character is read from its bytes.** -/
theorem decodeFrom_encodeChar (c : Char) (pos : Nat) (before : Text) (r : Bytes) :
    decodeFrom pos .none before (encodeChar c ++ r) =
      decodeFrom (pos + (encodeChar c).length) .none (c :: before) r := by
  have hvalid : c.toNat.isValidChar := c.valid
  have hchar : ∀ {n : Nat}, n = c.toNat → Char.ofNat n = c := fun h => by
    rw [h, Char.ofNat_toNat]
  unfold Nat.isValidChar at hvalid
  unfold encodeChar
  dsimp only
  generalize c.toNat = n at hvalid hchar ⊢
  -- one case for each number of bytes
  split
  · rw [List.singleton_append, decodeFrom, toNat_ofNat_of_lt (by omega), if_pos ‹_›, hchar rfl]
    rfl
  split
  · have hlead := leading?_two (n := n) (by omega) (by omega)
    rw [List.cons_append, List.singleton_append,
      decodeFrom_leading (by rw [toNat_ofNat_of_lt (by omega)]; omega) hlead,
      decodeFrom_last (by omega) (by omega), hchar (by omega)]
    rfl
  split
  · obtain ⟨low, high, hlead, hlow, hhigh⟩ :=
      leading?_three (n := n) (by omega) (by omega) (by omega)
    rw [List.cons_append, List.cons_append, List.singleton_append,
      decodeFrom_leading (by rw [toNat_ofNat_of_lt (by omega)]; omega) hlead,
      decodeFrom_tail (by omega) hlow hhigh, decodeFrom_last (by omega) (by omega),
      hchar (by omega)]
    rfl
  · obtain ⟨low, high, hlead, hlow, hhigh⟩ := leading?_four (n := n) (by omega) (by omega)
    rw [List.cons_append, List.cons_append, List.cons_append, List.singleton_append,
      decodeFrom_leading (by rw [toNat_ofNat_of_lt (by omega)]; omega) hlead,
      decodeFrom_tail (by omega) hlow hhigh, decodeFrom_tail (by omega) (by omega) (by omega),
      decodeFrom_last (by omega) (by omega), hchar (by omega)]
    rfl

theorem decodeFrom_encode (s : Text) (pos : Nat) (before : Text) :
    decodeFrom pos .none before (encode s) = .ok (before.reverse ++ s) := by
  induction s generalizing pos before with
  | nil => rw [encode_nil, decodeFrom, List.append_nil]
  | cons c s ih =>
    have hencode : encode (c :: s) = encodeChar c ++ encode s := List.flatMap_cons ..
    rw [hencode, decodeFrom_encodeChar, ih, List.reverse_cons, List.append_assoc,
      List.singleton_append]

/-- **A text is read from its bytes.** -/
theorem decode_encode (s : Text) : decode (encode s) = .ok s := decodeFrom_encode s 0 []

end Utf8

end Marginalia
