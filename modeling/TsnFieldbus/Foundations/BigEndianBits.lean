import TsnFieldbus.Foundations.BigEndian

/-!
# Bits of Big-Endian Numbers

The bits of a byte string in the order they are written, most significant first, and the masks
that are some ones followed by zeros.

- `bits_eq`: the bits of the bytes are the bits of the number.
- `IsPrefixMask`: the number is a mask with the given count of leading ones.
- `isPrefixMask_decode`: the masks in terms of the bits of the bytes.
-/

namespace TsnFieldbus.Foundations

namespace BigEndian

/-- The bits of a byte string, most significant bit of the first byte first. -/
def bits (bytes : List UInt8) : List Bool :=
  bytes.flatMap (fun byte => (List.range 8).reverse.map byte.toNat.testBit)

theorem bits_cons (byte : UInt8) (bytes : List UInt8) :
    bits (byte :: bytes) = (List.range 8).reverse.map byte.toNat.testBit ++ bits bytes := rfl

theorem length_bits (bytes : List UInt8) : (bits bytes).length = 8 * bytes.length := by
  induction bytes with
  | nil => rfl
  | cons byte bytes ih =>
    rw [bits_cons, List.length_append, ih, List.length_map, List.length_reverse,
      List.length_range, List.length_cons]
    ring

/-- The first byte holds the most significant bits. -/
theorem testBit_decode_cons (byte : UInt8) (bytes : List UInt8) (k : ℕ) :
    (decode (byte :: bytes)).testBit k =
      if k < 8 * bytes.length then (decode bytes).testBit k
      else byte.toNat.testBit (k - 8 * bytes.length) := by
  have hpow : 256 ^ bytes.length = 2 ^ (8 * bytes.length) := by
    rw [pow_mul]
    norm_num
  have hlt := decode_lt bytes
  rw [hpow] at hlt
  rw [decode, hpow, Nat.mul_comm]
  exact Nat.testBit_two_pow_mul_add _ hlt k

/-- The bits of the bytes are the bits of the number. -/
theorem bits_eq (bytes : List UInt8) :
    bits bytes = (List.range (8 * bytes.length)).reverse.map (decode bytes).testBit := by
  induction bytes with
  | nil => rfl
  | cons byte bytes ih =>
    have hhigh : (List.range 8).reverse.map byte.toNat.testBit =
        ((List.range 8).map (8 * bytes.length + ·)).reverse.map
          (decode (byte :: bytes)).testBit := by
      rw [← List.map_reverse, List.map_map]
      apply List.map_congr_left
      intro k _
      rw [Function.comp_apply, testBit_decode_cons, if_neg (by omega), Nat.add_sub_cancel_left]
    have hlow : (List.range (8 * bytes.length)).reverse.map (decode bytes).testBit =
        (List.range (8 * bytes.length)).reverse.map (decode (byte :: bytes)).testBit := by
      apply List.map_congr_left
      intro k hk
      rw [testBit_decode_cons, if_pos (List.mem_range.mp (List.mem_reverse.mp hk))]
    rw [bits_cons, ih, hhigh, hlow, ← List.map_append, ← List.reverse_append, ← List.range_add,
      List.length_cons, Nat.mul_succ]

/-! ## Leading ones -/

/-- `count` one bits followed by zero bits, in a number of `width` bits. -/
def IsPrefixMask (width value count : ℕ) : Prop :=
  count ≤ width ∧ ∀ i < width, value.testBit (width - 1 - i) = decide (i < count)

instance (width value count : ℕ) : Decidable (IsPrefixMask width value count) :=
  inferInstanceAs (Decidable (_ ∧ _))

/-- A number is a mask exactly if its bytes are ones followed by zeros. -/
theorem isPrefixMask_decode (bytes : List UInt8) (count : ℕ) :
    IsPrefixMask (8 * bytes.length) (decode bytes) count ↔
      ∃ zeros, bits bytes = List.replicate count true ++ List.replicate zeros false := by
  constructor
  · rintro ⟨hcount, hbits⟩
    -- the zeros are what is left, and the lists agree bit by bit
    refine ⟨8 * bytes.length - count, ?_⟩
    apply List.ext_getElem
    · simp only [length_bits, List.length_append, List.length_replicate]
      omega
    · intro i hi _
      rw [length_bits] at hi
      have hbit := hbits i hi
      simp only [bits_eq, List.getElem_map, List.getElem_reverse, List.getElem_range,
        List.length_range, List.getElem_append, List.length_replicate, List.getElem_replicate]
      rw [hbit]
      split <;> simp [*]
  · rintro ⟨zeros, hbits⟩
    have hlen := congrArg List.length hbits
    simp only [length_bits, List.length_append, List.length_replicate] at hlen
    refine ⟨by omega, ?_⟩
    intro i hi
    -- the list starts with the most significant bit
    have hget : (bits bytes)[i]? = some ((decode bytes).testBit (8 * bytes.length - 1 - i)) := by
      rw [bits_eq]
      simp [hi]
    rw [hbits, List.getElem?_append, List.getElem?_replicate, List.getElem?_replicate,
      List.length_replicate] at hget
    by_cases hone : i < count
    · rw [if_pos hone, if_pos hone, Option.some.injEq] at hget
      rw [← hget, decide_eq_true hone]
    · rw [if_neg hone, if_pos (by omega), Option.some.injEq] at hget
      rw [← hget, decide_eq_false hone]

end BigEndian

end TsnFieldbus.Foundations
