import Mathlib.Data.List.AList
import Mathlib.Tactic

/-!
# Big-Endian Byte Encodings

A natural number becomes exactly `w` bytes, most significant first, and a list of
bytes becomes a natural number. The two maps are inverse to each other on
`n < 256 ^ w` and on every byte list, so fixed-width fields of a frame can be
compared either as numbers or as bytes.

`saturatingAdd` is the machine addition that stays at the largest value.
-/

namespace TsnFieldbus.Foundations

namespace BigEndian

/-! ## Encoding and decoding -/

/-- The `w` big-endian bytes of `n`; bits above `8 * w` are dropped. -/
def encode : ℕ → ℕ → List UInt8
  | 0, _ => []
  | w + 1, n => UInt8.ofNat (n / 256 ^ w) :: encode w n

/-- The number whose big-endian bytes are given. -/
def decode : List UInt8 → ℕ
  | [] => 0
  | b :: bs => b.toNat * 256 ^ bs.length + decode bs

@[simp] theorem length_encode (w n : ℕ) : (encode w n).length = w := by
  induction w with
  | zero => rfl
  | succ w ih => simp only [encode, List.length_cons, ih]

theorem decode_lt (bs : List UInt8) : decode bs < 256 ^ bs.length := by
  induction bs with
  | nil => simp [decode]
  | cons b bs ih =>
    have hb : b.toNat + 1 ≤ 256 := b.toNat_lt
    calc decode (b :: bs) < b.toNat * 256 ^ bs.length + 256 ^ bs.length := by
          simp only [decode]; omega
      _ = (b.toNat + 1) * 256 ^ bs.length := by ring
      _ ≤ 256 * 256 ^ bs.length := Nat.mul_le_mul_right _ hb
      _ = 256 ^ (b :: bs).length := by simp only [List.length_cons]; ring

/-- Decoding returns the encoded number up to the dropped bits. -/
theorem decode_encode_mod (w n : ℕ) : decode (encode w n) = n % 256 ^ w := by
  induction w with
  | zero => simp [encode, decode, Nat.mod_one]
  | succ w ih =>
    have hbyte : (UInt8.ofNat (n / 256 ^ w)).toNat = n / 256 ^ w % 256 :=
      UInt8.toNat_ofNat'
    rw [encode, decode, ih, hbyte, length_encode, pow_succ, Nat.mod_mul]
    ring

theorem decode_encode {w n : ℕ} (h : n < 256 ^ w) : decode (encode w n) = n := by
  rw [decode_encode_mod, Nat.mod_eq_of_lt h]

/-- Only the low `8 * w` bits of a number reach its `w`-byte encoding. -/
theorem encode_mod {w k : ℕ} (hk : w ≤ k) (n : ℕ) : encode w (n % 256 ^ k) = encode w n := by
  induction w with
  | zero => rfl
  | succ w ih =>
    obtain ⟨d, rfl⟩ := Nat.exists_eq_add_of_le hk
    have hdiv : n % 256 ^ (w + 1 + d) / 256 ^ w = n / 256 ^ w % 256 ^ (1 + d) := by
      rw [show w + 1 + d = w + (1 + d) by ring, pow_add, Nat.mod_mul_right_div_self]
    have hbyte : UInt8.ofNat (n / 256 ^ w % 256 ^ (1 + d)) = UInt8.ofNat (n / 256 ^ w) := by
      apply UInt8.toNat_inj.mp
      simp only [UInt8.toNat_ofNat']
      exact Nat.mod_mod_of_dvd _ ⟨256 ^ d, by ring⟩
    rw [encode, encode, hdiv, hbyte, ih (by omega)]

/-- Encoding a decoded byte list at its own width gives the bytes back. -/
theorem encode_decode (bs : List UInt8) : encode bs.length (decode bs) = bs := by
  induction bs with
  | nil => rfl
  | cons b bs ih =>
    have hlt := decode_lt bs
    have hhead : decode (b :: bs) / 256 ^ bs.length = b.toNat := by
      rw [decode, add_comm, Nat.add_mul_div_right _ _ (by positivity), Nat.div_eq_of_lt hlt,
        Nat.zero_add]
    have htail : decode (b :: bs) % 256 ^ bs.length = decode bs := by
      rw [decode, add_comm, Nat.add_mul_mod_self_right, Nat.mod_eq_of_lt hlt]
    rw [List.length_cons, encode, hhead, UInt8.ofNat_toNat, ← encode_mod le_rfl, htail, ih]

end BigEndian

/-! ## Saturating addition -/

/-- `u64::saturating_add`. -/
def saturatingAdd (x y : UInt64) : UInt64 :=
  if x.toNat + y.toNat < 2 ^ 64 then x + y else UInt64.ofNat (2 ^ 64 - 1)

theorem toNat_saturatingAdd (x y : UInt64) :
    (saturatingAdd x y).toNat = min (x.toNat + y.toNat) (2 ^ 64 - 1) := by
  unfold saturatingAdd
  split
  · rename_i h
    rw [UInt64.toNat_add, Nat.mod_eq_of_lt h]
    omega
  · rename_i h
    rw [UInt64.toNat_ofNat_of_lt' (by decide)]
    omega

theorem le_saturatingAdd_one (n : UInt64) : n ≤ saturatingAdd n 1 := by
  have hn := n.toNat_lt
  rw [UInt64.le_iff_toNat_le, toNat_saturatingAdd, UInt64.toNat_one]
  omega

end TsnFieldbus.Foundations
