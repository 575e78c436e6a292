import Mathlib.Tactic

/-!
# Bit Fields in Byte Strings

The bits of a byte string are numbered through from the least significant bit of the first
byte. A bit field is a range of them, which need not begin or end at a byte.

- `ext_of_bitAt`: a byte string is its length and its bits.
- `bitAt_set`, `bitAt_slice`, `bitAt_overwrite`: the bits after an operation on whole bytes.
- `foldlM_range_bitAt`, `bitAt_foldlM_range_of_ne`: a loop that sets one bit after the other
  fills a bit field and leaves the other bits alone.
-/

namespace TsnFieldbus.Foundations

/-- Bit `k` of a byte string; `false` behind its end. -/
def bitAt (bytes : List UInt8) (k : ℕ) : Bool := (bytes[k / 8]?.getD 0).toNat.testBit (k % 8)

/-! ## One byte -/

/-- A byte has no bits from the eighth on. -/
theorem testBit_byte_of_ge (byte : UInt8) {n : ℕ} (h : 8 ≤ n) : byte.toNat.testBit n = false := by
  apply Nat.testBit_lt_two_pow
  exact byte.toNat_lt.trans_le (Nat.pow_le_pow_right (by norm_num) h)

/-- A byte is its eight bits. -/
theorem byte_ext {a b : UInt8} (h : ∀ n < 8, a.toNat.testBit n = b.toNat.testBit n) : a = b := by
  apply UInt8.toNat_inj.mp
  apply Nat.eq_of_testBit_eq
  intro n
  rcases Nat.lt_or_ge n 8 with hlow | hhigh
  · exact h n hlow
  · rw [testBit_byte_of_ge a hhigh, testBit_byte_of_ge b hhigh]

/-- The mask with one bit. -/
theorem testBit_mask {shift : UInt8} (h : shift.toNat < 8) (n : ℕ) :
    ((1 : UInt8) <<< shift).toNat.testBit n = decide (shift.toNat = n) := by
  have hpow : ((1 : UInt8) <<< shift).toNat = 2 ^ shift.toNat := by
    rw [UInt8.toNat_shiftLeft, Nat.mod_eq_of_lt h, Nat.shiftLeft_eq]
    change 1 * 2 ^ shift.toNat % 2 ^ 8 = 2 ^ shift.toNat
    rw [Nat.one_mul]
    exact Nat.mod_eq_of_lt (Nat.pow_lt_pow_right (by norm_num) h)
  rw [hpow, Nat.testBit_two_pow]

/-- Testing a bit under its mask. -/
theorem and_mask_ne_zero_iff (byte : UInt8) {shift : UInt8} (h : shift.toNat < 8) :
    byte &&& ((1 : UInt8) <<< shift) ≠ 0 ↔ byte.toNat.testBit shift.toNat = true := by
  constructor
  · intro hne
    by_contra hbit
    rw [Bool.not_eq_true] at hbit
    apply hne
    apply byte_ext
    intro n _
    rw [UInt8.toNat_and, Nat.testBit_and, testBit_mask h]
    by_cases hn : shift.toNat = n
    · subst hn
      simp [hbit]
    · simp [hn]
  · intro hbit hzero
    have hmasked : (byte &&& ((1 : UInt8) <<< shift)).toNat.testBit shift.toNat = true := by
      rw [UInt8.toNat_and, Nat.testBit_and, testBit_mask h, hbit, decide_eq_true rfl]
      rfl
    rw [hzero] at hmasked
    exact absurd hmasked (by simp)

/-- Setting a bit with its mask. -/
theorem testBit_or_mask (byte : UInt8) {shift : UInt8} (h : shift.toNat < 8) (n : ℕ) :
    (byte ||| ((1 : UInt8) <<< shift)).toNat.testBit n =
      if n = shift.toNat then true else byte.toNat.testBit n := by
  rw [UInt8.toNat_or, Nat.testBit_or, testBit_mask h]
  by_cases hn : n = shift.toNat
  · subst hn
    simp
  · simp [hn, Ne.symm hn]

/-- Clearing a bit with the complement of its mask. -/
theorem testBit_and_not_mask (byte : UInt8) {shift : UInt8} (h : shift.toNat < 8) {n : ℕ}
    (hn : n < 8) :
    (byte &&& ~~~ ((1 : UInt8) <<< shift)).toNat.testBit n =
      if n = shift.toNat then false else byte.toNat.testBit n := by
  have hmask := testBit_mask h n
  have hnot : (~~~ ((1 : UInt8) <<< shift)).toNat.testBit n = !decide (shift.toNat = n) := by
    have hsub : UInt8.size - 1 - ((1 : UInt8) <<< shift).toNat =
        2 ^ 8 - (((1 : UInt8) <<< shift).toNat + 1) := by
      change 255 - _ = 256 - _
      omega
    rw [UInt8.toNat_not, hsub, Nat.testBit_two_pow_sub_succ (UInt8.toNat_lt _), hmask]
    simp [hn]
  rw [UInt8.toNat_and, Nat.testBit_and, hnot]
  by_cases heq : n = shift.toNat
  · subst heq
    simp
  · simp [heq, Ne.symm heq]

/-! ## Byte strings -/

/-- A byte string is its length and its bits. -/
theorem ext_of_bitAt {a b : List UInt8} (hlen : a.length = b.length)
    (h : ∀ k < 8 * a.length, bitAt a k = bitAt b k) : a = b := by
  apply List.ext_getElem hlen
  intro i ha hb
  apply byte_ext
  intro n hn
  have hdiv : (8 * i + n) / 8 = i := by omega
  have hmod : (8 * i + n) % 8 = n := by omega
  have hbit := h (8 * i + n) (by omega)
  rw [bitAt, bitAt, hdiv, hmod, List.getElem?_eq_getElem ha, List.getElem?_eq_getElem hb] at hbit
  exact hbit

@[simp] theorem bitAt_replicate_zero (n k : ℕ) : bitAt (List.replicate n 0) k = false := by
  rw [bitAt, List.getElem?_replicate]
  split <;> exact Nat.zero_testBit _

/-- Replacing a byte changes the bits in it. -/
theorem bitAt_set {bytes : List UInt8} {i : ℕ} (h : i < bytes.length) (byte : UInt8) (k : ℕ) :
    bitAt (bytes.set i byte) k =
      if k / 8 = i then byte.toNat.testBit (k % 8) else bitAt bytes k := by
  unfold bitAt
  rw [List.getElem?_set]
  by_cases hk : k / 8 = i
  · subst hk
    simp [h]
  · simp [hk, Ne.symm hk]

/-- Testing a bit of a byte string under its mask. -/
theorem and_mask_ne_zero_iff_bitAt {bytes : List UInt8} {i b : ℕ} (hb : i / 8 = b)
    (h : b < bytes.length) {shift : UInt8} (hshift : shift.toNat = i % 8) :
    bytes[b] &&& ((1 : UInt8) <<< shift) ≠ 0 ↔ bitAt bytes i = true := by
  subst hb
  rw [and_mask_ne_zero_iff _ (by omega), hshift, bitAt, List.getElem?_eq_getElem h,
    Option.getD_some]

/-- Replacing a byte by one that differs in a single bit changes that bit alone. -/
theorem bitAt_set_of_testBit {bytes : List UInt8} {i b : ℕ} (hb : i / 8 = b)
    (h : b < bytes.length) {byte : UInt8} {value : Bool}
    (hbyte : ∀ n < 8, byte.toNat.testBit n =
      if n = i % 8 then value else (bytes[b]).toNat.testBit n) (k : ℕ) :
    bitAt (bytes.set b byte) k = if k = i then value else bitAt bytes k := by
  subst hb
  rw [bitAt_set h, hbyte _ (Nat.mod_lt _ (by norm_num))]
  by_cases hsame : k / 8 = i / 8
  · have hbit : k % 8 = i % 8 ↔ k = i := by omega
    rw [if_pos hsame]
    simp only [hbit, bitAt, hsame, List.getElem?_eq_getElem h, Option.getD_some]
  · have hne : k ≠ i := fun heq => hsame (heq ▸ rfl)
    rw [if_neg hsame, if_neg hne]

/-- Setting a bit of a byte string with its mask. -/
theorem bitAt_set_or {bytes : List UInt8} {i b : ℕ} (hb : i / 8 = b) (h : b < bytes.length)
    {shift : UInt8} (hshift : shift.toNat = i % 8) (k : ℕ) :
    bitAt (bytes.set b (bytes[b] ||| ((1 : UInt8) <<< shift))) k =
      if k = i then true else bitAt bytes k := by
  apply bitAt_set_of_testBit hb h
  intro n _
  rw [testBit_or_mask _ (by omega), hshift]

/-- Clearing a bit of a byte string with the complement of its mask. -/
theorem bitAt_set_and_not {bytes : List UInt8} {i b : ℕ} (hb : i / 8 = b) (h : b < bytes.length)
    {shift : UInt8} (hshift : shift.toNat = i % 8) (k : ℕ) :
    bitAt (bytes.set b (bytes[b] &&& ~~~ ((1 : UInt8) <<< shift))) k =
      if k = i then false else bitAt bytes k := by
  apply bitAt_set_of_testBit hb h
  intro n hn
  rw [testBit_and_not_mask _ (by omega) hn, hshift]

/-- The bits of a slice. -/
theorem bitAt_slice (bytes : List UInt8) (start n k : ℕ) :
    bitAt ((bytes.drop start).take n) k =
      if k < 8 * n then bitAt bytes (8 * start + k) else false := by
  have hdiv : (8 * start + k) / 8 = start + k / 8 := by omega
  have hmod : (8 * start + k) % 8 = k % 8 := by omega
  unfold bitAt
  rw [hdiv, hmod, List.getElem?_take, List.getElem?_drop]
  by_cases hk : k < 8 * n
  · have hlt : k / 8 < n := by omega
    simp [hk, hlt]
  · have hge : ¬ k / 8 < n := by omega
    simp [hk, hge]

/-- The bits after a slice was copied over some bytes. -/
theorem bitAt_overwrite {bytes source : List UInt8} {start : ℕ}
    (h : start + source.length ≤ bytes.length) (k : ℕ) :
    bitAt (bytes.take start ++ source ++ bytes.drop (start + source.length)) k =
      if 8 * start ≤ k ∧ k < 8 * start + 8 * source.length then bitAt source (k - 8 * start)
      else bitAt bytes k := by
  have hfront : (bytes.take start).length = start := by
    rw [List.length_take]
    omega
  unfold bitAt
  -- a byte before the field
  rcases Nat.lt_or_ge (k / 8) start with hbefore | hfrom
  · have hout : ¬ (8 * start ≤ k ∧ k < 8 * start + 8 * source.length) := by omega
    rw [if_neg hout, List.append_assoc, List.getElem?_append_left (by omega),
      List.getElem?_take_of_lt hbefore]
  -- in it, or behind it
  · rcases Nat.lt_or_ge (k / 8) (start + source.length) with hinside | hbehind
    · have hin : 8 * start ≤ k ∧ k < 8 * start + 8 * source.length := by omega
      have hdiv : (k - 8 * start) / 8 = k / 8 - start := by omega
      have hmod : (k - 8 * start) % 8 = k % 8 := by omega
      rw [if_pos hin, List.append_assoc, List.getElem?_append_right (by omega),
        List.getElem?_append_left (by omega), hfront, hdiv, hmod]
    · have hout : ¬ (8 * start ≤ k ∧ k < 8 * start + 8 * source.length) := by omega
      have hlen : (bytes.take start ++ source).length = start + source.length := by
        rw [List.length_append, hfront]
      rw [if_neg hout, List.getElem?_append_right (by omega), hlen, List.getElem?_drop,
        Nat.add_sub_cancel' hbehind]

/-! ## Loops over a bit field -/

/-- The bits from `start` on are those of a source, for `n` bits; all others as before. -/
def FieldFilled (source : ℕ → Bool) (start n : ℕ) (before after : List UInt8) : Prop :=
  after.length = before.length ∧
    ∀ k, bitAt after k = if start ≤ k ∧ k < start + n then source (k - start) else bitAt before k

/-- A loop that sets one bit after the other fills the field: its body has to set the bit whose
turn it is, from any byte string that still has the later bits of the first one. -/
theorem foldlM_range_bitAt {body : List UInt8 → ℕ → Option (List UInt8)} {source : ℕ → Bool}
    {start : ℕ} {before : List UInt8} {n : ℕ}
    (hbody : ∀ i < n, ∀ bytes, bytes.length = before.length →
      (∀ k, start + i ≤ k → bitAt bytes k = bitAt before k) →
      ∃ next, body bytes i = some next ∧ next.length = bytes.length ∧
        ∀ k, bitAt next k = if k = start + i then source i else bitAt bytes k) :
    ∃ after, (List.range n).foldlM body before = some after ∧
      FieldFilled source start n before after := by
  induction n with
  | zero =>
    refine ⟨before, rfl, rfl, ?_⟩
    intro k
    rw [if_neg (by omega)]
  | succ n ih =>
    obtain ⟨bytes, hrun, hlen, hbits⟩ := ih (fun i hi => hbody i (by omega))
    -- the next bit has not been touched by the earlier ones
    obtain ⟨next, hnext, hsame, hset⟩ := hbody n (Nat.lt_succ_self n) bytes hlen (by
      intro k hk
      rw [hbits, if_neg (by omega)])
    refine ⟨next, ?_, hsame.trans hlen, ?_⟩
    · rw [List.range_succ, List.foldlM_append, hrun]
      simp [hnext]
    · intro k
      rw [hset, hbits]
      -- it is set now, and every other stays
      by_cases hk : k = start + n
      · subst hk
        rw [if_pos rfl, if_pos (by omega), Nat.add_sub_cancel_left]
      · rw [if_neg hk]
        congr 1
        simp only [eq_iff_iff]
        omega

/-- A bit that no pass of the loop changes is as before. -/
theorem bitAt_foldlM_range_of_ne {body : List UInt8 → ℕ → Option (List UInt8)} {n k : ℕ}
    (hbody : ∀ i < n, ∀ bytes next, body bytes i = some next → bitAt next k = bitAt bytes k)
    {before after : List UInt8} (h : (List.range n).foldlM body before = some after) :
    bitAt after k = bitAt before k := by
  induction n generalizing after with
  | zero =>
    cases h
    rfl
  | succ n ih =>
    rw [List.range_succ, List.foldlM_append] at h
    simp only [Option.bind_eq_bind, Option.bind_eq_some_iff] at h
    obtain ⟨bytes, hfirst, hlast⟩ := h
    rw [List.foldlM_cons] at hlast
    simp only [List.foldlM_nil, Option.bind_eq_bind, Option.bind_eq_some_iff] at hlast
    obtain ⟨next, hnext, hpure⟩ := hlast
    cases hpure
    rw [hbody n (Nat.lt_succ_self n) bytes after hnext]
    exact ih (fun i hi => hbody i (by omega)) hfirst

end TsnFieldbus.Foundations
