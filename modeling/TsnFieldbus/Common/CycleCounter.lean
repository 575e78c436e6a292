import TsnFieldbus.Common.SlaveApiTypes
import TsnFieldbus.Foundations.CircularDistance

/-!
# Cycle Counters

The 16-bit counter in every L2 header and the comparison both receiver threads make with
it. A sender counts ticks of 31.25 µs; a receiver expects the next counter one cycle after
the last and allows a tolerance of one and a half cycles.

- `cycleCheck_eq_none_iff`: the comparison passes inside the window around the expected value.
- `cycleCheck_of_offset`: what it counts outside.
- `cycleCheck_of_sent`: two frames sent within the window, wherever the counter stands.
- `cycleCheck_of_lost`: lost frames are counted from the second on.
-/

namespace TsnFieldbus

open Foundations

/-! ## Ticks -/

/-- `CYCLE_COUNTER_TICK_NS`. -/
abbrev cycleCounterTickNs : ℕ := 31250

/-- The counter after some ticks: the remainder by `0xFFFF`. -/
def counterOfTicks (ticks : ℕ) : UInt16 := .ofNat (ticks % 0xFFFF)

/-- The ticks in some microseconds. -/
def ticksSinceEpoch (totalMicros : ℕ) : ℕ := totalMicros * 4 / 125

/-- `cycle_counter`; the time since the epoch is an argument. -/
def cycleCounter (totalMicros : ℕ) : UInt16 := counterOfTicks (ticksSinceEpoch totalMicros)

/-- `ticks_per_cycle`. At most 137439 ticks, so that the conversion loses nothing. -/
def ticksPerCycle (cycleTimeNano : UInt32) : UInt32 :=
  let cycleNs := max cycleTimeNano.toNat 1
  let ticks := (cycleNs + (cycleCounterTickNs - 1)) / cycleCounterTickNs
  .ofNat (max ticks 1)

/-- `tolerance_ticks`: one and a half cycles, rounded up. -/
def toleranceTicks (cycleTimeNano : UInt32) : UInt32 :=
  let cycleNs := max cycleTimeNano.toNat 1
  let ticks := (3 * cycleNs + (2 * cycleCounterTickNs - 1)) / (2 * cycleCounterTickNs)
  .ofNat (max ticks 1)

theorem toNat_ticksPerCycle (cycleTimeNano : UInt32) :
    (ticksPerCycle cycleTimeNano).toNat = (max cycleTimeNano.toNat 1 + 31249) / 31250 := by
  have hlt := cycleTimeNano.toNat_lt
  unfold ticksPerCycle
  rw [UInt32.toNat_ofNat_of_lt'] <;> simp only [cycleCounterTickNs, UInt32.size] <;> omega

theorem toNat_toleranceTicks (cycleTimeNano : UInt32) :
    (toleranceTicks cycleTimeNano).toNat = (3 * max cycleTimeNano.toNat 1 + 62499) / 62500 := by
  have hlt := cycleTimeNano.toNat_lt
  unfold toleranceTicks
  rw [UInt32.toNat_ofNat_of_lt'] <;> simp only [cycleCounterTickNs, UInt32.size] <;> omega

theorem toNat_counterOfTicks (ticks : ℕ) : (counterOfTicks ticks).toNat = ticks % 65535 := by
  unfold counterOfTicks
  rw [UInt16.toNat_ofNat_of_lt']
  have := Nat.mod_lt ticks (show 0 < 65535 by norm_num)
  exact this.trans (by norm_num)

/-! ## The comparison -/

/-- `div_ceil` of `u32`. -/
def divCeil (a b : UInt32) : UInt32 := if a % b > 0 then a / b + 1 else a / b

/-- The comparison of a received counter with the last one of its stream: the missed cycles,
when the counter is outside the tolerance. -/
def cycleCheck (cycleTimeNano : UInt32) (last received : UInt16) : Option UInt32 :=
  let ticks := ticksPerCycle cycleTimeNano
  let expected := last + ticks.toUInt16
  let forward := (received - expected).toUInt32
  let backward := (expected - received).toUInt32
  let tolerance := toleranceTicks cycleTimeNano
  if min forward backward > tolerance then
    some (if forward ≤ backward then divCeil forward ticks else 1)
  else none

/-- The counter lies in the window around one cycle after the last. -/
def InWindow (cycleTimeNano : UInt32) (last received : UInt16) : Prop :=
  ∃ offset : ℤ, |offset| ≤ (toleranceTicks cycleTimeNano).toNat ∧
    (received.toNat : ℤ) ≡ last.toNat + (ticksPerCycle cycleTimeNano).toNat + offset [ZMOD 65536]

/-- Wrapping subtraction is the way forward on the cycle of `2 ^ 16` values. -/
theorem toNat_sub_eq_emod (a b : UInt16) :
    ((a - b).toUInt32.toNat : ℤ) = ((a.toNat : ℤ) - b.toNat) % (65536 : ℕ) := by
  have ha := a.toNat_lt
  have hb := b.toNat_lt
  rw [UInt16.toNat_toUInt32, UInt16.toNat_sub]
  omega

/-- The expected value, up to whole turns. -/
theorem expected_modEq (last : UInt16) (ticks : UInt32) :
    ((last + ticks.toUInt16).toNat : ℤ) ≡ last.toNat + ticks.toNat [ZMOD 65536] := by
  rw [UInt16.toNat_add, UInt32.toNat_toUInt16, Int.ModEq]
  omega

theorem toNat_min (a b : UInt32) : (min a b).toNat = min a.toNat b.toNat := by
  change (if a ≤ b then a else b).toNat = _
  rw [Nat.min_def]
  simp only [UInt32.le_iff_toNat_le]
  split <;> rfl

/-- The smaller of the two ways is the distance around the cycle. -/
theorem toNat_min_sub (a b : UInt16) :
    ((min (a - b).toUInt32 (b - a).toUInt32).toNat : ℤ) =
      circularDistance 65536 a.toNat b.toNat := by
  rw [toNat_min, circularDistance, Nat.cast_min, toNat_sub_eq_emod, toNat_sub_eq_emod]

/-- The comparison passes exactly inside the window. -/
theorem cycleCheck_eq_none_iff (cycleTimeNano : UInt32) (last received : UInt16) :
    cycleCheck cycleTimeNano last received = none ↔ InWindow cycleTimeNano last received := by
  have hexpected := expected_modEq last (ticksPerCycle cycleTimeNano)
  have hdistance : cycleCheck cycleTimeNano last received = none ↔
      circularDistance 65536 received.toNat
        (last + (ticksPerCycle cycleTimeNano).toUInt16).toNat ≤
          (toleranceTicks cycleTimeNano).toNat := by
    rw [← toNat_min_sub, Nat.cast_le, ← UInt32.le_iff_toNat_le, cycleCheck]
    simp
  rw [hdistance, circularDistance_le_iff (by norm_num), InWindow]
  refine exists_congr (fun offset => and_congr_right (fun _ => ?_))
  have hadd := hexpected.add_right offset
  exact ⟨fun h => h.trans hadd, fun h => h.trans hadd.symm⟩

instance (cycleTimeNano : UInt32) (last received : UInt16) :
    Decidable (InWindow cycleTimeNano last received) :=
  decidable_of_iff _ (cycleCheck_eq_none_iff cycleTimeNano last received)

theorem toNat_divCeil_pos {a : UInt32} (b : UInt32) (ha : 0 < a.toNat) :
    0 < (divCeil a b).toNat := by
  have hlt := a.toNat_lt
  unfold divCeil
  split <;> rename_i hmod
  all_goals rw [gt_iff_lt, UInt32.lt_iff_toNat_lt, UInt32.toNat_mod] at hmod
  -- with a remainder the quotient is far from the largest number
  · have hquotient : a.toNat / b.toNat < 2 ^ 32 - 1 := by
      rcases Nat.lt_or_ge b.toNat 2 with hsmall | hbig
      · interval_cases hb : b.toNat
        · simp
        · simp [Nat.mod_one] at hmod
      · have := Nat.div_le_div_left hbig (by norm_num : 0 < 2) (a := a.toNat)
        omega
    rw [UInt32.toNat_add, UInt32.toNat_div]
    change 0 < (a.toNat / b.toNat + 1) % 2 ^ 32
    generalize a.toNat / b.toNat = quotient at hquotient ⊢
    omega
  · have hzero : a.toNat % b.toNat = 0 := Nat.eq_zero_of_not_pos hmod
    have hdivision := Nat.div_add_mod a.toNat b.toNat
    rw [UInt32.toNat_div]
    refine Nat.pos_of_ne_zero ?_
    intro hquotient
    rw [hquotient, hzero] at hdivision
    omega

theorem toNat_divCeil_of_mul {a b : UInt32} {k : ℕ} (hb : 0 < b.toNat)
    (h : a.toNat = k * b.toNat) : (divCeil a b).toNat = k := by
  have hmod : ¬ a % b > 0 := by
    rw [gt_iff_lt, UInt32.lt_iff_toNat_lt, UInt32.toNat_mod, h, Nat.mul_mod_left]
    exact lt_irrefl 0
  rw [divCeil, if_neg hmod, UInt32.toNat_div, h, Nat.mul_div_cancel _ hb]

/-- What the comparison counts for a counter that is `offset` ticks off the expected one. -/
theorem cycleCheck_of_offset {cycleTimeNano : UInt32} {last received : UInt16} {offset : ℤ}
    (h : (received.toNat : ℤ) ≡
      last.toNat + (ticksPerCycle cycleTimeNano).toNat + offset [ZMOD 65536])
    (hlow : -65536 < 2 * offset) (hhigh : 2 * offset ≤ 65536) :
    (|offset| ≤ (toleranceTicks cycleTimeNano).toNat ∧
      cycleCheck cycleTimeNano last received = none) ∨
    ((toleranceTicks cycleTimeNano).toNat < offset ∧ ∃ forward : UInt32,
      (forward.toNat : ℤ) = offset ∧
      cycleCheck cycleTimeNano last received =
        some (divCeil forward (ticksPerCycle cycleTimeNano))) ∨
    ((toleranceTicks cycleTimeNano).toNat < -offset ∧
      cycleCheck cycleTimeNano last received = some 1) := by
  have hoffset := h.trans
    ((expected_modEq last (ticksPerCycle cycleTimeNano)).symm.add_right offset)
  simp only [cycleCheck]
  generalize last + (ticksPerCycle cycleTimeNano).toUInt16 = expected at hoffset ⊢
  -- the offset is below half the ring, so its size is the distance
  have hdistance := circularDistance_eq_of_offset hoffset hlow hhigh
  have hdirection := forward_le_backward_iff hoffset hlow hhigh
  rw [← toNat_min_sub] at hdistance
  -- the code compares the two differences as `u16`
  rw [← toNat_sub_eq_emod, ← toNat_sub_eq_emod, Nat.cast_le, ← UInt32.le_iff_toNat_le] at hdirection
  by_cases hwithin : |offset| ≤ (toleranceTicks cycleTimeNano).toNat
  · refine .inl ⟨hwithin, if_neg ?_⟩
    rw [gt_iff_lt, UInt32.lt_iff_toNat_lt]
    omega
  right
  have houtside : min (received - expected).toUInt32 (expected - received).toUInt32 >
      toleranceTicks cycleTimeNano := by
    rw [gt_iff_lt, UInt32.lt_iff_toNat_lt]
    omega
  rw [if_pos houtside]
  -- late counts what is missing, early counts one
  rcases le_or_gt 0 offset with hpos | hneg
  · left
    rw [abs_of_nonneg hpos] at hwithin
    refine ⟨not_le.mp hwithin, _, ?_, congrArg some (if_pos (hdirection.mpr hpos))⟩
    rw [toNat_sub_eq_emod]
    exact emod_eq_of_offset hoffset hpos (by omega)
  · right
    rw [abs_of_neg hneg] at hwithin
    exact ⟨not_le.mp hwithin, congrArg some (if_neg (mt hdirection.mp (not_le.mpr hneg)))⟩

/-- Outside the tolerance at least one missed cycle is counted. -/
theorem cycleCheck_pos {cycleTimeNano : UInt32} {last received : UInt16} {missed : UInt32}
    (h : cycleCheck cycleTimeNano last received = some missed) : 0 < missed.toNat := by
  simp only [cycleCheck, Option.ite_none_right_eq_some, Option.some.injEq] at h
  obtain ⟨houtside, rfl⟩ := h
  split
  · refine toNat_divCeil_pos _ ?_
    rw [gt_iff_lt, UInt32.lt_iff_toNat_lt, toNat_min] at houtside
    omega
  · exact Nat.one_pos

/-! ## Two frames of one sender -/

/-- How far the second of two counters is off, when it is expected `ticks` after the first: one
more than the sender was late if its counter has started again in between. -/
theorem counterOfTicks_modEq (ticks : ℕ) {T₁ T₂ : ℕ} (hle : T₁ ≤ T₂) (hlt : T₂ < T₁ + 65535) :
    ((counterOfTicks T₂).toNat : ℤ) ≡ (counterOfTicks T₁).toNat + ticks +
      (T₂ - T₁ - ticks + if T₁ / 65535 = T₂ / 65535 then 0 else 1) [ZMOD 65536] := by
  rw [toNat_counterOfTicks, toNat_counterOfTicks, Int.ModEq]
  split <;> omega

/-- The sender's ticks of two frames are a cycle apart, up to the tolerance. -/
def SentInWindow (cycleTimeNano : UInt32) (T₁ T₂ : ℕ) : Prop :=
  T₁ < T₂ ∧ |((T₂ : ℤ) - T₁) - (ticksPerCycle cycleTimeNano).toNat| ≤
    (toleranceTicks cycleTimeNano).toNat

instance (cycleTimeNano : UInt32) (T₁ T₂ : ℕ) : Decidable (SentInWindow cycleTimeNano T₁ T₂) :=
  inferInstanceAs (Decidable (_ ∧ _))

/-- The second frame is late by the full tolerance, and the sender's counter has started again
since the first. -/
def RestartsAtEdge (cycleTimeNano : UInt32) (T₁ T₂ : ℕ) : Prop :=
  T₂ = T₁ + (ticksPerCycle cycleTimeNano).toNat + (toleranceTicks cycleTimeNano).toNat ∧
    T₁ / 65535 ≠ T₂ / 65535

instance (cycleTimeNano : UInt32) (T₁ T₂ : ℕ) : Decidable (RestartsAtEdge cycleTimeNano T₁ T₂) :=
  inferInstanceAs (Decidable (_ ∧ _))

/-- **Frames within the window.** If the tolerance is less than half the counter's range, two
frames sent one cycle apart up to the tolerance are out of the window exactly when they are
the full tolerance late and the sender's counter has started again between them. -/
theorem cycleCheck_of_sent {cycleTimeNano : UInt32}
    (htolerance : (toleranceTicks cycleTimeNano).toNat < 32768) {T₁ T₂ : ℕ}
    (hsent : SentInWindow cycleTimeNano T₁ T₂) :
    cycleCheck cycleTimeNano (counterOfTicks T₁) (counterOfTicks T₂) = none ↔
      ¬ RestartsAtEdge cycleTimeNano T₁ T₂ := by
  obtain ⟨hlt, hwindow⟩ := hsent
  have hticks := toNat_ticksPerCycle cycleTimeNano
  have htol := toNat_toleranceTicks cycleTimeNano
  rw [abs_le] at hwindow
  -- the counter restarts after 65535 ticks, the ring after 65536
  have hoffset := counterOfTicks_modEq (ticksPerCycle cycleTimeNano).toNat hlt.le
    (show T₂ < T₁ + 65535 by omega)
  obtain ⟨turn, hturn⟩ : ∃ turn : ℤ, turn = if T₁ / 65535 = T₂ / 65535 then 0 else 1 := ⟨_, rfl⟩
  rw [← hturn] at hoffset
  have hcases := cycleCheck_of_offset hoffset (by split at hturn <;> omega)
    (by split at hturn <;> omega)
  -- within, late and early; early cannot be
  rcases hcases with ⟨hwithin, hnone⟩ | ⟨hlate, forward, -, hsome⟩ | ⟨hearly, -⟩
  · refine iff_of_true hnone ?_
    rintro ⟨hfull, hrestart⟩
    rw [if_neg hrestart] at hturn
    rw [abs_le] at hwithin
    omega
  · refine iff_of_false (by simp [hsome]) (not_not.mpr ?_)
    split at hturn
    · omega
    · rename_i hrestart
      exact ⟨by omega, hrestart⟩
  · split at hturn <;> omega

/-- **Lost frames.** A single loss stays inside the tolerance. After at least two lost frames
the next one counts them exactly, if the sender's counter has not started again in between. -/
theorem cycleCheck_of_lost {cycleTimeNano : UInt32} (hcycle : 250000 ≤ cycleTimeNano.toNat)
    {k : ℕ} (hk : 1 ≤ k) (hrange : (k + 1) * (ticksPerCycle cycleTimeNano).toNat < 32768)
    {T₁ T₂ : ℕ} (hsent : T₂ = T₁ + (k + 1) * (ticksPerCycle cycleTimeNano).toNat) :
    (k = 1 → cycleCheck cycleTimeNano (counterOfTicks T₁) (counterOfTicks T₂) = none) ∧
    (2 ≤ k → T₁ / 65535 = T₂ / 65535 →
      ∃ missed : UInt32, missed.toNat = k ∧
        cycleCheck cycleTimeNano (counterOfTicks T₁) (counterOfTicks T₂) = some missed) := by
  have hticks := toNat_ticksPerCycle cycleTimeNano
  have htol := toNat_toleranceTicks cycleTimeNano
  have hsucc := Nat.add_one_mul k (ticksPerCycle cycleTimeNano).toNat
  have honce := Nat.mul_le_mul_right (ticksPerCycle cycleTimeNano).toNat hk
  have hoffset := counterOfTicks_modEq (ticksPerCycle cycleTimeNano).toNat
    (show T₁ ≤ T₂ by omega) (by omega)
  obtain ⟨turn, hturn⟩ : ∃ turn : ℤ, turn = if T₁ / 65535 = T₂ / 65535 then 0 else 1 := ⟨_, rfl⟩
  rw [← hturn] at hoffset
  -- the lost frames are the offset, up to a restart of the counter
  have hlost : (T₂ : ℤ) - T₁ - (ticksPerCycle cycleTimeNano).toNat =
      (k * (ticksPerCycle cycleTimeNano).toNat : ℕ) := by omega
  rw [hlost] at hoffset
  have hcases := cycleCheck_of_offset hoffset (by split at hturn <;> omega)
    (by split at hturn <;> omega)
  constructor
  · rintro rfl
    rcases hcases with ⟨-, hnone⟩ | ⟨hlate, -⟩ | ⟨hearly, -⟩
    · exact hnone
    · split at hturn <;> omega
    · split at hturn <;> omega
  · intro htwo hsame
    rw [if_pos hsame] at hturn
    subst hturn
    have htwice := Nat.mul_le_mul_right (ticksPerCycle cycleTimeNano).toNat htwo
    rcases hcases with ⟨hwithin, -⟩ | ⟨-, forward, hforward, hsome⟩ | ⟨hearly, -⟩
    · rw [abs_le] at hwithin
      omega
    · refine ⟨_, @toNat_divCeil_of_mul forward (ticksPerCycle cycleTimeNano) k (by omega) ?_, hsome⟩
      omega
    · omega

end TsnFieldbus
