import TsnFieldbus.Common.SenderLocals
import Mathlib.Algebra.GCDMonoid.Multiset
import Mathlib.Algebra.GCDMonoid.Nat

/-!
# Base Cycle of the Senders

`gcd_u32` and `gcd_all` compute the greatest common divisor, and the period of the senders' ticks
is the largest one that every output stream's cycle time is a multiple of.

- `toNat_gcdU32`: the loop of `gcd_u32` computes `Nat.gcd`.
- `toNat_gcdAll`: `gcd_all` is the gcd of the list.
- `tickPeriod_spec`: the base cycle divides every cycle time and is a multiple of every other
  number that does.
-/

namespace TsnFieldbus

/-! ## Euclid's loop -/

/-- Each pass of the loop keeps the gcd; the remainder ends at zero. -/
theorem toNat_gcdU32 (a b : UInt32) : (gcdU32 a b).toNat = a.toNat.gcd b.toNat := by
  induction a, b using gcdU32.induct with
  | case1 a =>
    rw [gcdU32, if_pos rfl, UInt32.toNat_zero, Nat.gcd_zero_right]
  | case2 a b hb ih =>
    rw [gcdU32, if_neg hb, ih, UInt32.toNat_mod]
    calc b.toNat.gcd (a.toNat % b.toNat)
        = (a.toNat % b.toNat).gcd b.toNat := Nat.gcd_comm _ _
      _ = b.toNat.gcd a.toNat := (Nat.gcd_rec _ _).symm
      _ = a.toNat.gcd b.toNat := Nat.gcd_comm _ _

theorem toNat_foldl_gcdU32 (first : UInt32) (values : List UInt32) :
    (values.foldl gcdU32 first).toNat = (values.map UInt32.toNat).foldl Nat.gcd first.toNat := by
  induction values generalizing first with
  | nil => rfl
  | cons value values ih => rw [List.foldl_cons, ih, toNat_gcdU32, List.map_cons, List.foldl_cons]

/-- `gcd_all` is the gcd of the list, as Mathlib defines it. -/
theorem toNat_gcdAll (values : List UInt32) :
    (gcdAll values).toNat = Multiset.gcd (values.map UInt32.toNat : List ℕ) := by
  have hfold (numbers : List ℕ) : Multiset.gcd (numbers : Multiset ℕ) = numbers.foldl Nat.gcd 0 :=
    Multiset.coe_fold_l _ _ _
  rw [hfold]
  cases values with
  | nil => rfl
  | cons value values =>
    rw [gcdAll, toNat_foldl_gcdU32, List.map_cons, List.foldl_cons, Nat.gcd_zero_left]

/-- The common divisors of the list are the divisors of its gcd. -/
theorem dvd_toNat_gcdAll (divisor : ℕ) (values : List UInt32) :
    divisor ∣ (gcdAll values).toNat ↔ ∀ value ∈ values, divisor ∣ value.toNat := by
  rw [toNat_gcdAll, Multiset.dvd_gcd]
  constructor
  · intro h value hvalue
    exact h _ (Multiset.mem_coe.mpr (List.mem_map_of_mem hvalue))
  · intro h number hnumber
    obtain ⟨value, hvalue, rfl⟩ := List.mem_map.mp (Multiset.mem_coe.mp hnumber)
    exact h value hvalue

theorem gcdAll_dvd {value : UInt32} {values : List UInt32} (h : value ∈ values) :
    (gcdAll values).toNat ∣ value.toNat :=
  (dvd_toNat_gcdAll _ values).mp (dvd_refl _) value h

/-- Zeros in the list do not change the gcd. -/
theorem gcdAll_filter_pos (values : List UInt32) :
    gcdAll (values.filter (· > 0)) = gcdAll values := by
  rw [← UInt32.toNat_inj]
  apply Nat.dvd_antisymm
  · rw [dvd_toNat_gcdAll]
    intro value hvalue
    by_cases hpos : value > 0
    · exact gcdAll_dvd (List.mem_filter.mpr ⟨hvalue, decide_eq_true hpos⟩)
    · have hzero : value.toNat = 0 := Nat.eq_zero_of_not_pos hpos
      rw [hzero]
      exact dvd_zero _
  · rw [dvd_toNat_gcdAll]
    intro value hvalue
    exact gcdAll_dvd (List.mem_filter.mp hvalue).1

/-- The gcd of positive numbers, if there is one, is positive. -/
theorem toNat_gcdAll_pos {value : UInt32} {values : List UInt32} (h : value ∈ values)
    (hpos : 0 < value.toNat) : 0 < (gcdAll values).toNat :=
  Nat.pos_of_dvd_of_pos (gcdAll_dvd h) hpos

/-! ## The period of the ticks -/

/-- The cycle times that the base cycle is computed from. -/
def positiveCycleTimes (streams : List StreamConfig) : List UInt32 :=
  (streams.map (·.cycleTimeNano)).filter (· > 0)

theorem mem_positiveCycleTimes {streams : List StreamConfig} {cycleTime : UInt32} :
    cycleTime ∈ positiveCycleTimes streams ↔
      0 < cycleTime.toNat ∧ ∃ stream ∈ streams, stream.cycleTimeNano = cycleTime := by
  rw [positiveCycleTimes, List.mem_filter, List.mem_map, decide_eq_true_iff, and_comm]
  exact Iff.rfl

/-- The base cycle divides every cycle time that is not zero. -/
theorem tickPeriod_dvd {streams : List StreamConfig} {period : UInt32}
    (hperiod : tickPeriod streams = some period) {stream : StreamConfig}
    (hstream : stream ∈ streams) (hpos : 0 < stream.cycleTimeNano.toNat) :
    period.toNat ∣ stream.cycleTimeNano.toNat := by
  have hmem : stream.cycleTimeNano ∈ positiveCycleTimes streams :=
    mem_positiveCycleTimes.mpr ⟨hpos, stream, hstream, rfl⟩
  rw [tickPeriod_eq, Option.some.injEq] at hperiod
  rw [← hperiod, toNat_max_one]
  change max (gcdAll (positiveCycleTimes streams)).toNat 1 ∣ _
  rw [max_eq_left (toNat_gcdAll_pos hmem hpos)]
  exact gcdAll_dvd hmem

/-- `gcd_all` computes the greatest common divisor of any list. The senders' ticks have the
greatest period at which every positive cycle time is a whole number of ticks. -/
theorem tickPeriod_spec :
    (∀ values : List UInt32,
      gcdAllChecked values = some (gcdAll values) ∧
      (gcdAll values).toNat = Multiset.gcd (values.map UInt32.toNat : List ℕ) ∧
      (∀ divisor : ℕ,
        divisor ∣ (gcdAll values).toNat ↔ ∀ value ∈ values, divisor ∣ value.toNat) ∧
      gcdAll (values.filter (· > 0)) = gcdAll values) ∧
    gcdAll [] = 0 ∧
    ∀ streams : List StreamConfig, ∃ period, tickPeriod streams = some period ∧
      0 < period.toNat ∧
      (∀ stream ∈ streams, 0 < stream.cycleTimeNano.toNat →
        period.toNat ∣ stream.cycleTimeNano.toNat) ∧
      ((∃ stream ∈ streams, 0 < stream.cycleTimeNano.toNat) → ∀ divisor : ℕ,
        (∀ stream ∈ streams, 0 < stream.cycleTimeNano.toNat →
          divisor ∣ stream.cycleTimeNano.toNat) →
        divisor ∣ period.toNat) := by
  refine ⟨?_, rfl, ?_⟩
  -- `gcd_all` of any list
  · intro values
    exact ⟨gcdAllChecked_eq values, toNat_gcdAll values, fun d => dvd_toNat_gcdAll d values,
      gcdAll_filter_pos values⟩
  · intro streams
    have hperiod := tickPeriod_eq streams
    refine ⟨_, hperiod, ?_, fun stream hstream hpos => tickPeriod_dvd hperiod hstream hpos, ?_⟩
    · rw [toNat_max_one]
      exact Nat.lt_of_lt_of_le Nat.one_pos (le_max_right _ _)
    -- with one positive cycle time the maximum with 1 does nothing
    · rintro ⟨stream, hstream, hpos⟩ divisor hdivides
      have hmem : stream.cycleTimeNano ∈ positiveCycleTimes streams :=
        mem_positiveCycleTimes.mpr ⟨hpos, stream, hstream, rfl⟩
      rw [toNat_max_one]
      change divisor ∣ max (gcdAll (positiveCycleTimes streams)).toNat 1
      rw [max_eq_left (toNat_gcdAll_pos hmem hpos), dvd_toNat_gcdAll]
      intro cycleTime hcycleTime
      obtain ⟨hpos', other, hother, rfl⟩ := mem_positiveCycleTimes.mp hcycleTime
      exact hdivides other hother hpos'

example : gcdAll [12, 18, 24] = 6 ∧ gcdAll [7, 11] = 1 := by
  constructor <;> simp [gcdAll, gcdU32]

end TsnFieldbus
