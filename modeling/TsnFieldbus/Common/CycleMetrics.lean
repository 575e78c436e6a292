import TsnFieldbus.Common.L2Utils
import Mathlib.Algebra.Order.BigOperators.Group.List

/-!
# Cycle Metrics

What a fresh `CycleMetrics` answers after a run of `record` calls. The sum is held in 128 bits
and the count in 64, so the sum cannot saturate before the count does.

- `Recorded`: sum and count are those of the recorded values.
- `values_recordAll`: the answer is the minimum, the maximum and the mean rounded down.
-/

namespace TsnFieldbus

namespace CycleMetrics

/-- A fresh metrics object after the given calls of `record`. -/
def recordAll (values : List UInt64) : CycleMetrics := values.foldl record default

theorem recordAll_concat (values : List UInt64) (cycleNs : UInt64) :
    recordAll (values ++ [cycleNs]) = (recordAll values).record cycleNs := by
  rw [recordAll, List.foldl_concat]
  rfl

/-! ## Extrema -/

theorem minNs_foldl_record {metrics : CycleMetrics} {minNs : UInt64}
    (h : metrics.minNs = some minNs) (values : List UInt64) :
    (values.foldl record metrics).minNs = some (values.foldl min minNs) := by
  induction values generalizing metrics minNs with
  | nil => exact h
  | cons cycleNs values ih =>
    apply ih
    simp only [record, h, Option.elim_some]

theorem maxNs_foldl_record {metrics : CycleMetrics} {maxNs : UInt64}
    (h : metrics.maxNs = some maxNs) (values : List UInt64) :
    (values.foldl record metrics).maxNs = some (values.foldl max maxNs) := by
  induction values generalizing metrics maxNs with
  | nil => exact h
  | cons cycleNs values ih =>
    apply ih
    simp only [record, h, Option.elim_some]

/-- The first value starts both extrema. -/
theorem minNs_recordAll (values : List UInt64) : (recordAll values).minNs = values.min? := by
  cases values with
  | nil => rfl
  | cons cycleNs values => exact minNs_foldl_record rfl values

theorem maxNs_recordAll (values : List UInt64) : (recordAll values).maxNs = values.max? := by
  cases values with
  | nil => rfl
  | cons cycleNs values => exact maxNs_foldl_record rfl values

/-- `max` on `u64` is the larger of the two. -/
instance : Std.LawfulOrderMax UInt64 where
  max_eq_or x y := by
    change (if x ≤ y then y else x) = x ∨ (if x ≤ y then y else x) = y
    split
    · exact .inr rfl
    · exact .inl rfl
  max_le_iff x y bound := by
    change (if x ≤ y then y else x) ≤ bound ↔ x ≤ bound ∧ y ≤ bound
    split
    · rename_i hle
      exact ⟨fun h => ⟨UInt64.le_trans hle h, h⟩, And.right⟩
    · rename_i hnle
      exact ⟨fun h => ⟨h, UInt64.le_trans (UInt64.le_of_lt (UInt64.not_le.mp hnle)) h⟩, And.left⟩

/-! ## Sum and count -/

/-- Sum and count are those of the values; neither has saturated. -/
structure Recorded (metrics : CycleMetrics) (values : List UInt64) : Prop where
  total : metrics.totalNs = (values.map UInt64.toNat).sum
  count : metrics.samples.toNat = values.length

theorem sum_toNat_le (values : List UInt64) :
    (values.map UInt64.toNat).sum ≤ values.length * (2 ^ 64 - 1) := by
  have hbound := List.sum_le_card_nsmul (values.map UInt64.toNat) (2 ^ 64 - 1)
    (fun number hnumber => by
      obtain ⟨value, -, rfl⟩ := List.mem_map.mp hnumber
      exact Nat.le_pred_of_lt value.toNat_lt)
  rwa [List.length_map, smul_eq_mul] at hbound

/-- While the count fits, neither addition of the next call saturates. -/
theorem Recorded.fits {metrics : CycleMetrics} {values : List UInt64}
    (h : metrics.Recorded values) (hlen : values.length + 1 < 2 ^ 64) (cycleNs : UInt64) :
    metrics.totalNs + cycleNs.toNat < 2 ^ 128 ∧ metrics.samples.toNat + 1 < 2 ^ 64 := by
  have hsum := sum_toNat_le values
  have hlt := cycleNs.toNat_lt
  have hmul : values.length * (2 ^ 64 - 1) ≤ (2 ^ 64 - 2) * (2 ^ 64 - 1) :=
    Nat.mul_le_mul_right _ (by omega)
  rw [h.total, h.count]
  refine ⟨?_, hlen⟩
  omega

theorem Recorded.record {metrics : CycleMetrics} {values : List UInt64}
    (h : metrics.Recorded values) (hlen : values.length + 1 < 2 ^ 64) (cycleNs : UInt64) :
    (metrics.record cycleNs).Recorded (values ++ [cycleNs]) := by
  obtain ⟨htotal, hcount⟩ := h.fits hlen cycleNs
  constructor
  · rw [h.total] at htotal
    simp only [CycleMetrics.record, h.total, List.map_append, List.sum_append,
      List.map_cons, List.map_nil, List.sum_cons, List.sum_nil, Nat.add_zero]
    exact min_eq_left (by omega)
  · simp only [CycleMetrics.record, Foundations.toNat_saturatingAdd, UInt64.toNat_one,
      List.length_append, List.length_cons, List.length_nil, ← h.count]
    omega

/-- Fewer than `2 ^ 64` calls add exactly. -/
theorem recorded_recordAll (values : List UInt64) (hlen : values.length < 2 ^ 64) :
    (recordAll values).Recorded values := by
  induction values using List.reverseRecOn with
  | nil => exact ⟨rfl, rfl⟩
  | append_singleton values cycleNs ih =>
    rw [List.length_append, List.length_singleton] at hlen
    rw [recordAll_concat]
    exact (ih (by omega)).record hlen cycleNs

/-! ## Mean -/

/-- The sum lies between the extremes times the count. -/
theorem length_mul_le_sum {values : List UInt64} {bound : UInt64}
    (h : ∀ value ∈ values, bound ≤ value) :
    values.length * bound.toNat ≤ (values.map UInt64.toNat).sum := by
  have hbound := List.card_nsmul_le_sum (values.map UInt64.toNat) bound.toNat
    (fun number hnumber => by
      obtain ⟨value, hvalue, rfl⟩ := List.mem_map.mp hnumber
      exact UInt64.le_iff_toNat_le.mp (h value hvalue))
  rwa [List.length_map, smul_eq_mul] at hbound

theorem sum_le_length_mul {values : List UInt64} {bound : UInt64}
    (h : ∀ value ∈ values, value ≤ bound) :
    (values.map UInt64.toNat).sum ≤ values.length * bound.toNat := by
  have hbound := List.sum_le_card_nsmul (values.map UInt64.toNat) bound.toNat
    (fun number hnumber => by
      obtain ⟨value, hvalue, rfl⟩ := List.mem_map.mp hnumber
      exact UInt64.le_iff_toNat_le.mp (h value hvalue))
  rwa [List.length_map, smul_eq_mul] at hbound

/-- The quotient fits into the 64 bits it is narrowed to. -/
theorem Recorded.mean_lt {metrics : CycleMetrics} {values : List UInt64}
    (h : metrics.Recorded values) : metrics.totalNs / metrics.samples.toNat < 2 ^ 64 := by
  rw [h.total, h.count]
  apply Nat.lt_of_le_of_lt (Nat.div_le_of_le_mul (sum_toNat_le values))
  decide

theorem Recorded.averageNs_eq {metrics : CycleMetrics} {values : List UInt64}
    (h : metrics.Recorded values) (hne : values ≠ []) :
    ∃ averageNs, metrics.averageNs = some averageNs ∧
      averageNs.toNat = (values.map UInt64.toNat).sum / values.length := by
  have hsamples : metrics.samples ≠ 0 := by
    intro hzero
    have hcount := h.count
    rw [hzero] at hcount
    exact hne (List.length_eq_zero_iff.mp hcount.symm)
  refine ⟨_, if_neg hsamples, ?_⟩
  rw [UInt64.toNat_ofNat_of_lt' h.mean_lt, h.total, h.count]

/-- The three answers together, for at least one value. -/
theorem exists_values {values : List UInt64} (hlen : values.length < 2 ^ 64) (hne : values ≠ []) :
    ∃ minNs maxNs averageNs, (recordAll values).values = some (minNs, maxNs, averageNs) ∧
      values.min? = some minNs ∧ values.max? = some maxNs ∧
      averageNs.toNat = (values.map UInt64.toNat).sum / values.length := by
  obtain ⟨averageNs, haverage, hmean⟩ := (recorded_recordAll values hlen).averageNs_eq hne
  obtain ⟨minNs, hmin⟩ := Option.ne_none_iff_exists'.mp (mt List.min?_eq_none_iff.mp hne)
  obtain ⟨maxNs, hmax⟩ := Option.ne_none_iff_exists'.mp (mt List.max?_eq_none_iff.mp hne)
  refine ⟨minNs, maxNs, averageNs, ?_, hmin, hmax, hmean⟩
  rw [CycleMetrics.values, minNs_recordAll, maxNs_recordAll, hmin, hmax, haverage]

/-- The rounded mean lies between the extremes. -/
theorem mean_mem_Icc {values : List UInt64} {minNs maxNs averageNs : UInt64} (hne : values ≠ [])
    (hmin : ∀ value ∈ values, minNs ≤ value) (hmax : ∀ value ∈ values, value ≤ maxNs)
    (hmean : averageNs.toNat = (values.map UInt64.toNat).sum / values.length) :
    minNs ≤ averageNs ∧ averageNs ≤ maxNs := by
  have hpos : 0 < values.length := List.length_pos_iff.mpr hne
  rw [UInt64.le_iff_toNat_le, UInt64.le_iff_toNat_le, hmean]
  constructor
  · rw [Nat.le_div_iff_mul_le hpos, Nat.mul_comm]
    exact length_mul_le_sum hmin
  · exact Nat.div_le_of_le_mul (sum_le_length_mul hmax)

/-- After fewer than `2 ^ 64` values `values` answers their minimum, maximum and mean, and
nothing on the way saturates or is cut off. -/
theorem values_recordAll (values : List UInt64) (hlen : values.length < 2 ^ 64) :
    ((recordAll values).values = none ↔ values = []) ∧
    (∀ minNs maxNs averageNs, (recordAll values).values = some (minNs, maxNs, averageNs) →
      (minNs ∈ values ∧ ∀ value ∈ values, minNs ≤ value) ∧
      (maxNs ∈ values ∧ ∀ value ∈ values, value ≤ maxNs) ∧
      averageNs.toNat = (values.map UInt64.toNat).sum / values.length ∧
      minNs ≤ averageNs ∧ averageNs ≤ maxNs) ∧
    (∀ earlier cycleNs later, values = earlier ++ cycleNs :: later →
      (recordAll earlier).totalNs + cycleNs.toNat < 2 ^ 128 ∧
      (recordAll earlier).samples.toNat + 1 < 2 ^ 64) ∧
    (recordAll values).totalNs / (recordAll values).samples.toNat < 2 ^ 64 := by
  -- a sample always gives values
  have hnone : (recordAll values).values = none ↔ values = [] := by
    constructor
    · intro hnone
      by_contra hne
      obtain ⟨minNs, maxNs, averageNs, hsome, -⟩ := exists_values hlen hne
      cases hnone.symm.trans hsome
    · intro hnil
      rw [hnil]
      rfl
  refine ⟨hnone, ?_, ?_, (recorded_recordAll values hlen).mean_lt⟩
  · intro minNs maxNs averageNs hvalues
    have hne : values ≠ [] := by
      intro hnil
      cases (hnone.mpr hnil).symm.trans hvalues
    obtain ⟨minNs', maxNs', averageNs', hsome, hmin, hmax, hmean⟩ := exists_values hlen hne
    -- the reported triple is the one with the least, the greatest and the mean
    cases hvalues.symm.trans hsome
    obtain ⟨hminMem, hminLe⟩ := List.min?_eq_some_iff.mp hmin
    obtain ⟨hmaxMem, hleMax⟩ := List.max?_eq_some_iff.mp hmax
    exact ⟨⟨hminMem, hminLe⟩, ⟨hmaxMem, hleMax⟩, hmean,
      mean_mem_Icc hne hminLe hleMax hmean⟩
  -- every sum on the way fits
  · rintro earlier cycleNs later rfl
    rw [List.length_append, List.length_cons] at hlen
    exact (recorded_recordAll earlier (by omega)).fits (by omega) cycleNs

/-- Two cycles around the target. -/
theorem values_recordAll_two :
    [999000, 1001001].length < 2 ^ 64 ∧
      (recordAll [999000, 1001001]).values = some (999000, 1001001, 1000000) ∧
      (1000000 : UInt64).toNat = ([999000, 1001001].map UInt64.toNat).sum / 2 :=
  ⟨by decide, by decide,
    ((values_recordAll [999000, 1001001] (by decide)).2.1 999000 1001001 1000000
      (by decide)).2.2.1⟩

end CycleMetrics

end TsnFieldbus
