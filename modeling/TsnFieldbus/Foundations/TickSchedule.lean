import Mathlib.Tactic

/-!
# Late Ticks

Ticks that are due at the multiples of a period and come late by less than a period, and a job
that runs at the first tick at which a number of periods has passed since it ran last.

- `elapsed_iff`: when enough time has passed between two ticks.
- `lastRun_gap`: the job runs at least every `cycles + 1` ticks.
- `on_schedule_iff`: it runs every `cycles` ticks exactly if none of the ticks it should run at is
  less late than the one before.
-/

namespace TsnFieldbus.Foundations

/-- Ticks with their latenesses. -/
structure LateTicks where
  origin : ℕ
  period : ℕ
  late : ℕ → ℕ
  late_lt : ∀ k, late k < period

namespace LateTicks

variable (ticks : LateTicks) (cycles : ℕ)

/-- When the tick comes. -/
def instant (k : ℕ) : ℕ := ticks.origin + k * ticks.period + ticks.late k

/-- The job's last run up to a tick; it runs at the first one. -/
def lastRun : ℕ → ℕ
  | 0 => 0
  | k + 1 =>
    if cycles * ticks.period ≤ ticks.instant (k + 1) - ticks.instant (lastRun k) then k + 1
    else lastRun k

/-- The job runs at the tick. -/
def Runs (k : ℕ) : Prop := ticks.lastRun cycles k = k

instance (k : ℕ) : Decidable (ticks.Runs cycles k) := inferInstanceAs (Decidable (_ = _))

/-! ## Elapsed time -/

/-- The latenesses matter only after exactly the right number of ticks. -/
theorem elapsed_iff (j n : ℕ) :
    cycles * ticks.period ≤ ticks.instant (j + (n + 1)) - ticks.instant j ↔
      cycles ≤ n ∨ (n + 1 = cycles ∧ ticks.late j ≤ ticks.late (j + (n + 1))) := by
  have hj := ticks.late_lt j
  have hk := ticks.late_lt (j + (n + 1))
  -- the lateness of both ticks is below one period
  have hsub : ticks.instant (j + (n + 1)) - ticks.instant j =
      n * ticks.period + ticks.period + ticks.late (j + (n + 1)) - ticks.late j := by
    have hmul : (j + (n + 1)) * ticks.period =
        j * ticks.period + (n * ticks.period + ticks.period) := by ring
    rw [instant, instant, hmul]
    omega
  rw [hsub]
  -- too few periods, exactly enough, or one more than needed
  rcases Nat.lt_trichotomy (n + 1) cycles with hlt | heq | hgt
  · have hmul : (n + 2) * ticks.period ≤ cycles * ticks.period := Nat.mul_le_mul_right _ hlt
    have hexpand : (n + 2) * ticks.period = n * ticks.period + 2 * ticks.period := by ring
    constructor
    · intro h
      omega
    · intro h
      omega
  · subst heq
    have hexpand : (n + 1) * ticks.period = n * ticks.period + ticks.period := by ring
    constructor
    · intro h
      exact .inr ⟨rfl, by omega⟩
    · rintro (h | ⟨-, h⟩)
      · omega
      · omega
  · have hmul : cycles * ticks.period ≤ n * ticks.period := Nat.mul_le_mul_right _ (by omega)
    constructor
    · intro _
      exact .inl (by omega)
    · intro _
      omega

/-- The elapsed time is less than a period above the number of ticks. -/
theorem elapsed_lt (j n : ℕ) :
    ticks.instant (j + n) - ticks.instant j < (n + 1) * ticks.period := by
  have hj := ticks.late_lt j
  have hk := ticks.late_lt (j + n)
  have hmul : (j + n) * ticks.period = j * ticks.period + n * ticks.period := by ring
  have hexpand : (n + 1) * ticks.period = n * ticks.period + ticks.period := by ring
  rw [instant, instant, hmul, hexpand]
  omega

/-! ## Runs of the job -/

theorem lastRun_le (k : ℕ) : ticks.lastRun cycles k ≤ k := by
  induction k with
  | zero => exact Nat.le_refl 0
  | succ k ih =>
    rw [lastRun]
    split
    · exact Nat.le_refl _
    · exact Nat.le_succ_of_le ih

theorem runs_zero : ticks.Runs cycles 0 := rfl

/-- The last run is a run. -/
theorem runs_lastRun (k : ℕ) : ticks.Runs cycles (ticks.lastRun cycles k) := by
  induction k with
  | zero => rfl
  | succ k ih =>
    by_cases hdue : cycles * ticks.period ≤
        ticks.instant (k + 1) - ticks.instant (ticks.lastRun cycles k)
    · have hrun : ticks.lastRun cycles (k + 1) = k + 1 := by rw [lastRun, if_pos hdue]
      rw [hrun]
      exact hrun
    · have hskip : ticks.lastRun cycles (k + 1) = ticks.lastRun cycles k := by
        rw [lastRun, if_neg hdue]
      rw [hskip]
      exact ih

/-- The job runs at a tick if enough time has passed since its last run. -/
theorem runs_succ_iff (k : ℕ) :
    ticks.Runs cycles (k + 1) ↔
      cycles * ticks.period ≤ ticks.instant (k + 1) - ticks.instant (ticks.lastRun cycles k) := by
  have hle := ticks.lastRun_le cycles k
  rw [Runs, lastRun]
  constructor
  · intro h
    by_contra hdue
    rw [if_neg hdue] at h
    omega
  · intro hdue
    exact if_pos hdue

theorem lastRun_succ_of_not_runs {k : ℕ} (h : ¬ ticks.Runs cycles (k + 1)) :
    ticks.lastRun cycles (k + 1) = ticks.lastRun cycles k := by
  rw [runs_succ_iff] at h
  rw [lastRun, if_neg h]

/-- A run stays behind the later last runs. -/
theorem le_lastRun {k n : ℕ} (hk : ticks.Runs cycles k) (hle : k ≤ n) :
    k ≤ ticks.lastRun cycles n := by
  induction n with
  | zero =>
    rw [Nat.le_zero.mp hle]
    exact Nat.zero_le _
  | succ n ih =>
    by_cases hruns : ticks.Runs cycles (n + 1)
    · have hrun : ticks.lastRun cycles (n + 1) = n + 1 := hruns
      omega
    · rw [ticks.lastRun_succ_of_not_runs cycles hruns]
      rcases Nat.lt_or_ge k (n + 1) with hlt | hge
      · exact ih (by omega)
      · have heq : k = n + 1 := by omega
        exact absurd (heq ▸ hk) hruns

/-- Between two runs the last run stays. -/
theorem lastRun_eq {i n : ℕ} (hi : ticks.Runs cycles i)
    (hbetween : ∀ k, i < k → k ≤ i + n → ¬ ticks.Runs cycles k) :
    ticks.lastRun cycles (i + n) = i := by
  induction n with
  | zero => exact hi
  | succ n ih =>
    rw [← Nat.add_assoc, lastRun_succ_of_not_runs]
    · exact ih (fun k hik hkn => hbetween k hik (by omega))
    · exact hbetween (i + n + 1) (by omega) (by omega)

/-- After a run the next one is due after `cycles` ticks or one more. -/
theorem runs_iff_of_lastRun {i n : ℕ} (h : ticks.lastRun cycles (i + n) = i) :
    ticks.Runs cycles (i + (n + 1)) ↔
      cycles ≤ n ∨ (n + 1 = cycles ∧ ticks.late i ≤ ticks.late (i + (n + 1))) := by
  rw [← Nat.add_assoc, runs_succ_iff, h, Nat.add_assoc]
  exact ticks.elapsed_iff cycles i n

/-- The job runs at least every `cycles + 1` ticks. -/
theorem lastRun_gap (k : ℕ) : k ≤ ticks.lastRun cycles k + cycles := by
  induction k with
  | zero => exact Nat.zero_le _
  | succ k ih =>
    by_cases hruns : ticks.Runs cycles (k + 1)
    · have hrun : ticks.lastRun cycles (k + 1) = k + 1 := hruns
      omega
    · have hle := ticks.lastRun_le cycles k
      obtain ⟨n, hn⟩ := Nat.exists_eq_add_of_le hle
      have hskip := ticks.lastRun_succ_of_not_runs cycles hruns
      have hlast : ticks.lastRun cycles (ticks.lastRun cycles k + n) = ticks.lastRun cycles k := by
        rw [← hn]
      have hiff := ticks.runs_iff_of_lastRun cycles hlast
      rw [← Nat.add_assoc, ← hn] at hiff
      have hnot := mt hiff.mpr hruns
      rw [hskip]
      omega

/-! ## On schedule -/

/-- Two runs with none in between. -/
def Consecutive (i j : ℕ) : Prop :=
  i < j ∧ ticks.Runs cycles i ∧ ticks.Runs cycles j ∧ ∀ k, i < k → k < j → ¬ ticks.Runs cycles k

variable {ticks cycles}

/-- Consecutive runs are `cycles` ticks apart, or one more after a tick that was less late. -/
theorem Consecutive.gap {i j : ℕ} (h : ticks.Consecutive cycles i j) (hcycles : 1 ≤ cycles) :
    (j = i + cycles ∧ ticks.late i ≤ ticks.late (i + cycles)) ∨
      (j = i + cycles + 1 ∧ ticks.late (i + cycles) < ticks.late i) := by
  obtain ⟨hlt, hi, hj, hbetween⟩ := h
  obtain ⟨n, rfl⟩ := Nat.exists_eq_add_of_lt hlt
  have hlast : ticks.lastRun cycles (i + n) = i :=
    ticks.lastRun_eq cycles hi (fun k hik hkn => hbetween k hik (by omega))
  rw [Nat.add_assoc] at hj ⊢
  rcases (ticks.runs_iff_of_lastRun cycles hlast).mp hj with hpast | ⟨heq, hlate⟩
  · right
    -- the job did not run at `i + cycles`
    obtain ⟨before, hbefore⟩ := Nat.exists_eq_add_of_le' hcycles
    subst hbefore
    have hskip : ¬ ticks.Runs (before + 1) (i + (before + 1)) :=
      hbetween _ (by omega) (by omega)
    have hlast' : ticks.lastRun (before + 1) (i + before) = i :=
      ticks.lastRun_eq _ hi (fun k hik hkn => hbetween k hik (by omega))
    rw [ticks.runs_iff_of_lastRun _ hlast'] at hskip
    have hgap := ticks.lastRun_gap (before + 1) (i + n)
    rw [hlast] at hgap
    have hearlier : ticks.late (i + (before + 1)) < ticks.late i := by
      by_contra hle
      exact hskip (.inr ⟨rfl, not_lt.mp hle⟩)
    exact ⟨by omega, hearlier⟩
  · left
    rw [heq] at hlate ⊢
    exact ⟨rfl, hlate⟩

/-- The next run after a run, when the ticks go on. -/
theorem exists_consecutive {i : ℕ} (hi : ticks.Runs cycles i) (hcycles : 1 ≤ cycles) :
    (ticks.late i ≤ ticks.late (i + cycles) → ticks.Consecutive cycles i (i + cycles)) ∧
      (ticks.late (i + cycles) < ticks.late i →
        ticks.Consecutive cycles i (i + cycles + 1)) := by
  obtain ⟨before, rfl⟩ := Nat.exists_eq_add_of_le' hcycles
  -- less than a cycle after a run nothing runs
  have hquiet : ∀ k, i < k → k ≤ i + before → ¬ ticks.Runs (before + 1) k := by
    intro k hik hk hruns
    induction k using Nat.strong_induction_on with
    | _ k ih =>
      obtain ⟨n, rfl⟩ := Nat.exists_eq_add_of_lt hik
      have hlast : ticks.lastRun (before + 1) (i + n) = i :=
        ticks.lastRun_eq _ hi (fun k' hik' hkn' hruns' =>
          ih k' (by omega) hik' (by omega) hruns')
      rw [Nat.add_assoc] at hruns
      rcases (ticks.runs_iff_of_lastRun _ hlast).mp hruns with h | ⟨h, -⟩
      · omega
      · omega
  have hlast : ticks.lastRun (before + 1) (i + before) = i := ticks.lastRun_eq _ hi hquiet
  -- so a full cycle later the lateness decides
  have hiff := ticks.runs_iff_of_lastRun _ hlast
  constructor
  · intro hlate
    refine ⟨by omega, hi, hiff.mpr (.inr ⟨rfl, hlate⟩), ?_⟩
    intro k hik hk
    exact hquiet k hik (by omega)
  -- otherwise that tick is skipped, and the next one runs in any case
  · intro hlate
    have hskip : ¬ ticks.Runs (before + 1) (i + (before + 1)) := by
      rw [hiff]
      omega
    have hquiet' : ∀ k, i < k → k ≤ i + (before + 1) → ¬ ticks.Runs (before + 1) k := by
      intro k hik hk
      rcases Nat.lt_or_ge k (i + (before + 1)) with hlt | hge
      · exact hquiet k hik (by omega)
      · have heq : k = i + (before + 1) := by omega
        rw [heq]
        exact hskip
    have hlast' : ticks.lastRun (before + 1) (i + (before + 1)) = i :=
      ticks.lastRun_eq _ hi hquiet'
    refine ⟨by omega, hi, ?_, fun k hik hk => hquiet' k hik (by omega)⟩
    rw [Nat.add_assoc, ticks.runs_iff_of_lastRun _ hlast']
    exact .inl (Nat.le_refl _)

/-- The run before a run. -/
theorem exists_previous {j : ℕ} (hj : ticks.Runs cycles (j + 1)) :
    ∃ i, ticks.Consecutive cycles i (j + 1) := by
  refine ⟨ticks.lastRun cycles j, Nat.lt_succ_of_le (ticks.lastRun_le cycles j),
    ticks.runs_lastRun cycles j, hj, ?_⟩
  intro k hik hk hruns
  have hle := ticks.le_lastRun cycles hruns (Nat.le_of_lt_succ hk)
  omega

/-- The job runs at a multiple of `cycles` if none of the multiples up to it is less late than the
one before. -/
theorem runs_multiple (hcycles : 1 ≤ cycles) {n : ℕ}
    (h : ∀ i < n, ticks.late (i * cycles) ≤ ticks.late ((i + 1) * cycles)) :
    ticks.Runs cycles (n * cycles) := by
  induction n with
  | zero =>
    rw [Nat.zero_mul]
    exact ticks.runs_zero cycles
  | succ n ih =>
    have hruns := ih (fun i hi => h i (Nat.lt_succ_of_lt hi))
    have hlate := h n (Nat.lt_succ_self n)
    rw [Nat.succ_mul] at hlate ⊢
    exact ((exists_consecutive hruns hcycles).1 hlate).2.2.1

/-- While none of the multiples is less late than the one before, the job runs only at them. -/
theorem exists_multiple (hcycles : 1 ≤ cycles) {count : ℕ}
    (h : ∀ i, (i + 1) * cycles + 1 < count →
      ticks.late (i * cycles) ≤ ticks.late ((i + 1) * cycles))
    {j : ℕ} (hj : ticks.Runs cycles j) (hcount : j + 1 < count) : ∃ i, j = i * cycles := by
  induction j using Nat.strong_induction_on with
  | _ j ih =>
    cases j with
    | zero => exact ⟨0, (Nat.zero_mul _).symm⟩
    | succ j =>
      obtain ⟨previous, hconsecutive⟩ := exists_previous hj
      have hlt := hconsecutive.1
      obtain ⟨i, rfl⟩ := ih previous hlt hconsecutive.2.1 (by omega)
      rcases hconsecutive.gap hcycles with ⟨heq, -⟩ | ⟨heq, hearlier⟩
      · exact ⟨i + 1, by rw [heq, Nat.succ_mul]⟩
      · have hlate := h i (by rw [Nat.succ_mul]; omega)
        rw [Nat.succ_mul] at hlate
        exact absurd hlate (not_le.mpr hearlier)

/-- **Every `cycles` ticks.** Among the first `count` ticks consecutive runs are `cycles` ticks
apart exactly if, wherever one more tick follows, none of the ticks at the multiples of `cycles`
is less late than the one before. -/
theorem on_schedule_iff (hcycles : 1 ≤ cycles) (count : ℕ) :
    (∀ i j, j < count → ticks.Consecutive cycles i j → j = i + cycles) ↔
      ∀ i, (i + 1) * cycles + 1 < count →
        ticks.late (i * cycles) ≤ ticks.late ((i + 1) * cycles) := by
  constructor
  · intro h i
    induction i using Nat.strong_induction_on with
    | _ i ih =>
      intro hi
      have hruns : ticks.Runs cycles (i * cycles) := by
        apply runs_multiple hcycles
        intro k hk
        have hmul : (k + 1) * cycles ≤ i * cycles := Nat.mul_le_mul_right _ hk
        apply ih k hk
        rw [Nat.succ_mul] at hi
        omega
      rw [Nat.succ_mul] at hi ⊢
      -- a tick that is less late is passed over
      by_contra hearlier
      have hskip := (exists_consecutive hruns hcycles).2 (not_le.mp hearlier)
      have heq := h _ _ hi hskip
      omega
  · intro h i j hj hconsecutive
    have hlt := hconsecutive.1
    obtain ⟨k, rfl⟩ := exists_multiple hcycles h hconsecutive.2.1 (by omega)
    rcases hconsecutive.gap hcycles with ⟨heq, -⟩ | ⟨heq, hearlier⟩
    · exact heq
    · have hlate := h k (by rw [Nat.succ_mul]; omega)
      rw [Nat.succ_mul] at hlate
      exact absurd hlate (not_le.mpr hearlier)

end LateTicks

end TsnFieldbus.Foundations
