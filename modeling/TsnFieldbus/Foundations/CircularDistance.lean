import Mathlib.Data.Int.ModEq
import Mathlib.Tactic

/-!
# Distance Around a Cycle

A counter that wraps around after `n` values says where it stands only modulo `n`. The
distance of two of its values is the shorter way around the cycle.

- `circularDistance_le_iff`: being close is having a small offset.
- `circularDistance_eq_of_offset`: an offset of at most half the cycle is the distance.
-/

namespace TsnFieldbus.Foundations

variable {n : ℕ} {a b d : ℤ}

/-- The shorter way between two counter values. -/
def circularDistance (n : ℕ) (a b : ℤ) : ℤ := min ((a - b) % n) ((b - a) % n)

/-- The way forward is the offset, when that is less than a whole cycle. -/
theorem emod_eq_of_offset (h : a ≡ b + d [ZMOD n]) (hpos : 0 ≤ d) (hlt : d < n) :
    (a - b) % n = d := by
  have hsub : a - b ≡ d [ZMOD n] := by
    have := h.sub_right b
    rwa [add_sub_cancel_left] at this
  rw [hsub.eq, Int.emod_eq_of_lt hpos hlt]

/-- Looking back, the offset changes its sign. -/
theorem offset_symm (h : a ≡ b + d [ZMOD n]) : b ≡ a + -d [ZMOD n] := by
  have := (h.add_right (-d)).symm
  rwa [add_neg_cancel_right] at this

/-- The way forward is never longer than a forward offset. -/
theorem emod_le_of_offset (h : a ≡ b + d [ZMOD n]) (hpos : 0 ≤ d) : (a - b) % n ≤ d := by
  have hsub : a - b ≡ d [ZMOD n] := by
    have := h.sub_right b
    rwa [add_sub_cancel_left] at this
  rw [hsub.eq]
  lift d to ℕ using hpos
  exact_mod_cast Nat.mod_le d n

/-- Close values are those with a small offset, forward or backward. -/
theorem circularDistance_le_iff (hn : 0 < n) {t : ℤ} :
    circularDistance n a b ≤ t ↔ ∃ d : ℤ, |d| ≤ t ∧ a ≡ b + d [ZMOD n] := by
  have hn' : (n : ℤ) ≠ 0 := by exact_mod_cast hn.ne'
  constructor
  · intro h
    rcases min_le_iff.mp h with hforward | hbackward
    · refine ⟨(a - b) % n, ?_, ?_⟩
      · rwa [abs_of_nonneg (Int.emod_nonneg _ hn')]
      · have := (Int.mod_modEq (a - b) n).symm.add_left b
        rwa [add_sub_cancel] at this
    · refine ⟨-((b - a) % n), ?_, ?_⟩
      · rwa [abs_neg, abs_of_nonneg (Int.emod_nonneg _ hn')]
      · have := (Int.mod_modEq (b - a) n).symm.sub_left b
        rwa [sub_sub_cancel] at this
  · rintro ⟨d, hd, hoffset⟩
    rcases le_total 0 d with hpos | hneg
    · rw [abs_of_nonneg hpos] at hd
      exact min_le_iff.mpr (.inl ((emod_le_of_offset hoffset hpos).trans hd))
    · rw [abs_of_nonpos hneg] at hd
      exact min_le_iff.mpr (.inr ((emod_le_of_offset (offset_symm hoffset)
        (neg_nonneg.mpr hneg)).trans hd))

/-- The way forward past a backward offset is the rest of the cycle. -/
theorem emod_eq_of_offset_neg (h : a ≡ b + d [ZMOD n]) (hneg : d < 0) (hlt : -d ≤ n) :
    (a - b) % n = n + d := by
  refine emod_eq_of_offset ?_ (by omega) (by omega)
  calc a ≡ b + d [ZMOD n] := h
    _ ≡ b + (n + d) [ZMOD n] := by
      refine Int.ModEq.add_left b ?_
      rw [Int.modEq_iff_dvd]
      exact ⟨1, by ring⟩

/-- An offset of at most half the cycle is the distance. -/
theorem circularDistance_eq_of_offset (h : a ≡ b + d [ZMOD n]) (hlow : -n < 2 * d)
    (hhigh : 2 * d ≤ n) : circularDistance n a b = |d| := by
  rcases lt_trichotomy d 0 with hneg | rfl | hpos
  · rw [abs_of_neg hneg, circularDistance, emod_eq_of_offset_neg h hneg (by omega),
      emod_eq_of_offset (offset_symm h) (by omega) (by omega)]
    omega
  · rw [circularDistance, emod_eq_of_offset h le_rfl (by omega),
      emod_eq_of_offset (offset_symm h) (by omega) (by omega)]
    rfl
  · rw [abs_of_pos hpos, circularDistance, emod_eq_of_offset h hpos.le (by omega),
      emod_eq_of_offset_neg (offset_symm h) (by omega) (by omega)]
    omega

/-- The way forward is the shorter one exactly for a forward offset. -/
theorem forward_le_backward_iff (h : a ≡ b + d [ZMOD n]) (hlow : -n < 2 * d)
    (hhigh : 2 * d ≤ n) : (a - b) % n ≤ (b - a) % n ↔ 0 ≤ d := by
  rcases lt_trichotomy d 0 with hneg | rfl | hpos
  · rw [emod_eq_of_offset_neg h hneg (by omega),
      emod_eq_of_offset (offset_symm h) (by omega) (by omega)]
    omega
  · rw [emod_eq_of_offset h le_rfl (by omega),
      emod_eq_of_offset (offset_symm h) (by omega) (by omega)]
    simp
  · rw [emod_eq_of_offset h hpos.le (by omega),
      emod_eq_of_offset_neg (offset_symm h) (by omega) (by omega)]
    omega

end TsnFieldbus.Foundations
