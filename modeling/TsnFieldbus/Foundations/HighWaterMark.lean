import Mathlib.Tactic

/-!
# High-Water Marks

The receiver side of a replay filter: it remembers one value, the mark, and takes an
offered value exactly when that value lies above the mark, which it then becomes.

- `offer` / `offers`: the filter on one value and on a sequence of values.
- `offer_accepts_iff_above_all`: a value is taken if and only if it exceeds the initial
  mark and everything offered before it, in whatever order, with whatever repetition.
- `Tracks`: the invariant a protocol keeps when it records the values it took.
-/

namespace TsnFieldbus.Foundations

namespace HighWaterMark

variable {α : Type*} [LinearOrder α]

/-! ## The filter -/

/-- The filter on one offered value: the new mark. -/
def offer (mark q : α) : α := if mark < q then q else mark

/-- The mark after a sequence of offers. -/
def offers (mark : α) (qs : List α) : α := qs.foldl offer mark

@[simp] theorem offers_nil (mark : α) : offers mark [] = mark := rfl

theorem offers_concat (mark : α) (qs : List α) (q : α) :
    offers mark (qs ++ [q]) = offer (offers mark qs) q := by
  simp only [offers, List.foldl_append, List.foldl_cons, List.foldl_nil]

theorem offer_eq_max (mark q : α) : offer mark q = max mark q := by
  unfold offer
  split
  · rename_i h
    exact (max_eq_right h.le).symm
  · rename_i h
    exact (max_eq_left (not_lt.mp h)).symm

/-- The mark lies below a value if and only if everything it has seen does. -/
theorem offers_lt_iff (mark : α) (qs : List α) (q : α) :
    offers mark qs < q ↔ mark < q ∧ ∀ p ∈ qs, p < q := by
  induction qs generalizing mark with
  | nil => simp
  | cons p qs ih =>
    have hfold : offers mark (p :: qs) = offers (offer mark p) qs := rfl
    rw [hfold, ih, offer_eq_max, max_lt_iff]
    simp only [List.mem_cons, forall_eq_or_imp, and_assoc]

/-- A value is taken exactly when it exceeds the initial mark and all earlier offers. -/
theorem offer_accepts_iff_above_all (mark : α) (qs : List α) (q : α) (h : mark < q) :
    offers mark qs < q ↔ ∀ p ∈ qs, p < q := by
  rw [offers_lt_iff]
  exact ⟨fun hq => hq.2, fun hq => ⟨h, hq⟩⟩

/-! ## Recorded acceptances -/

/-- `taken` lists, oldest first, values the filter took on its way to `mark`. -/
structure Tracks (mark : α) (taken : List α) : Prop where
  increasing : taken.Pairwise (· < ·)
  le_mark : ∀ q ∈ taken, q ≤ mark

namespace Tracks

theorem nil (mark : α) : Tracks mark [] := ⟨List.Pairwise.nil, by simp⟩

/-- Taking a value above the mark keeps the record increasing. -/
theorem take {mark q : α} {taken : List α} (h : Tracks mark taken) (hq : mark < q) :
    Tracks q (taken ++ [q]) := by
  refine ⟨?_, ?_⟩
  · rw [List.pairwise_append]
    refine ⟨h.increasing, List.pairwise_singleton _ _, ?_⟩
    intro p hp r hr
    rw [List.mem_singleton.mp hr]
    exact (h.le_mark p hp).trans_lt hq
  · intro p hp
    rcases List.mem_append.mp hp with hp | hp
    · exact (h.le_mark p hp).trans hq.le
    · exact (List.mem_singleton.mp hp).le

theorem nodup {mark : α} {taken : List α} (h : Tracks mark taken) : taken.Nodup :=
  h.increasing.imp (fun hlt => ne_of_lt hlt)

end Tracks

end HighWaterMark

end TsnFieldbus.Foundations
