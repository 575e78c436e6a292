import Mathlib.Data.Vector.Defs
import Mathlib.Tactic

/-!
# Checked Access to Lists

The accesses to a slice that stop the program when they leave its bounds, as partial
functions: `none` is the access that fails. An access whose bounds are met is the plain
list operation. Other operations that panic, such as a division by zero, are treated alike.
-/

namespace TsnFieldbus.Foundations

variable {α : Type*}

/-- The elements from `start` up to `stop`, when both lie in the list in this order. -/
def checkedSlice (l : List α) (start stop : ℕ) : Option (List α) :=
  if start ≤ stop ∧ stop ≤ l.length then some ((l.drop start).take (stop - start)) else none

theorem checkedSlice_eq {l : List α} {start stop : ℕ} (hle : start ≤ stop)
    (hstop : stop ≤ l.length) :
    checkedSlice l start stop = some ((l.drop start).take (stop - start)) :=
  if_pos ⟨hle, hstop⟩

/-- The elements from the front. -/
theorem checkedSlice_take {l : List α} {stop : ℕ} (hstop : stop ≤ l.length) :
    checkedSlice l 0 stop = some (l.take stop) :=
  checkedSlice_eq (Nat.zero_le _) hstop

/-- The elements up to the end. -/
theorem checkedSlice_drop {l : List α} {start : ℕ} (hstart : start ≤ l.length) :
    checkedSlice l start l.length = some (l.drop start) := by
  rw [checkedSlice_eq hstart (Nat.le_refl _), ← List.length_drop, List.take_length]

/-- A slice copied into an array of fixed size, which must be its size. -/
def checkedCopy (n : ℕ) (source : List α) : Option (List.Vector α n) :=
  if h : source.length = n then some ⟨source, h⟩ else none

theorem checkedCopy_eq {n : ℕ} {source : List α} (h : source.length = n) :
    checkedCopy n source = some ⟨source, h⟩ :=
  dif_pos h

/-- A slice copied over the elements from `start` up to `stop`, of which there must be as many. -/
def checkedOverwrite (l : List α) (start stop : ℕ) (source : List α) : Option (List α) :=
  if start ≤ stop ∧ stop ≤ l.length ∧ source.length = stop - start then
    some (l.take start ++ source ++ l.drop stop)
  else none

theorem checkedOverwrite_eq {l source : List α} {start stop : ℕ} (hle : start ≤ stop)
    (hstop : stop ≤ l.length) (hsource : source.length = stop - start) :
    checkedOverwrite l start stop source = some (l.take start ++ source ++ l.drop stop) :=
  if_pos ⟨hle, hstop, hsource⟩

/-- An operation that panics in a given case. -/
def panicsIf (bad : Prop) [Decidable bad] (result : α) : Option α :=
  if bad then none else some result

theorem panicsIf_neg {bad : Prop} [Decidable bad] {result : α} (h : ¬ bad) :
    panicsIf bad result = some result :=
  if_neg h

end TsnFieldbus.Foundations
