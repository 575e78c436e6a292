import Mathlib.Tactic

/-!
# Sampling

A sequence that is read from another one in order: elements may be passed over and may be read
several times, but the reader never goes back. This is what a reader of a register sees of the
values written to it, and what is left of a sequence behind a channel that loses messages.

- `Samples.trans`: samples of samples are samples.
- `Samples.concat_last`: reading the value written last.
- `sublist_of_increasing_keys`: messages that are taken by increasing keys are a subsequence.
- `foldl_le_of_samples`: a progress measure that ignores repetitions sees no more in the samples.
-/

namespace TsnFieldbus.Foundations

variable {α β : Type*}

/-- The first list is read from the second one in order, with omissions and repetitions. -/
inductive Samples : List α → List α → Prop
  | nil (ys : List α) : Samples [] ys
  | skip {xs ys : List α} {y : α} (h : Samples xs ys) : Samples xs (y :: ys)
  | read {xs ys : List α} {y : α} (h : Samples xs (y :: ys)) : Samples (y :: xs) (y :: ys)

namespace Samples

variable {xs ys zs : List α}

/-- A subsequence is sampled without repetitions. -/
theorem of_sublist (h : List.Sublist xs ys) : Samples xs ys := by
  induction h with
  | slnil => exact .nil []
  | cons y h ih => exact .skip ih
  | cons_cons y h ih => exact .read (.skip ih)

theorem refl (xs : List α) : Samples xs xs := of_sublist (List.Sublist.refl xs)

theorem tail {y : α} (h : Samples (y :: ys) zs) : Samples ys zs := by
  induction zs with
  | nil => cases h
  | cons z zs ih =>
    cases h with
    | skip h => exact .skip (ih h)
    | read h => exact h

theorem trans (h : Samples xs ys) (h' : Samples ys zs) : Samples xs zs := by
  induction h generalizing zs with
  | nil => exact .nil zs
  | skip h ih => exact ih h'.tail
  | @read xs ys y h ih =>
    have hrest := ih h'
    -- the element is read where the second sequence reads it first
    induction zs with
    | nil => cases h'
    | cons z zs ihz =>
      cases h' with
      | skip h' => exact .skip (ihz h' (ih h'))
      | read h' => exact .read hrest

instance : Trans (@Samples α) Samples Samples := ⟨trans⟩

theorem mem {x : α} (h : Samples xs ys) (hx : x ∈ xs) : x ∈ ys := by
  induction h with
  | nil => cases hx
  | skip h ih => exact List.mem_cons_of_mem _ (ih hx)
  | read h ih =>
    rcases List.mem_cons.mp hx with rfl | hrest
    · exact List.mem_cons_self
    · exact ih hrest

theorem map (f : α → β) (h : Samples xs ys) : Samples (xs.map f) (ys.map f) := by
  induction h with
  | nil => exact .nil _
  | skip h ih => exact .skip ih
  | read h ih => exact .read ih

/-- Later elements of the second sequence may remain unread. -/
theorem append (h : Samples xs ys) (zs : List α) : Samples xs (ys ++ zs) := by
  induction h with
  | nil => exact .nil _
  | skip h ih => exact .skip ih
  | read h ih => exact .read ih

/-- The same first element before both. -/
theorem cons (h : Samples xs ys) (y : α) : Samples (y :: xs) (y :: ys) := .read (.skip h)

/-- Reading the last element once more. -/
theorem concat_last {y : α} (h : Samples xs ys) (hlast : ys.getLast? = some y) :
    Samples (xs ++ [y]) ys := by
  induction h with
  | nil ys =>
    apply of_sublist
    apply List.singleton_sublist.mpr
    exact List.mem_of_getLast? hlast
  | @skip xs ys z h ih =>
    cases ys with
    | nil =>
      cases hlast
      cases h
      exact refl _
    | cons y' ys =>
      apply skip
      apply ih
      rw [← hlast, List.getLast?_cons_cons]
  | read h ih => exact .read (ih hlast)

end Samples

/-! ## Taking messages by their keys -/

/-- Elements of a list whose keys do not decrease, taken so that their keys increase, are a
subsequence of it. -/
theorem sublist_of_increasing_keys {κ : Type*} [LinearOrder κ] {key : α → κ} {xs ys : List α}
    (hxs : xs.Pairwise (fun a b => key a < key b)) (hys : ys.Pairwise (fun a b => key a ≤ key b))
    (hsub : ∀ x ∈ xs, x ∈ ys) : xs.Sublist ys := by
  induction ys generalizing xs with
  | nil =>
    rw [List.eq_nil_iff_forall_not_mem.mpr (fun x hx => List.not_mem_nil (hsub x hx))]
  | cons y ys ih =>
    rw [List.pairwise_cons] at hys
    cases xs with
    | nil => exact List.nil_sublist _
    | cons x xs =>
      rw [List.forall_mem_cons] at hsub
      rw [List.pairwise_cons] at hxs
      have hlater : ∀ z ∈ xs, z ∈ ys := by
        intro z hz
        rcases List.mem_cons.mp (hsub.2 z hz) with rfl | hmem
        · -- `x` would come behind the first element
          rcases List.mem_cons.mp hsub.1 with heq | hx
          · exact absurd (hxs.1 z hz) (heq ▸ lt_irrefl _)
          · exact absurd (hxs.1 z hz) (not_lt.mpr (hys.1 x hx))
        · exact hmem
      rcases List.mem_cons.mp hsub.1 with rfl | hx
      · exact (ih hxs.2 hys.2 hlater).cons_cons x
      · apply List.Sublist.cons
        apply ih (List.pairwise_cons.mpr hxs) hys.2
        exact List.forall_mem_cons.mpr ⟨hx, hlater⟩

/-! ## Progress -/

/-- A measure that no element lowers, that keeps the order of two readers, and that does not
grow when an element is repeated, is not larger behind the samples. -/
theorem foldl_le_of_samples {π : Type*} [Preorder π] {step : π → α → π}
    (hmono : ∀ p q x, p ≤ q → step p x ≤ step q x) (hle : ∀ p x, p ≤ step p x)
    (hrepeat : ∀ p x, step (step p x) x = step p x) {xs ys : List α} (h : Samples xs ys) {p q : π}
    (hpq : p ≤ q) : xs.foldl step p ≤ ys.foldl step q := by
  have hgrows (zs : List α) (p : π) : p ≤ zs.foldl step p := by
    induction zs generalizing p with
    | nil => exact le_refl p
    | cons z zs ih => exact (hle p z).trans (ih (step p z))
  induction h generalizing p q with
  | nil ys => exact hpq.trans (hgrows ys q)
  | @skip xs ys y h ih => exact ih (hpq.trans (hle q y))
  | @read xs ys y h ih =>
    have hrest := ih (hmono p q y hpq)
    rw [List.foldl_cons, hrepeat] at hrest
    exact hrest

/-! ## Alternations -/

/-- How often two kinds of elements take turns, beginning with the first kind: an element counts
if it is of the kind whose turn it is. -/
def alternate (first second : α → Bool) (turns : ℕ) (x : α) : ℕ :=
  match if turns % 2 = 0 then first x else second x with
  | true => turns + 1
  | false => turns

theorem alternate_bounds (first second : α → Bool) (turns : ℕ) (x : α) :
    turns ≤ alternate first second turns x ∧ alternate first second turns x ≤ turns + 1 := by
  unfold alternate
  split
  · exact ⟨Nat.le_succ turns, le_refl _⟩
  · exact ⟨le_refl turns, Nat.le_succ turns⟩

theorem alternate_mono (first second : α → Bool) {p q : ℕ} (x : α) (h : p ≤ q) :
    alternate first second p x ≤ alternate first second q x := by
  rcases h.eq_or_lt with rfl | hlt
  · exact le_refl _
  · calc alternate first second p x ≤ p + 1 := (alternate_bounds first second p x).2
      _ ≤ q := hlt
      _ ≤ alternate first second q x := (alternate_bounds first second q x).1

/-- An element that is not of both kinds counts once. -/
theorem alternate_alternate {first second : α → Bool} {x : α}
    (hx : ¬ (first x = true ∧ second x = true)) (turns : ℕ) :
    alternate first second (alternate first second turns x) x =
      alternate first second turns x := by
  rcases Nat.mod_two_eq_zero_or_one turns with hturn | hturn
  · cases hfirst : first x with
    | false => simp [alternate, hturn, hfirst]
    | true =>
      have hsecond : second x = false := by simpa [hfirst] using hx
      have hnext : (turns + 1) % 2 = 1 := by omega
      simp [alternate, hturn, hnext, hfirst, hsecond]
  · cases hsecond : second x with
    | false => simp [alternate, hturn, hsecond]
    | true =>
      have hfirst : first x = false := by simpa [hsecond] using hx
      have hnext : (turns + 1) % 2 = 0 := by omega
      simp [alternate, hturn, hnext, hfirst, hsecond]

/-- Samples take no more turns than the sequence they are read from, if no element is of both
kinds. -/
theorem alternations_le_of_samples {first second : α → Bool}
    (hdisjoint : ∀ x, ¬ (first x = true ∧ second x = true)) {xs ys : List α} (h : Samples xs ys) :
    xs.foldl (alternate first second) 0 ≤ ys.foldl (alternate first second) 0 := by
  apply foldl_le_of_samples _ _ _ h (le_refl 0)
  · intro p q x hpq
    exact alternate_mono first second x hpq
  · intro p x
    exact (alternate_bounds first second p x).1
  · intro p x
    exact alternate_alternate (hdisjoint x) p

end TsnFieldbus.Foundations
