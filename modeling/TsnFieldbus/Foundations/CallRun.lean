import Mathlib.Tactic

/-!
# Runs of Calls

An object whose calls always return: its run is the fold of the calls. A condition on each call
in the state it meets can be stated along the run or over the ways to cut the run in two.

- `everyCall_iff`: the two statements are the same.
- `observed_foldl`: an observable that each call folds a value into.
- `isChain_iff_everyCall`: consecutive writes of a register differ exactly if each changes it.
- `observed_eq_iff_everyCall`: an observable follows a history variable through the run exactly
  if each call keeps them together.
-/

namespace TsnFieldbus.Foundations

variable {σ ε α : Type*}

/-- Every call of the run meets the condition `P` in the state it is made in. -/
def EveryCall (step : σ → ε → σ) (P : σ → ε → Prop) : σ → List ε → Prop
  | _, [] => True
  | s, call :: calls => P s call ∧ EveryCall step P (step s call) calls

/-- The condition along the run, call by call. -/
theorem everyCall_iff {step : σ → ε → σ} {P : σ → ε → Prop} {s : σ} {calls : List ε} :
    EveryCall step P s calls ↔
      ∀ earlier call later, calls = earlier ++ call :: later → P (earlier.foldl step s) call := by
  induction calls generalizing s with
  | nil =>
    constructor
    · intro _ earlier call later h
      cases earlier with
      | nil => cases h
      | cons first rest => cases h
    · intro _
      trivial
  | cons first calls ih =>
    rw [EveryCall, ih]
    constructor
    · rintro ⟨hfirst, hrest⟩ earlier call later h
      -- the call is the first one, or one of the rest
      cases earlier with
      | nil =>
        cases h
        exact hfirst
      | cons _ earlier =>
        cases h
        exact hrest earlier call later rfl
    · intro h
      refine ⟨h [] first calls rfl, ?_⟩
      intro earlier call later hcalls
      exact h (first :: earlier) call later (congrArg (first :: ·) hcalls)

/-! ## Observables -/

/-- If each call folds the value it carries into an observable and the calls without one leave
it, the run folds in the carried values. -/
theorem observed_foldl {step : σ → ε → σ} {observed : σ → α} {carried : ε → Option α}
    {f : α → α → α}
    (hstep : ∀ s call, observed (step s call) = (carried call).elim (observed s) (f (observed s)))
    (s : σ) (calls : List ε) :
    observed (calls.foldl step s) = (calls.filterMap carried).foldl f (observed s) := by
  induction calls generalizing s with
  | nil => rfl
  | cons call calls ih =>
    rw [List.foldl_cons, ih, hstep]
    cases hcarried : carried call with
    | none => rw [List.filterMap_cons_none hcarried, Option.elim_none]
    | some value => rw [List.filterMap_cons_some hcarried, Option.elim_some, List.foldl_cons]

/-- The values written to a register differ from one to the next exactly if each write changes
the register. -/
theorem isChain_iff_everyCall {step : σ → ε → σ} {register : σ → α} {written : ε → Option α}
    (hstep : ∀ s call, register (step s call) = (written call).getD (register s))
    {s : σ} {calls : List ε} :
    List.IsChain (· ≠ ·) (register s :: calls.filterMap written) ↔
      EveryCall step (fun s call => ∀ value ∈ written call, register s ≠ value) s calls := by
  induction calls generalizing s with
  | nil => exact iff_of_true (List.isChain_singleton _) trivial
  | cons call calls ih =>
    rw [EveryCall, ← ih, hstep]
    cases hwritten : written call with
    | none =>
      rw [List.filterMap_cons_none hwritten]
      simp
    | some value =>
      rw [List.filterMap_cons_some hwritten, List.isChain_cons_cons]
      simp

/-- A history variable beside the run. -/
def historyAfter (step : σ → ε → σ) (history : σ → α → ε → α) : σ → α → List ε → α
  | _, h, [] => h
  | s, h, call :: calls => historyAfter step history (step s call) (history s h call) calls

/-- An observable equals the history variable after every prefix of the run exactly if every
call takes it to the history's next value. -/
theorem observed_eq_iff_everyCall {step : σ → ε → σ} {history : σ → α → ε → α}
    {observed : σ → α} {s : σ} {calls : List ε} :
    (∀ earlier later, calls = earlier ++ later →
      observed (earlier.foldl step s) = historyAfter step history s (observed s) earlier) ↔
    EveryCall step (fun s call => observed (step s call) = history s (observed s) call) s
      calls := by
  induction calls generalizing s with
  | nil =>
    refine iff_of_true ?_ trivial
    intro earlier later h
    rw [(List.append_eq_nil_iff.mp h.symm).1]
    rfl
  | cons call calls ih =>
    rw [EveryCall, ← ih]
    constructor
    · intro h
      -- the run cut after the first call
      have hcall : observed (step s call) = history s (observed s) call := h [call] calls rfl
      refine ⟨hcall, ?_⟩
      intro earlier later hcalls
      have hrest := h (call :: earlier) later (congrArg (call :: ·) hcalls)
      rw [hcall]
      exact hrest
    · rintro ⟨hcall, hrest⟩ earlier later h
      -- cut before any call there is nothing to show
      cases earlier with
      | nil => rfl
      | cons first earlier =>
        cases h
        have htail := hrest earlier later rfl
        rw [hcall] at htail
        exact htail

end TsnFieldbus.Foundations
