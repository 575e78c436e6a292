import Mathlib.Tactic

/-!
# Loops That May Stop

A loop is given by one pass over its variables. A pass goes on with new variables, leaves the
loop, or stops the program. A run feeds the loop with what the world outside contributes to
each pass.

- `runLoop_append_eq_continues`: a run over more inputs is a run over the first ones, then one
  over the others.
- `runLoop_ne_panics`: a loop none of whose passes panics does not panic.
-/

namespace TsnFieldbus.Foundations

variable {σ ι : Type*}

/-- How a pass of a loop ends. -/
inductive PassEnd (σ : Type*) where
  | continues (locals : σ)
  | exits (locals : σ)
  | panics

/-- The pass computes its variables, unless an operation in it panics. -/
def PassEnd.ofChecked : Option σ → PassEnd σ
  | some locals => .continues locals
  | none => .panics

theorem PassEnd.ofChecked_ne_panics {checked : Option σ} :
    ofChecked checked ≠ .panics ↔ checked.isSome := by
  cases checked with
  | none => simp [ofChecked]
  | some locals => simp [ofChecked]

/-- Feed the inputs to the loop until it stops. -/
def runLoop (pass : σ → ι → PassEnd σ) : σ → List ι → PassEnd σ
  | locals, [] => .continues locals
  | locals, input :: inputs =>
    match pass locals input with
    | .continues next => runLoop pass next inputs
    | .exits next => .exits next
    | .panics => .panics

/-- A run over more inputs goes on from where the first ones leave the loop running. -/
theorem runLoop_append_eq_continues {pass : σ → ι → PassEnd σ} {locals last : σ}
    {inputs more : List ι} :
    runLoop pass locals (inputs ++ more) = .continues last ↔
      ∃ next, runLoop pass locals inputs = .continues next ∧
        runLoop pass next more = .continues last := by
  induction inputs generalizing locals with
  | nil =>
    constructor
    · intro h
      exact ⟨locals, rfl, h⟩
    · rintro ⟨next, hnext, h⟩
      cases hnext
      exact h
  | cons input inputs ih =>
    rw [List.cons_append, runLoop, runLoop]
    cases pass locals input with
    | continues locals' => exact ih
    | exits locals' => simp
    | panics => simp

theorem runLoop_cons_eq_continues {pass : σ → ι → PassEnd σ} {locals last : σ} {input : ι}
    {inputs : List ι} :
    runLoop pass locals (input :: inputs) = .continues last ↔
      ∃ next, pass locals input = .continues next ∧
        runLoop pass next inputs = .continues last := by
  rw [runLoop]
  cases pass locals input with
  | continues next => simp
  | exits next => simp
  | panics => simp

theorem runLoop_concat_eq_continues {pass : σ → ι → PassEnd σ} {locals last : σ}
    {inputs : List ι} {input : ι} :
    runLoop pass locals (inputs ++ [input]) = .continues last ↔
      ∃ next, runLoop pass locals inputs = .continues next ∧ pass next input = .continues last := by
  have hone (next : σ) : runLoop pass next [input] = pass next input := by
    rw [runLoop]
    cases pass next input <;> rfl
  simp only [runLoop_append_eq_continues, hone]

/-- If no pass on the inputs panics, from whatever variables, the run does not. -/
theorem runLoop_ne_panics {pass : σ → ι → PassEnd σ} {inputs : List ι} (locals : σ)
    (hpass : ∀ locals, ∀ input ∈ inputs, pass locals input ≠ .panics) :
    runLoop pass locals inputs ≠ .panics := by
  induction inputs generalizing locals with
  | nil =>
    intro h
    cases h
  | cons input inputs ih =>
    have hhead := hpass locals input List.mem_cons_self
    unfold runLoop
    cases hend : pass locals input with
    | continues next =>
      exact ih next (fun locals input hmem => hpass locals input (List.mem_cons_of_mem _ hmem))
    | exits next =>
      intro h
      cases h
    | panics => exact absurd hend hhead

end TsnFieldbus.Foundations
