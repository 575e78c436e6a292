import Mathlib.Tactic

/-!
# Serial Executions

Operations on a state that return a result, executed one after another, with the results
logged. An interleaved execution is explained by a serial one when the log of the operations
it has finished leads from its first state to its last.

- `SerialRun.append_singleton`: a finished operation goes to the end of the log.
- `SerialRun.overwritten`: operations that overwrite the state or do nothing leave the state
  of the last one that succeeded.
-/

namespace TsnFieldbus.Foundations

variable {σ α ρ : Type*}

/-- The logged operations, executed in order, return the logged results and lead from the
first state to the second. -/
def SerialRun (apply : σ → α → ρ × σ) : σ → List (α × ρ) → σ → Prop
  | s, [], t => t = s
  | s, (a, r) :: log, t => (apply s a).1 = r ∧ SerialRun apply (apply s a).2 log t

theorem SerialRun.nil (apply : σ → α → ρ × σ) (s : σ) : SerialRun apply s [] s := rfl

/-- One more operation, executed on the last state. -/
theorem SerialRun.append_singleton {apply : σ → α → ρ × σ} {s t : σ} {log : List (α × ρ)}
    (h : SerialRun apply s log t) {a : α} {r : ρ} (hresult : (apply t a).1 = r) :
    SerialRun apply s (log ++ [(a, r)]) (apply t a).2 := by
  induction log generalizing s with
  | nil =>
    cases h
    exact ⟨hresult, rfl⟩
  | cons entry log ih =>
    obtain ⟨hfirst, hrest⟩ := h
    exact ⟨hfirst, ih hrest⟩

/-- When a successful operation establishes its own postcondition whatever the state, and
any other changes nothing, the last state is that of a successful operation of the log, if
there is one. -/
theorem SerialRun.overwritten {apply : σ → α → ρ × σ} {Success : ρ → Prop}
    {Post : α → σ → Prop}
    (hcases : ∀ s a, (¬ Success (apply s a).1 ∧ (apply s a).2 = s) ∨
      (Success (apply s a).1 ∧ Post a (apply s a).2))
    {s t : σ} {log : List (α × ρ)} (h : SerialRun apply s log t) :
    (t = s ∧ ∀ entry ∈ log, ¬ Success entry.2) ∨
      ∃ entry ∈ log, Success entry.2 ∧ Post entry.1 t := by
  induction log generalizing s with
  | nil => exact .inl ⟨h, List.forall_mem_nil _⟩
  | cons entry log ih =>
    obtain ⟨a, r⟩ := entry
    obtain ⟨hresult, hrest⟩ := h
    rcases ih hrest with ⟨hend, hnone⟩ | ⟨later, hmem, hsuccess, hpost⟩
    -- nothing after this operation has changed its state
    · rcases hcases s a with ⟨hfailed, hsame⟩ | ⟨hsuccess, hpost⟩
      · left
        refine ⟨hend.trans hsame, ?_⟩
        exact List.forall_mem_cons.mpr ⟨hresult ▸ hfailed, hnone⟩
      · right
        exact ⟨(a, r), List.mem_cons_self, hresult ▸ hsuccess, hend ▸ hpost⟩
    · exact .inr ⟨later, List.mem_cons_of_mem _ hmem, hsuccess, hpost⟩

end TsnFieldbus.Foundations
