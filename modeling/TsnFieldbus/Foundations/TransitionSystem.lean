import Mathlib.Tactic

/-!
# Runs of a Labelled Transition System

A system is a partial step function: a label carries every choice the environment
makes (which party moves, which message arrives, which outcome a device access has),
and `none` means that the label is not enabled. `execute` folds a list of labels, so
a run is a computation and can be evaluated on concrete labels.

The induction over runs is stated once:
- `execute_invariant`: what every step preserves holds at the end of every run.
- `execute_invariant_of_guarded`: the same for runs whose steps all meet a condition.
- `execute_latch_iff`: what can only be lost is kept by the steps that meet a condition.
-/

namespace TsnFieldbus.Foundations

variable {σ ε : Type*}

/-! ## Execution -/

/-- Run the labels from left to right; `none` as soon as one is not enabled. -/
def execute (step : σ → ε → Option σ) : σ → List ε → Option σ
  | s, [] => some s
  | s, l :: ls => (step s l).bind (fun t => execute step t ls)

@[simp] theorem execute_nil (step : σ → ε → Option σ) (s : σ) :
    execute step s [] = some s := rfl

theorem execute_cons (step : σ → ε → Option σ) (s : σ) (l : ε) (ls : List ε) :
    execute step s (l :: ls) = (step s l).bind (fun t => execute step t ls) := rfl

/-- The inversion of a nonempty run: its first step and the rest. -/
theorem execute_cons_eq_some {step : σ → ε → Option σ} {s u : σ} {l : ε} {ls : List ε} :
    execute step s (l :: ls) = some u ↔
      ∃ t, step s l = some t ∧ execute step t ls = some u := by
  simp only [execute_cons, Option.bind_eq_some_iff]

/-- A run of two steps. -/
theorem execute_pair {step : σ → ε → Option σ} {s t u : σ} {l m : ε} (hl : step s l = some t)
    (hm : step t m = some u) : execute step s [l, m] = some u :=
  execute_cons_eq_some.mpr ⟨t, hl, execute_cons_eq_some.mpr ⟨u, hm, rfl⟩⟩

/-- Runs compose over concatenation of their labels. -/
theorem execute_append_eq_some {step : σ → ε → Option σ} {s u : σ} {ls ms : List ε} :
    execute step s (ls ++ ms) = some u ↔
      ∃ t, execute step s ls = some t ∧ execute step t ms = some u := by
  induction ls generalizing s with
  | nil => simp
  | cons l ls ih =>
    simp only [List.cons_append, execute_cons_eq_some, ih]
    constructor
    · rintro ⟨t, ht, v, hv, hu⟩
      exact ⟨v, ⟨t, ht, hv⟩, hu⟩
    · rintro ⟨v, ⟨t, ht, hv⟩, hu⟩
      exact ⟨t, ht, v, hv, hu⟩

/-! ## Invariants of runs -/

/-- What holds initially and is preserved by every step holds after every run. -/
theorem execute_invariant {step : σ → ε → Option σ} {I : σ → Prop}
    (hstep : ∀ s l t, I s → step s l = some t → I t)
    {s t : σ} {ls : List ε} (hs : I s) (hrun : execute step s ls = some t) : I t := by
  induction ls generalizing s with
  | nil =>
    simp only [execute_nil, Option.some.injEq] at hrun
    exact hrun ▸ hs
  | cons l ls ih =>
    obtain ⟨u, hu, hrest⟩ := execute_cons_eq_some.mp hrun
    exact ih (hstep s l u hs hu) hrest

/-- Every step of the run meets the condition `G` in the state it starts from. -/
def EveryStep (step : σ → ε → Option σ) (G : σ → ε → Prop) : σ → List ε → Prop
  | _, [] => True
  | s, l :: ls => G s l ∧ ∀ t ∈ step s l, EveryStep step G t ls

/-- A decidable condition can be checked along a concrete run. -/
instance EveryStep.instDecidable (step : σ → ε → Option σ) (G : σ → ε → Prop)
    [∀ s l, Decidable (G s l)] : ∀ s ls, Decidable (EveryStep step G s ls)
  | _, [] => inferInstanceAs (Decidable True)
  | s, l :: ls =>
    have : ∀ t, Decidable (EveryStep step G t ls) := fun t =>
      EveryStep.instDecidable step G t ls
    inferInstanceAs (Decidable (G s l ∧ ∀ t ∈ step s l, EveryStep step G t ls))

/-- The invariant rule for runs whose steps all meet a condition. -/
theorem execute_invariant_of_guarded {step : σ → ε → Option σ} {G : σ → ε → Prop} {I : σ → Prop}
    (hstep : ∀ s l t, I s → G s l → step s l = some t → I t)
    {s t : σ} {ls : List ε} (hs : I s) (hG : EveryStep step G s ls)
    (hrun : execute step s ls = some t) : I t := by
  induction ls generalizing s with
  | nil =>
    simp only [execute_nil, Option.some.injEq] at hrun
    exact hrun ▸ hs
  | cons l ls ih =>
    obtain ⟨u, hu, hrest⟩ := execute_cons_eq_some.mp hrun
    exact ih (hstep s l u hs hG.1 hu) (hG.2 u hu) hrest

/-- A run whose steps meet a condition also meets every weaker one. -/
theorem EveryStep.imp {step : σ → ε → Option σ} {G G' : σ → ε → Prop}
    (hweaker : ∀ s l, G s l → G' s l) {s : σ} {ls : List ε} (h : EveryStep step G s ls) :
    EveryStep step G' s ls := by
  induction ls generalizing s with
  | nil => trivial
  | cons l ls ih => exact ⟨hweaker s l h.1, fun t ht => ih (h.2 t ht)⟩

theorem EveryStep.and {step : σ → ε → Option σ} {G G' : σ → ε → Prop} {s : σ} {ls : List ε}
    (h : EveryStep step G s ls) (h' : EveryStep step G' s ls) :
    EveryStep step (fun s l => G s l ∧ G' s l) s ls := by
  induction ls generalizing s with
  | nil => trivial
  | cons l ls ih => exact ⟨⟨h.1, h'.1⟩, fun t ht => ih (h.2 t ht) (h'.2 t ht)⟩

/-- An invariant of the runs that meet one condition can give another condition at every step. -/
theorem EveryStep.of_guarded_invariant {step : σ → ε → Option σ} {G G' : σ → ε → Prop}
    {I : σ → Prop} (hstep : ∀ s l t, I s → G s l → step s l = some t → I t)
    (hgives : ∀ s l t, I s → step s l = some t → G' s l)
    {s u : σ} {ls : List ε} (hs : I s) (hG : EveryStep step G s ls)
    (hrun : execute step s ls = some u) : EveryStep step G' s ls := by
  induction ls generalizing s with
  | nil => trivial
  | cons l ls ih =>
    obtain ⟨t, ht, hrest⟩ := execute_cons_eq_some.mp hrun
    refine ⟨hgives s l t hs ht, fun v hv => ?_⟩
    cases ht.symm.trans hv
    exact ih (hstep s l t hs hG.1 ht) (hG.2 t ht) hrest

/-- A condition on labels alone holds at every step when it holds of every label. -/
theorem EveryStep.of_forall_mem {step : σ → ε → Option σ} {P : ε → Prop} {s : σ} {ls : List ε}
    (h : ∀ l ∈ ls, P l) : EveryStep step (fun _ l => P l) s ls := by
  induction ls generalizing s with
  | nil => trivial
  | cons l ls ih =>
    rw [List.forall_mem_cons] at h
    exact ⟨h.1, fun t _ => ih h.2⟩

/-- An observable that no step changes is constant along a run. -/
theorem execute_observable_eq {Ω : Type*} {step : σ → ε → Option σ} (obs : σ → Ω)
    (hstep : ∀ s l t, step s l = some t → obs t = obs s)
    {s t : σ} {ls : List ε} (hrun : execute step s ls = some t) : obs t = obs s :=
  execute_invariant (I := fun u => obs u = obs s)
    (fun u l v hu huv => (hstep u l v huv).trans hu) rfl hrun

/-- What holds at the end of a run, and before a step whenever behind it, holds behind every
step. -/
theorem EveryStep.of_backward {step : σ → ε → Option σ} {Q : σ → Prop}
    (hback : ∀ s l t, step s l = some t → Q t → Q s) {s t : σ} {ls : List ε}
    (hrun : execute step s ls = some t) (hQ : Q t) :
    EveryStep step (fun s l => ∀ t ∈ step s l, Q t) s ls := by
  -- the property goes back from the end to each state of the run
  have hbegin : ∀ {s : σ} {ls : List ε}, execute step s ls = some t → Q s := by
    intro s ls hrun
    induction ls generalizing s with
    | nil =>
      cases hrun
      exact hQ
    | cons l ls ih =>
      obtain ⟨u, hu, hrest⟩ := execute_cons_eq_some.mp hrun
      exact hback s l u hu (ih hrest)
  induction ls generalizing s with
  | nil => trivial
  | cons l ls ih =>
    obtain ⟨u, hu, hrest⟩ := execute_cons_eq_some.mp hrun
    refine ⟨fun v hv => ?_, fun v hv => ?_⟩
    · cases hu.symm.trans hv
      exact hbegin hrest
    · cases hu.symm.trans hv
      exact ih hrest

/-- What a step keeps exactly when it meets a condition, and no step brings back, is there at the
end of a run exactly when every step has met the condition; the run is one whose steps all meet a
condition `H`. -/
theorem execute_latch_iff_of_guarded {step : σ → ε → Option σ} {G H : σ → ε → Prop}
    {I P : σ → Prop}
    (hinv : ∀ s l t, I s → H s l → step s l = some t → I t)
    (hkeep : ∀ s l t, I s → H s l → P s → step s l = some t → (P t ↔ G s l))
    (hlost : ∀ s l t, I s → ¬ P s → step s l = some t → ¬ P t)
    {s t : σ} {ls : List ε} (hI : I s) (hP : P s) (hH : EveryStep step H s ls)
    (hrun : execute step s ls = some t) : P t ↔ EveryStep step G s ls := by
  induction ls generalizing s with
  | nil =>
    cases hrun
    exact ⟨fun _ => trivial, fun _ => hP⟩
  | cons l ls ih =>
    obtain ⟨u, hu, hrest⟩ := execute_cons_eq_some.mp hrun
    have hIu := hinv s l u hI hH.1 hu
    -- the first step keeps the property, or it is lost for good
    by_cases hPu : P u
    · rw [ih hIu hPu (hH.2 u hu) hrest]
      refine ⟨fun h => ⟨(hkeep s l u hI hH.1 hP hu).mp hPu, ?_⟩, fun h => h.2 u hu⟩
      intro v hv
      cases hu.symm.trans hv
      exact h
    -- once lost it stays lost to the end
    · have hgone : I t ∧ ¬ P t := by
        apply execute_invariant_of_guarded (I := fun v => I v ∧ ¬ P v) _ ⟨hIu, hPu⟩
          (hH.2 u hu) hrest
        exact fun v m w hv hm hw => ⟨hinv v m w hv.1 hm hw, hlost v m w hv.1 hv.2 hw⟩
      constructor
      · exact fun h => absurd h hgone.2
      · exact fun h => absurd ((hkeep s l u hI hH.1 hP hu).mpr h.1) hPu

/-- The same for all runs. -/
theorem execute_latch_iff {step : σ → ε → Option σ} {G : σ → ε → Prop} {I P : σ → Prop}
    (hinv : ∀ s l t, I s → step s l = some t → I t)
    (hkeep : ∀ s l t, I s → P s → step s l = some t → (P t ↔ G s l))
    (hlost : ∀ s l t, I s → ¬ P s → step s l = some t → ¬ P t)
    {s t : σ} {ls : List ε} (hI : I s) (hP : P s) (hrun : execute step s ls = some t) :
    P t ↔ EveryStep step G s ls :=
  execute_latch_iff_of_guarded (H := fun _ _ => True) (fun s l t hs _ => hinv s l t hs)
    (fun s l t hs _ => hkeep s l t hs) hlost hI hP (.of_forall_mem fun _ _ => trivial) hrun

end TsnFieldbus.Foundations
