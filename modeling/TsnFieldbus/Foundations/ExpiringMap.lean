import Mathlib.Data.List.AList
import Mathlib.Tactic

/-!
# Maps with Expiring Entries

A finite map from keys to expiry instants, from which expired entries are removed now and
then. What such a map knows of its past is described against the full list of grants: every
entry is a grant, and every grant that has not expired is an entry.

- `lookup_prune`: removing the expired entries.
- `Holds.prune`, `Holds.grant`: the two operations keep the description.
-/

namespace TsnFieldbus.Foundations

namespace ExpiringMap

variable {κ τ : Type*} [DecidableEq κ] [LinearOrder τ]

/-- Only the entries that expire after `now` are kept. -/
def prune (m : AList (fun _ : κ => τ)) (now : τ) : AList (fun _ : κ => τ) :=
  { entries := m.entries.filter (fun entry => now < entry.2)
    nodupKeys := m.nodupKeys.sublist List.filter_sublist }

theorem lookup_prune {m : AList (fun _ : κ => τ)} {now expiry : τ} {key : κ} :
    (prune m now).lookup key = some expiry ↔ m.lookup key = some expiry ∧ now < expiry := by
  rw [← Option.mem_def, ← Option.mem_def, AList.mem_lookup_iff, AList.mem_lookup_iff]
  simp [prune]

/-! ## Maps and their grants -/

/-- The map holds what has been granted, up to grants that have expired by `now`. -/
structure Holds (m : AList (fun _ : κ => τ)) (grants : List (κ × τ)) (now : τ) : Prop where
  granted : ∀ key expiry, m.lookup key = some expiry → (key, expiry) ∈ grants
  unexpired : ∀ key expiry, (key, expiry) ∈ grants → now < expiry →
    m.lookup key = some expiry

namespace Holds

variable {m : AList (fun _ : κ => τ)} {grants : List (κ × τ)} {now later expiry : τ} {key : κ}

theorem empty (now : τ) : Holds (∅ : AList (fun _ : κ => τ)) [] now := by
  constructor
  · intro key expiry hlookup
    cases hlookup
  · intro key expiry hmem
    cases hmem

/-- Time alone only makes more grants expire. -/
theorem mono (h : Holds m grants now) (hle : now ≤ later) : Holds m grants later :=
  ⟨h.granted, fun key expiry hmem hlt => h.unexpired key expiry hmem (hle.trans_lt hlt)⟩

theorem prune (h : Holds m grants now) : Holds (ExpiringMap.prune m now) grants now := by
  refine ⟨fun key expiry hlookup => ?_, fun key expiry hmem hlt => ?_⟩
  · exact h.granted key expiry (lookup_prune.mp hlookup).1
  · exact lookup_prune.mpr ⟨h.unexpired key expiry hmem hlt, hlt⟩

/-- A grant under a key that was never used. -/
theorem grant (h : Holds m grants now) (hfresh : ∀ old, (key, old) ∉ grants) (expiry : τ) :
    Holds (m.insert key expiry) (grants ++ [(key, expiry)]) now := by
  refine ⟨fun other old hlookup => ?_, fun other old hmem hlt => ?_⟩
  · rw [List.mem_append, List.mem_singleton]
    by_cases hkey : other = key
    · subst hkey
      rw [AList.lookup_insert, Option.some.injEq] at hlookup
      exact .inr (by rw [hlookup])
    · rw [AList.lookup_insert_ne hkey] at hlookup
      exact .inl (h.granted other old hlookup)
  · rw [List.mem_append, List.mem_singleton, Prod.mk.injEq] at hmem
    rcases hmem with hold | ⟨rfl, rfl⟩
    -- a grant under this very key would contradict freshness
    · have hkey : other ≠ key := fun heq => hfresh old (heq ▸ hold)
      rw [AList.lookup_insert_ne hkey]
      exact h.unexpired other old hold hlt
    · exact AList.lookup_insert _

/-- What a pruned map answers. -/
theorem lookup_prune_iff (h : Holds m grants now) :
    (ExpiringMap.prune m now).lookup key = some expiry ↔ (key, expiry) ∈ grants ∧ now < expiry := by
  rw [lookup_prune]
  constructor
  · rintro ⟨hlookup, hlt⟩
    exact ⟨h.granted key expiry hlookup, hlt⟩
  · rintro ⟨hmem, hlt⟩
    exact ⟨h.unexpired key expiry hmem hlt, hlt⟩

end Holds

end ExpiringMap

end TsnFieldbus.Foundations
