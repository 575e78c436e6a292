import TsnFieldbus.Common.SlaveApiTypes

/-!
# Device State Machine

`state_machine.rs`: the lifecycle states of a device and the transitions that
`set_target_state` permits. The mutex of the source makes every call atomic, so a call is a
function on the stored state.

Main result: `shutdown_is_terminal_iff`, which sequences of requests a device in `shutdown`
sits out.
-/

namespace TsnFieldbus

/-- Holder of the lifecycle state. -/
structure DeviceStateManager where
  state : DeviceState
deriving DecidableEq, Repr

namespace DeviceStateManager

/-- `DeviceStateManager::new`. -/
def new : DeviceStateManager := { state := .init }

/-- `set_target_state`: the new manager, or the conflict that leaves it unchanged. -/
def setTargetState (manager : DeviceStateManager) (target : DeviceState) :
    Except StatusCode DeviceStateManager :=
  match manager.state, target with
  | .init, .discoverySync => .ok ⟨target⟩
  | .discoverySync, .preOp => .ok ⟨target⟩
  | .preOp, .safeOp => .ok ⟨target⟩
  | .safeOp, .preOp => .ok ⟨target⟩
  | .safeOp, .op => .ok ⟨target⟩
  | .safeOp, .shutdown => .ok ⟨target⟩
  | .op, .safeOp => .ok ⟨target⟩
  | .op, .shutdown => .ok ⟨target⟩
  | .error, .init => .ok ⟨target⟩
  | c, t =>
    if c = t then .ok manager
    else if t = .error then .ok ⟨target⟩
    else .error .errStateConflict

/-- The manager after a call whose result the caller drops. -/
def trySetTargetState (manager : DeviceStateManager) (target : DeviceState) :
    DeviceStateManager :=
  match manager.setTargetState target with
  | .ok next => next
  | .error _ => manager

/-- An accepted request leaves the manager in the requested state. -/
theorem state_of_setTargetState {manager next : DeviceStateManager} {target : DeviceState}
    (h : manager.setTargetState target = .ok next) : next.state = target := by
  obtain ⟨state⟩ := manager
  cases state <;> cases target <;> cases h <;> rfl

/-- A refused request is refused with a state conflict. -/
theorem setTargetState_eq_error {manager : DeviceStateManager} {target : DeviceState}
    {code : StatusCode} (h : manager.setTargetState target = .error code) :
    code = .errStateConflict := by
  obtain ⟨state⟩ := manager
  cases state <;> cases target <;> cases h <;> rfl

/-- Asking for the current state always succeeds. -/
theorem setTargetState_self (manager : DeviceStateManager) :
    manager.setTargetState manager.state = .ok manager := by
  obtain ⟨state⟩ := manager
  cases state <;> rfl

/-! ## Documented transitions -/

/-- The list under "Valid transitions" in the documentation of `set_target_state`. -/
def documentedTransition (current target : DeviceState) : Bool :=
  match current, target with
  | .init, .discoverySync => true
  | .init, .error => true
  | .discoverySync, .preOp => true
  | .discoverySync, .error => true
  | .preOp, .safeOp => true
  | .preOp, .error => true
  | .safeOp, .preOp => true
  | .safeOp, .op => true
  | .safeOp, .shutdown => true
  | .safeOp, .error => true
  | .op, .safeOp => true
  | .op, .shutdown => true
  | .op, .error => true
  | .error, .init => true
  | c, t => c == t

/-- Beyond the documented transitions, a device in `shutdown` can be sent to `error`. -/
theorem setTargetState_isOk_iff (manager : DeviceStateManager) (target : DeviceState) :
    (∃ next, manager.setTargetState target = .ok next) ↔
      documentedTransition manager.state target = true ∨
        (manager.state = .shutdown ∧ target = .error) := by
  obtain ⟨state⟩ := manager
  cases state <;> cases target <;> simp [setTargetState, documentedTransition]

/-! ## Sequences of requests -/

/-- The manager after a sequence of requests, accepted or refused, by whichever clients. -/
def requestAll (manager : DeviceStateManager) (targets : List DeviceState) :
    DeviceStateManager :=
  targets.foldl trySetTargetState manager

theorem requestAll_cons (manager : DeviceStateManager) (target : DeviceState)
    (targets : List DeviceState) :
    manager.requestAll (target :: targets) =
      (manager.trySetTargetState target).requestAll targets := rfl

theorem requestAll_append (manager : DeviceStateManager) (first later : List DeviceState) :
    manager.requestAll (first ++ later) = (manager.requestAll first).requestAll later :=
  List.foldl_append ..

/-- In `shutdown` every request but the one for `error` changes nothing. -/
theorem trySetTargetState_of_shutdown {manager : DeviceStateManager} {target : DeviceState}
    (h : manager.state = .shutdown) (hne : target ≠ .error) :
    manager.trySetTargetState target = manager := by
  obtain ⟨state⟩ := manager
  cases h
  cases target with
  | error => exact absurd rfl hne
  | _ => rfl

/-- The catch-all arm of the source takes `shutdown` to `error`. -/
theorem state_trySetTargetState_error (manager : DeviceStateManager) :
    (manager.trySetTargetState .error).state = .error := by
  obtain ⟨state⟩ := manager
  cases state <;> rfl

/-- Without a request for `error` a device in `shutdown` stays as it is. -/
theorem requestAll_of_shutdown {manager : DeviceStateManager} (h : manager.state = .shutdown)
    {targets : List DeviceState} (hne : DeviceState.error ∉ targets) :
    manager.requestAll targets = manager := by
  induction targets with
  | nil => rfl
  | cons target targets ih =>
    obtain ⟨hfirst, hrest⟩ := not_or.mp (mt List.mem_cons.mpr hne)
    rw [requestAll_cons, trySetTargetState_of_shutdown h (Ne.symm hfirst)]
    exact ih hrest

/-- A device stays in `shutdown` throughout a sequence of requests exactly when none of them
asks for `error`. -/
theorem shutdown_is_terminal_iff (manager : DeviceStateManager)
    (h : manager.state = .shutdown) (targets : List DeviceState) :
    (∀ seen, seen <+: targets → (manager.requestAll seen).state = .shutdown) ↔
      DeviceState.error ∉ targets := by
  constructor
  · intro hterminal hmem
    -- look at the moment right after the first request for `error`
    obtain ⟨before, after, rfl⟩ := List.append_of_mem hmem
    have hseen : before ++ [.error] <+: before ++ .error :: after :=
      ⟨after, by rw [List.append_assoc, List.singleton_append]⟩
    have hstate := hterminal _ hseen
    rw [requestAll_append, requestAll_cons] at hstate
    exact absurd ((state_trySetTargetState_error _).symm.trans hstate) (by decide)
  · intro hne seen hseen
    have hseenNe : DeviceState.error ∉ seen := fun hmem => hne (hseen.subset hmem)
    rw [requestAll_of_shutdown h hseenNe, h]

theorem shutdown_is_terminal_without_error_requests :
    ((new.requestAll [.discoverySync, .preOp, .safeOp, .shutdown]).requestAll
      [.op, .shutdown, .init, .preOp]).state = .shutdown :=
  (shutdown_is_terminal_iff (new.requestAll [.discoverySync, .preOp, .safeOp, .shutdown]) rfl
    [.op, .shutdown, .init, .preOp]).mpr (by decide) _ (List.prefix_refl _)

/-- A device that was shut down is sent to `error` and restarted. -/
theorem shutdown_left_through_error :
    (new.requestAll [.discoverySync, .preOp, .safeOp, .shutdown]).state = .shutdown ∧
      (new.requestAll [.discoverySync, .preOp, .safeOp, .shutdown, .error]).state = .error ∧
      (new.requestAll [.discoverySync, .preOp, .safeOp, .shutdown, .error, .init]).state =
        .init :=
  ⟨rfl, rfl, rfl⟩

end DeviceStateManager

end TsnFieldbus
