import TsnFieldbus.Foundations.TransitionSystem
import TsnFieldbus.Slave.SlaveApi

/-!
# Concurrent SetTargetState Requests

Any number of SetTargetState requests in progress at once. A request arrives, takes the
locked step of `DeviceStateManager`, and when that accepted it takes the locked step of
`DeviceStatusStore`; the steps of different requests interleave freely.

The device state is held twice, and nothing makes the second steps follow the order of the
first ones:
- `statusStore_agrees_of_not_overtaken`: without overtaking the two copies agree whenever
  no request is in progress.
- `overtaken_request_can_end_in_disagreement`: from every step that overtakes, a run exists
  that ends with no request in progress and two different states.
-/

namespace TsnFieldbus

open Foundations

/-- The service with its requests in progress. -/
structure StateRequests where
  service : SlaveApiService
  /-- Requests before their first step. -/
  waiting : List (Request SetTargetStateRequest)
  /-- Targets of the requests between their two steps, in the order of acceptance. -/
  accepted : List DeviceState

/-- One move of the scheduler; requests are chosen by position. -/
inductive StateRequestEvent where
  | arrive (request : Request SetTargetStateRequest)
  | change (position : ℕ) (tokens : String → Bool)
  | record (position : ℕ) (timestamp : UInt64)

namespace StateRequests

/-- The effect of one move. -/
def step (s : StateRequests) : StateRequestEvent → Option StateRequests
  | .arrive request => some { s with waiting := s.waiting ++ [request] }
  | .change position tokens =>
    match s.waiting[position]? with
    | none => none
    | some request =>
      let waiting := s.waiting.eraseIdx position
      match validateToken tokens request with
      | .error _ => some { s with waiting := waiting }
      | .ok () =>
        match s.service.changeState request.message.target with
        | .error _ => some { s with waiting := waiting }
        | .ok service =>
          some
            { service := service
              waiting := waiting
              accepted := s.accepted ++ [request.message.target] }
  | .record position timestamp =>
    match s.accepted[position]? with
    | none => none
    | some target =>
      some
        { s with
          service := s.service.recordState target timestamp
          accepted := s.accepted.eraseIdx position }

/-- A service without requests in progress. -/
def idle (service : SlaveApiService) : StateRequests :=
  { service := service, waiting := [], accepted := [] }

/-- The state the L2 threads read is the state of the state machine. -/
def Agree (s : StateRequests) : Prop :=
  s.service.statusStore.current.state = s.service.stateManager.state

instance (s : StateRequests) : Decidable s.Agree := inferInstanceAs (Decidable (_ = _))

/-- No request is in progress. -/
def Quiescent (s : StateRequests) : Prop := s.waiting = [] ∧ s.accepted = []

/-- Condition on a step: when a request records its state, the request accepted last among
those that have still to record, if any, asked for the state the manager holds. -/
def NotOvertaken (s : StateRequests) : StateRequestEvent → Prop
  | .record position _ =>
    ∀ target ∈ (s.accepted.eraseIdx position).getLast?, target = s.service.stateManager.state
  | _ => True

instance (s : StateRequests) (event : StateRequestEvent) : Decidable (s.NotOvertaken event) :=
  match event with
  | .arrive _ => inferInstanceAs (Decidable True)
  | .change _ _ => inferInstanceAs (Decidable True)
  | .record position _ => inferInstanceAs (Decidable (∀ target ∈
      (s.accepted.eraseIdx position).getLast?, target = s.service.stateManager.state))

/-- The manager holds what the request accepted last will record, or what is recorded. -/
def LastAcceptedRules (s : StateRequests) : Prop :=
  s.service.stateManager.state = s.accepted.getLast?.getD s.service.statusStore.current.state

/-! ## One step -/

/-- The first step of a request makes it the one accepted last. -/
theorem lastAcceptedRules_change {s : StateRequests} (h : s.LastAcceptedRules) {position : ℕ}
    {tokens : String → Bool} {t : StateRequests}
    (hstep : s.step (.change position tokens) = some t) : t.LastAcceptedRules := by
  simp only [step] at hstep
  split at hstep
  · cases hstep
  · rename_i request hrequest
    split at hstep
    · cases hstep
      exact h
    · split at hstep
      -- refused: nothing has changed
      · cases hstep
        exact h
      -- accepted: the target is the new state, and the last on the list
      · rename_i service hchange
        cases hstep
        unfold SlaveApiService.changeState at hchange
        split at hchange
        · rename_i manager hmanager
          cases hchange
          simp [LastAcceptedRules, DeviceStateManager.state_of_setTargetState hmanager]
        · cases hchange

/-- The second step of a request that nothing overtook keeps the rule. -/
theorem lastAcceptedRules_record {s : StateRequests} (h : s.LastAcceptedRules) {position : ℕ}
    {timestamp : UInt64} {t : StateRequests}
    (hguard : s.NotOvertaken (.record position timestamp))
    (hstep : s.step (.record position timestamp) = some t) : t.LastAcceptedRules := by
  simp only [step] at hstep
  split at hstep
  · cases hstep
  · rename_i target htarget
    cases hstep
    simp only [LastAcceptedRules, SlaveApiService.recordState,
      DeviceStatusStore.state_updateState] at h ⊢
    cases hlast : (s.accepted.eraseIdx position).getLast? with
    | some last => exact (hguard last hlast).symm
    | none =>
      -- the request was the only one left, so it is the one accepted last
      have hempty : s.accepted.eraseIdx position = [] := List.getLast?_eq_none_iff.mp hlast
      obtain ⟨hlt, -⟩ := List.getElem?_eq_some_iff.mp htarget
      have hlen : s.accepted.length = 1 := by
        have := congrArg List.length hempty
        rw [List.length_eraseIdx_of_lt hlt, List.length_nil] at this
        omega
      obtain ⟨only, honly⟩ := List.length_eq_one_iff.mp hlen
      have hzero : position = 0 := by omega
      subst hzero
      rw [honly, List.getElem?_cons_zero, Option.some.injEq] at htarget
      rw [h, honly, htarget]
      rfl

theorem lastAcceptedRules_step (s : StateRequests) (event : StateRequestEvent)
    (t : StateRequests) (h : s.LastAcceptedRules) (hguard : s.NotOvertaken event)
    (hstep : s.step event = some t) : t.LastAcceptedRules := by
  cases event with
  | arrive request =>
    cases hstep
    exact h
  | change position tokens => exact lastAcceptedRules_change h hstep
  | record position timestamp => exact lastAcceptedRules_record h hguard hstep

/-! ## Whole runs -/

/-- **Agreement without overtaking**: in a run whose recording steps overtake nothing, the
two copies agree in every state without requests in progress. -/
theorem statusStore_agrees_of_not_overtaken {service : SlaveApiService}
    (hstart : (idle service).Agree) {events : List StateRequestEvent} {t : StateRequests}
    (hguard : EveryStep step NotOvertaken (idle service) events)
    (hrun : execute step (idle service) events = some t) (hidle : t.Quiescent) : t.Agree := by
  have hinit : (idle service).LastAcceptedRules := hstart.symm
  have hend : t.LastAcceptedRules :=
    execute_invariant_of_guarded lastAcceptedRules_step hinit hguard hrun
  obtain ⟨-, haccepted⟩ := hidle
  rw [LastAcceptedRules, haccepted] at hend
  exact hend.symm

/-- A device in SafeOp, with both copies in agreement. -/
def safeOpService : SlaveApiService :=
  { stateManager := ⟨.safeOp⟩
    statusStore := (DeviceStatusStore.new 0).updateState .safeOp 0
    streamStore := .new zeroSecret }

def stateRequest (targetState : Int32) : Request SetTargetStateRequest :=
  { token := some "t", message := { targetState := targetState } }

/-- Two requests in order: the device enters Op and returns to SafeOp. -/
theorem statusStore_agrees_of_not_overtaken_two_requests :
    ∃ t, execute step (idle safeOpService)
        [.arrive (stateRequest 4), .arrive (stateRequest 3), .change 0 (fun _ => true),
          .change 0 (fun _ => true), .record 0 1, .record 0 2] = some t ∧ t.Quiescent ∧
      t.Agree :=
  ⟨_, rfl, ⟨rfl, rfl⟩, @statusStore_agrees_of_not_overtaken safeOpService (by decide)
    [.arrive (stateRequest 4), .arrive (stateRequest 3), .change 0 (fun _ => true),
      .change 0 (fun _ => true), .record 0 1, .record 0 2] _ (by decide) rfl ⟨rfl, rfl⟩⟩

/-- The request for SafeOp records before the earlier request for Op does: the state machine
ends in SafeOp and the L2 threads obey Op. -/
theorem overtaken_request_leaves_op_recorded :
    ∃ service events t, (idle service).Agree ∧ execute step (idle service) events = some t ∧
      t.Quiescent ∧ t.service.stateManager.state = .safeOp ∧
      t.service.statusStore.current.state = .op ∧ ¬ t.Agree :=
  ⟨safeOpService,
    [.arrive (stateRequest 4), .arrive (stateRequest 3), .change 0 (fun _ => true),
      .change 0 (fun _ => true), .record 1 1, .record 0 2],
    _, by decide, rfl, ⟨rfl, rfl⟩, by decide, by decide, by decide⟩

/-! ## The condition is exact -/

/-- Letting all accepted requests record in order leaves the last target recorded. -/
theorem execute_record_all (s : StateRequests) (timestamp : UInt64) :
    ∃ t, execute step s (List.replicate s.accepted.length (.record 0 timestamp)) = some t ∧
      t.waiting = s.waiting ∧ t.accepted = [] ∧
      t.service.stateManager = s.service.stateManager ∧
      t.service.statusStore.current.state =
        s.accepted.getLast?.getD s.service.statusStore.current.state := by
  obtain ⟨service, waiting, accepted⟩ := s
  induction accepted generalizing service with
  | nil => exact ⟨_, rfl, rfl, rfl, rfl, rfl⟩
  | cons target rest ih =>
    obtain ⟨t, hrun, hwaiting, haccepted, hmanager, hstatus⟩ :=
      ih (service.recordState target timestamp)
    refine ⟨t, ?_, hwaiting, haccepted, hmanager, ?_⟩
    · rw [List.length_cons, List.replicate_succ, execute_cons_eq_some]
      exact ⟨_, rfl, hrun⟩
    · rw [hstatus, SlaveApiService.recordState, DeviceStatusStore.state_updateState]
      cases rest with
      | nil => rfl
      | cons next rest => simp [List.getLast?_cons]

/-- A step that overtakes can be continued to a state without requests in progress in which
the two copies differ. -/
theorem overtaken_request_can_end_in_disagreement {s t : StateRequests}
    {event : StateRequestEvent} (hwaiting : s.waiting = []) (hovertaken : ¬ s.NotOvertaken event)
    (hstep : s.step event = some t) :
    ∃ events u, execute step t events = some u ∧ u.Quiescent ∧ ¬ u.Agree := by
  cases event with
  | arrive request => exact absurd trivial hovertaken
  | change position tokens => exact absurd trivial hovertaken
  | record position timestamp =>
    simp only [NotOvertaken, Option.mem_def, not_forall] at hovertaken
    obtain ⟨last, hlast, hne⟩ := hovertaken
    simp only [step] at hstep
    split at hstep
    · cases hstep
    · rename_i target htarget
      cases hstep
      obtain ⟨u, hrun, huwaiting, huaccepted, humanager, hustatus⟩ := execute_record_all
        { s with
          service := s.service.recordState target timestamp
          accepted := s.accepted.eraseIdx position } timestamp
      refine ⟨_, u, hrun, ⟨huwaiting.trans hwaiting, huaccepted⟩, ?_⟩
      rw [Agree, hustatus, humanager, hlast]
      exact hne

end StateRequests

end TsnFieldbus
