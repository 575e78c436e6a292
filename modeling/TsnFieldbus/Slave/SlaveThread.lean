import TsnFieldbus.Slave.ConfigureRequests
import TsnFieldbus.Slave.ListenerThread
import TsnFieldbus.Slave.StateRequests

/-!
# The Slave Thread

`run_slave_thread` of the demo: the main loop that starts the API server in PreOp and the L2
handler in SafeOp or Op, beside the discovery listener, the SetTargetState requests of the API,
and the state checks of the two L2 threads. All of them share the state manager; the L2 threads
read the status store instead.

- `startsUp_step`: what holds until the API server is started, and ever after.
- `parts_agree`: without requests for Error the parts do not get into each other's way.
- `thread_runs_iff`: an L2 thread that has left its loop is never replaced.
- `shutdown_stops_threads_iff`: when the threads leave their loops after a shutdown.
-/

namespace TsnFieldbus

open Foundations

/-- The threads of an L2 handler. -/
inductive L2Thread where
  | receiver
  | sender
deriving DecidableEq, Repr

/-- Where the main loop is. -/
inductive MainLoopPhase where
  | looping
  /-- Has left the loop in Shutdown. -/
  | left
  /-- Has aborted the API server, and waits for the L2 threads. -/
  | joining
  /-- Has returned the error of `start_l2_handler`. -/
  | failed
deriving DecidableEq, Repr

/-- The main loop with all that it has started. -/
structure SlaveThread where
  listener : ListenerThread
  /-- The stores with the SetTargetState requests in progress. -/
  requests : StateRequests
  /-- `api_server_handle.is_some()`. -/
  apiServer : Bool
  /-- `l2_handle`: which of the threads are still in their loops. -/
  l2 : Option (L2Thread → Bool)
  phase : MainLoopPhase

/-- One move of one of the parts. -/
inductive SlaveThreadEvent where
  | listener (event : ListenerEvent)
  | api (event : StateRequestEvent)
  /-- A pass of the main loop; `channel` is whether an L2 channel can be opened. -/
  | iterate (timestamp : UInt64) (channel : Bool)
  /-- An L2 thread reads the state at the top of its loop. -/
  | poll (thread : L2Thread)
  | abortApi

namespace SlaveThread

/-- `state_manager.get_state()`. -/
def state (s : SlaveThread) : DeviceState := s.requests.service.stateManager.state

/-- The state in the status store, which the L2 threads read. -/
def status (s : SlaveThread) : DeviceState := s.requests.service.statusStore.current.state

/-- The states in which the L2 threads stay in their loops. -/
def activeState : DeviceState → Bool
  | .safeOp | .op => true
  | _ => false

/-- Whether an L2 thread is in its loop. -/
def runs (s : SlaveThread) (thread : L2Thread) : Bool :=
  match s.l2 with
  | none => false
  | some threads => threads thread

/-- `status_store.update_state`. -/
def recordState (s : SlaveThread) (target : DeviceState) (timestamp : UInt64) : SlaveThread :=
  { s with
    requests := { s.requests with service := s.requests.service.recordState target timestamp } }

/-- The body of the main loop. -/
def iterate (s : SlaveThread) (timestamp : UInt64) (channel : Bool) : SlaveThread :=
  match s.state with
  | .init | .discoverySync => s
  | .preOp =>
    if s.apiServer then s
    else { s.recordState .preOp timestamp with apiServer := true }
  | .safeOp | .op =>
    match s.l2 with
    | some _ => s
    | none =>
      if channel then { s with l2 := some (fun _ => true) }
      else { s with phase := .failed }
  | .shutdown => { s.recordState .shutdown timestamp with phase := .left }
  | .error => s.recordState .error timestamp

variable (blake3 : KeyedHash)

/-- The effect of one move. -/
def step (s : SlaveThread) : SlaveThreadEvent → Option SlaveThread
  | .listener event =>
    match event with
    -- the calls of other threads are the moves below
    | .setTargetState _ => none
    | event =>
      (s.listener.step blake3 event).map (fun listener =>
        { s with
          listener := listener
          requests := { s.requests with
            service := { s.requests.service with stateManager := listener.node.stateManager } } })
  | .api event =>
    if s.apiServer ∧ (s.phase = .looping ∨ s.phase = .left) then
      (s.requests.step event).map (fun requests =>
        { s with
          requests := requests
          listener := { s.listener with
            node := { s.listener.node with stateManager := requests.service.stateManager } } })
    else none
  | .iterate timestamp channel =>
    if s.phase = .looping then some (s.iterate timestamp channel) else none
  | .poll thread =>
    match s.l2 with
    | none => none
    | some threads =>
      if threads thread then
        some { s with l2 := some (Function.update threads thread (activeState s.status)) }
      else none
  | .abortApi =>
    if s.phase = .left then
      some
        { s with
          requests := .idle s.requests.service
          phase := .joining }
    else none

/-- The runtime at the first pass of its main loop. -/
def start (node : SlaveNode) (streamStore : StreamStore) (created entered : UInt64) :
    SlaveThread :=
  { listener := .start { node with stateManager := ⟨.discoverySync⟩ }
    requests := .idle
      { stateManager := ⟨.discoverySync⟩
        statusStore := (DeviceStatusStore.new created).updateState .discoverySync entered
        streamStore := streamStore }
    apiServer := false
    l2 := none
    phase := .looping }

/-! ## One move -/

variable {blake3} {s t : SlaveThread}

theorem step_listener {event : ListenerEvent}
    (h : s.step blake3 (.listener event) = some t) :
    (∀ target, event ≠ .setTargetState target) ∧
      ∃ listener, s.listener.step blake3 event = some listener ∧ t =
        { s with
          listener := listener
          requests := { s.requests with
            service :=
              { s.requests.service with stateManager := listener.node.stateManager } } } := by
  have hown : ∀ target, event ≠ .setTargetState target := by
    rintro target rfl
    cases h
  refine ⟨hown, ?_⟩
  cases event with
  | setTargetState target => exact absurd rfl (hown target)
  | _ =>
    obtain ⟨listener, hlistener, rfl⟩ := Option.map_eq_some_iff.mp h
    exact ⟨listener, hlistener, rfl⟩

theorem step_api {event : StateRequestEvent} (h : s.step blake3 (.api event) = some t) :
    s.apiServer = true ∧ (s.phase = .looping ∨ s.phase = .left) ∧
      ∃ requests, s.requests.step event = some requests ∧ t =
        { s with
          requests := requests
          listener := { s.listener with
            node := { s.listener.node with stateManager := requests.service.stateManager } } } := by
  simp only [step] at h
  split at h
  · rename_i hserved
    obtain ⟨requests, hrequests, rfl⟩ := Option.map_eq_some_iff.mp h
    exact ⟨hserved.1, hserved.2, requests, hrequests, rfl⟩
  · cases h

theorem step_iterate {timestamp : UInt64} {channel : Bool}
    (h : s.step blake3 (.iterate timestamp channel) = some t) :
    s.phase = .looping ∧ t = s.iterate timestamp channel := by
  simp only [step, Option.ite_none_right_eq_some, Option.some.injEq] at h
  exact ⟨h.1, h.2.symm⟩

theorem step_poll {thread : L2Thread} (h : s.step blake3 (.poll thread) = some t) :
    ∃ threads, s.l2 = some threads ∧ threads thread = true ∧
      t = { s with l2 := some (Function.update threads thread (activeState s.status)) } := by
  simp only [step] at h
  split at h
  · cases h
  · rename_i threads hl2
    simp only [Option.ite_none_right_eq_some, Option.some.injEq] at h
    exact ⟨threads, hl2, h.1, h.2.symm⟩

theorem step_abortApi (h : s.step blake3 .abortApi = some t) :
    s.phase = .left ∧ t = { s with requests := .idle s.requests.service, phase := .joining } := by
  simp only [step, Option.ite_none_right_eq_some, Option.some.injEq] at h
  exact ⟨h.1, h.2.symm⟩

/-- What a pass of the main loop can do. -/
inductive Pass (s : SlaveThread) (timestamp : UInt64) : SlaveThread → Prop where
  | idle (h : s.state ≠ .shutdown) : Pass s timestamp s
  | serve (h : s.state = .preOp) (hnone : s.apiServer = false) :
      Pass s timestamp { s.recordState .preOp timestamp with apiServer := true }
  | exchange (h : activeState s.state = true) (hnone : s.l2 = none) :
      Pass s timestamp { s with l2 := some (fun _ => true) }
  | fail (h : activeState s.state = true) (hnone : s.l2 = none) :
      Pass s timestamp { s with phase := .failed }
  | leave (h : s.state = .shutdown) :
      Pass s timestamp { s.recordState .shutdown timestamp with phase := .left }
  | report (h : s.state = .error) : Pass s timestamp (s.recordState .error timestamp)

theorem pass_of_active (h : activeState s.state = true) (timestamp : UInt64) (channel : Bool) :
    s.Pass timestamp
      (match s.l2 with
        | some _ => s
        | none => if channel then { s with l2 := some (fun _ => true) }
          else { s with phase := .failed }) := by
  cases hl2 : s.l2 with
  | some threads =>
    apply Pass.idle
    intro hshutdown
    rw [hshutdown] at h
    cases h
  | none =>
    cases channel with
    | true => exact .exchange h hl2
    | false => simpa [hl2] using @Pass.fail s timestamp h hl2

theorem pass_iterate (s : SlaveThread) (timestamp : UInt64) (channel : Bool) :
    s.Pass timestamp (s.iterate timestamp channel) := by
  unfold iterate
  cases hstate : s.state with
  | init => exact .idle (by rw [hstate]; decide)
  | discoverySync => exact .idle (by rw [hstate]; decide)
  | preOp =>
    cases hserver : s.apiServer with
    | true => exact .idle (by rw [hstate]; decide)
    | false => exact .serve hstate hserver
  | safeOp => exact pass_of_active (by rw [hstate]; rfl) timestamp channel
  | op => exact pass_of_active (by rw [hstate]; rfl) timestamp channel
  | error => exact .report hstate
  | shutdown => exact .leave hstate

/-- A move of the listener itself leaves the device state alone, or it is the one that asks for
PreOp. -/
theorem listener_step_cases {l l' : ListenerThread} {event : ListenerEvent}
    (hown : ∀ target, event ≠ .setTargetState target) (h : l.step blake3 event = some l') :
    ListenerThread.Proceeds l l' ∨
      (l.phase = .finishing ∧ l'.phase = .checking ∧ l'.triggers = l.triggers ++ [l.state] ∧
        l'.node.stateManager = l.node.stateManager.trySetTargetState .preOp) := by
  rcases ListenerThread.step_cases blake3 h with ⟨target, rfl, -⟩ | hproceeds |
    ⟨hphase, hchecking, -, htriggers⟩
  · exact absurd rfl (hown target)
  · exact .inl hproceeds
  · refine .inr ⟨hphase, hchecking, htriggers, ?_⟩
    cases event with
    | setTargetState target => exact absurd rfl (hown target)
    | finish =>
      simp only [ListenerThread.step, hphase] at h
      cases h
      rfl
    | _ =>
      simp only [ListenerThread.step, hphase] at h
      cases h

/-! ## Until the API server is started -/

/-- The device before its first pass in PreOp: nobody but the listener has done anything. -/
structure Starting (s : SlaveThread) : Prop where
  looping : s.phase = .looping
  l2 : s.l2 = none
  idle : s.requests.Quiescent
  status : s.status = .discoverySync
  listener : s.state = .discoverySync ∧ s.listener.triggers = [] ∨
    s.state = .preOp ∧ s.listener.triggers = [.discoverySync] ∧
      s.listener.phase.pastCheck = false

/-- The parts share one state manager, and the API server comes first. -/
structure StartsUp (s : SlaveThread) : Prop where
  synced : s.listener.node.stateManager = s.requests.service.stateManager
  before : s.apiServer = false → s.Starting

theorem startsUp_start (node : SlaveNode) (streamStore : StreamStore)
    (created entered : UInt64) : (start node streamStore created entered).StartsUp where
  synced := rfl
  before _ :=
    { looping := rfl
      l2 := rfl
      idle := ⟨rfl, rfl⟩
      status := rfl
      listener := .inl ⟨rfl, rfl⟩ }

theorem starting_listener {event : ListenerEvent} (h : s.Starting)
    (hsynced : s.listener.node.stateManager = s.requests.service.stateManager)
    (hstep : s.step blake3 (.listener event) = some t) : t.Starting := by
  obtain ⟨hown, listener, hlistener, rfl⟩ := step_listener hstep
  have hstate : s.listener.state = s.state := congrArg DeviceStateManager.state hsynced
  refine ⟨h.looping, h.l2, h.idle, h.status, ?_⟩
  rcases listener_step_cases hown hlistener with
    hproceeds | ⟨hphase, hchecking, htriggers, hmanager⟩
  · have hsame : listener.node.stateManager.state = s.state := by
      rw [hproceeds.stateManager]
      exact hstate
    rcases h.listener with ⟨hsync, hnone⟩ | ⟨hpreOp, honce, hpast⟩
    · left
      exact ⟨hsame.trans hsync, hproceeds.triggers.trans hnone⟩
    · right
      refine ⟨hsame.trans hpreOp, hproceeds.triggers.trans honce, ?_⟩
      -- in PreOp the listener does not get past its check again
      apply Bool.eq_false_iff.mpr
      intro hback
      rcases hproceeds.pastCheck hback with hbefore | hsync
      · rw [hpast] at hbefore
        cases hbefore
      · rw [hstate, hpreOp] at hsync
        cases hsync
  · rcases h.listener with ⟨hsync, hnone⟩ | ⟨-, -, hpast⟩
    · right
      have hfound : s.listener.state = .discoverySync := hstate.trans hsync
      refine ⟨?_, ?_, ?_⟩
      · change listener.node.stateManager.state = .preOp
        rw [hmanager, hsynced]
        have hholds : s.requests.service.stateManager = ⟨.discoverySync⟩ :=
          congrArg DeviceStateManager.mk hsync
        rw [hholds]
        rfl
      · rw [htriggers, hnone, hfound]
        rfl
      · rw [hchecking]
        rfl
    · rw [hphase] at hpast
      cases hpast

theorem startsUp_step (s : SlaveThread) (event : SlaveThreadEvent) (t : SlaveThread)
    (h : s.StartsUp) (hstep : s.step blake3 event = some t) : t.StartsUp := by
  cases event with
  | listener event =>
    constructor
    · obtain ⟨-, listener, -, rfl⟩ := step_listener hstep
      rfl
    · intro hserver
      have hbefore : s.apiServer = false := by
        obtain ⟨-, listener, -, rfl⟩ := step_listener hstep
        exact hserver
      exact starting_listener (h.before hbefore) h.synced hstep
  | api event =>
    obtain ⟨hserver, -, requests, -, rfl⟩ := step_api hstep
    exact ⟨rfl, fun hnone => absurd (hserver.symm.trans hnone) (by decide)⟩
  | iterate timestamp channel =>
    obtain ⟨-, rfl⟩ := step_iterate hstep
    have hstates (hnone : s.apiServer = false) : s.state = .discoverySync ∨ s.state = .preOp :=
      (h.before hnone).listener.imp And.left And.left
    -- what a pass does in the other states is done with the API server started
    have hpass := pass_iterate s timestamp channel
    generalize s.iterate timestamp channel = next at hpass ⊢
    cases hpass with
    | idle => exact h
    | serve => exact ⟨h.synced, fun hnone => by cases hnone⟩
    | exchange hactive | fail hactive =>
      refine ⟨h.synced, fun hnone => ?_⟩
      rcases hstates hnone with hstate | hstate <;> rw [hstate] at hactive <;> cases hactive
    | leave hstate' | report hstate' =>
      refine ⟨h.synced, fun hnone => ?_⟩
      rcases hstates hnone with hstate | hstate <;> rw [hstate] at hstate' <;> cases hstate'
  | poll thread =>
    obtain ⟨threads, hl2, -, rfl⟩ := step_poll hstep
    refine ⟨h.synced, fun hnone => ?_⟩
    rw [(h.before hnone).l2] at hl2
    cases hl2
  | abortApi =>
    obtain ⟨hleft, rfl⟩ := step_abortApi hstep
    refine ⟨h.synced, fun hnone => ?_⟩
    rw [(h.before hnone).looping] at hleft
    cases hleft

/-! ## Working together -/

/-- The states of a device that is served by its API, if nobody asks for Error. -/
def servedState : DeviceState → Bool
  | .preOp | .safeOp | .op | .shutdown => true
  | _ => false

theorem servedState_try {manager : DeviceStateManager} {target : DeviceState}
    (h : servedState manager.state = true) (hne : target ≠ .error) :
    servedState (manager.trySetTargetState target).state = true := by
  obtain ⟨state⟩ := manager
  cases state <;> cases target <;> first | rfl | exact absurd rfl hne | cases h

/-- Condition on a move: no request asks for Error, and none records its state behind one that
was accepted later. -/
def Orderly (s : SlaveThread) : SlaveThreadEvent → Prop
  | .api event => s.requests.NotOvertaken event ∧
      match event with
      | .arrive request => request.message.target ≠ .error
      | _ => True
  | _ => True

instance (s : SlaveThread) (event : SlaveThreadEvent) : Decidable (s.Orderly event) := by
  unfold Orderly
  split
  · refine @instDecidableAnd _ _ inferInstance ?_
    split <;> exact inferInstance
  · exact inferInstance

/-- Requests come to wait by arriving only. -/
theorem mem_waiting_of_step {r r' : StateRequests} {event : StateRequestEvent}
    (h : r.step event = some r') {request : Request SetTargetStateRequest}
    (hmem : request ∈ r'.waiting) : request ∈ r.waiting ∨ event = .arrive request := by
  cases event with
  | arrive arrived =>
    cases h
    rcases List.mem_append.mp hmem with hold | hnew
    · exact .inl hold
    · exact .inr (List.mem_singleton.mp hnew ▸ rfl)
  | change position tokens =>
    left
    simp only [StateRequests.step] at h
    split at h
    · cases h
    -- refused or accepted, the request has left its place
    · split at h
      · cases h
        exact List.mem_of_mem_eraseIdx hmem
      · split at h <;> cases h <;> exact List.mem_of_mem_eraseIdx hmem
  | record position timestamp =>
    left
    simp only [StateRequests.step] at h
    split at h
    · cases h
    · cases h
      exact hmem

/-- Recording the state of the manager again keeps the rule. -/
theorem lastAcceptedRules_recordState {r : StateRequests} (h : r.LastAcceptedRules)
    {target : DeviceState} (hstate : r.service.stateManager.state = target) (timestamp : UInt64) :
    StateRequests.LastAcceptedRules
      { r with service := r.service.recordState target timestamp } := by
  unfold StateRequests.LastAcceptedRules at h ⊢
  simp only [SlaveApiService.recordState, DeviceStatusStore.state_updateState]
  cases hlast : r.accepted.getLast? with
  | none => exact hstate
  | some last =>
    rw [hlast] at h
    exact h

/-- The listener is done when the API is served, and the two copies of the device state belong
together. -/
structure Cooperates (s : SlaveThread) : Prop where
  startsUp : s.StartsUp
  acts : s.listener.ActsInDiscoverySync
  waiting : ∀ request ∈ s.requests.waiting, request.message.target ≠ .error
  served : s.apiServer = true → servedState s.state = true ∧
    s.listener.phase.pastCheck = false ∧ s.listener.triggers = [.discoverySync]
  agrees : s.apiServer = true → s.phase ≠ .joining → s.requests.LastAcceptedRules

theorem cooperates_start (node : SlaveNode) (streamStore : StreamStore)
    (created entered : UInt64) : (start node streamStore created entered).Cooperates where
  startsUp := startsUp_start node streamStore created entered
  acts := ⟨fun hpast => absurd hpast Bool.false_ne_true, List.forall_mem_nil _,
    List.forall_mem_nil _⟩
  waiting := List.forall_mem_nil _
  served hserver := absurd hserver Bool.false_ne_true
  agrees hserver := absurd hserver Bool.false_ne_true

theorem cooperates_listener {event : ListenerEvent} (h : s.Cooperates)
    (hstep : s.step blake3 (.listener event) = some t) : t.Cooperates := by
  have hstarts := startsUp_step s _ t h.startsUp hstep
  obtain ⟨hown, listener, hlistener, rfl⟩ := step_listener hstep
  have hacts : listener.ActsInDiscoverySync := by
    apply ListenerThread.actsInDiscoverySync_step blake3 s.listener event listener h.acts _
      hlistener
    cases event with
    | setTargetState target => exact absurd rfl (hown target)
    | _ => trivial
  -- once the API is served, the listener is at its check or gone
  have hquiet (hserver : s.apiServer = true) :
      listener.node.stateManager = s.requests.service.stateManager ∧
        listener.phase.pastCheck = false ∧ listener.triggers = [.discoverySync] := by
    obtain ⟨hserved, hpast, htriggers⟩ := h.served hserver
    rcases listener_step_cases hown hlistener with hproceeds | ⟨hphase, -⟩
    · refine ⟨hproceeds.stateManager.trans h.startsUp.synced, ?_, ?_⟩
      · apply Bool.eq_false_iff.mpr
        intro hback
        rcases hproceeds.pastCheck hback with hbefore | hsync
        · rw [hpast] at hbefore
          cases hbefore
        · have hstate : s.listener.state = s.state :=
            congrArg DeviceStateManager.state h.startsUp.synced
          rw [← hstate, hsync] at hserved
          cases hserved
      · rw [hproceeds.triggers, htriggers]
    · rw [hphase] at hpast
      cases hpast
  refine ⟨hstarts, hacts, h.waiting, ?_, ?_⟩
  · intro hserver
    obtain ⟨hmanager, hpast, htriggers⟩ := hquiet hserver
    refine ⟨?_, hpast, htriggers⟩
    change servedState listener.node.stateManager.state = true
    rw [hmanager]
    exact (h.served hserver).1
  · intro hserver hphase
    have hrules := h.agrees hserver hphase
    unfold StateRequests.LastAcceptedRules at hrules ⊢
    dsimp only
    rw [(hquiet hserver).1]
    exact hrules

theorem cooperates_api {event : StateRequestEvent} (h : s.Cooperates)
    (hguard : s.Orderly (.api event)) (hstep : s.step blake3 (.api event) = some t) :
    t.Cooperates := by
  have hstarts := startsUp_step s _ t h.startsUp hstep
  obtain ⟨hserver, hphase, requests, hrequests, rfl⟩ := step_api hstep
  obtain ⟨hserved, hpast, htriggers⟩ := h.served hserver
  -- no request moves once the server is aborted
  have hjoining : s.phase ≠ .joining := by
    rcases hphase with hphase | hphase <;> rw [hphase] <;> decide
  refine ⟨hstarts, ⟨?_, h.acts.log, h.acts.triggers⟩, ?_, fun _ => ⟨?_, hpast, htriggers⟩,
    fun _ _ => StateRequests.lastAcceptedRules_step _ _ _ (h.agrees hserver hjoining) hguard.1
      hrequests⟩
  · intro hback
    rw [hpast] at hback
    cases hback
  · intro request hmem
    -- a request that arrives does not ask for Error
    rcases mem_waiting_of_step hrequests hmem with hold | rfl
    · exact h.waiting request hold
    · exact hguard.2
  · change servedState requests.service.stateManager.state = true
    rcases ConfigureRequests.stateManager_stateRequest hrequests with
      hsame | ⟨position, tokens, request, -, hrequest, -, hmanager⟩
    · rw [hsame]
      exact hserved
    · rw [hmanager]
      exact servedState_try hserved (h.waiting request (List.mem_of_getElem? hrequest))

/-- A pass of the main loop records the state of the manager, if any. -/
theorem cooperates_iterate {timestamp : UInt64} {channel : Bool} (h : s.Cooperates)
    (hstep : s.step blake3 (.iterate timestamp channel) = some t) : t.Cooperates := by
  have hstarts := startsUp_step s _ t h.startsUp hstep
  obtain ⟨hphase, rfl⟩ := step_iterate hstep
  have hlooping : s.phase ≠ .joining := by
    rw [hphase]
    decide
  have hpass := pass_iterate s timestamp channel
  generalize s.iterate timestamp channel = next at hpass hstarts ⊢
  cases hpass with
  | idle => exact h
  -- the pass that starts the API server: it has published preOp
  | serve hstate hnone =>
    have hstarting := h.startsUp.before hnone
    refine ⟨hstarts, h.acts, h.waiting, fun _ => ?_, fun _ _ => ?_⟩
    -- the listener has left, as the state is no longer discoverySync
    · rcases hstarting.listener with ⟨hsync, -⟩ | ⟨-, htriggers, hpast⟩
      · rw [hstate] at hsync
        cases hsync
      · refine ⟨?_, hpast, htriggers⟩
        change servedState s.state = true
        rw [hstate]
        rfl
    -- no request has been accepted yet
    · have haccepted : s.requests.accepted = [] := hstarting.idle.2
      change s.state = s.requests.accepted.getLast?.getD
        (s.requests.service.statusStore.updateState .preOp timestamp).current.state
      rw [haccepted, DeviceStatusStore.state_updateState]
      exact hstate
  -- the other passes touch none of this, or record a state the manager is in
  | exchange | fail => exact ⟨hstarts, h.acts, h.waiting, h.served, fun hserver _ =>
      h.agrees hserver hlooping⟩
  | leave hstate | report hstate =>
    exact ⟨hstarts, h.acts, h.waiting, h.served, fun hserver _ =>
      lastAcceptedRules_recordState (h.agrees hserver hlooping) hstate timestamp⟩

theorem cooperates_step (s : SlaveThread) (event : SlaveThreadEvent) (t : SlaveThread)
    (h : s.Cooperates) (hguard : s.Orderly event) (hstep : s.step blake3 event = some t) :
    t.Cooperates := by
  cases event with
  | listener event => exact cooperates_listener h hstep
  | api event => exact cooperates_api h hguard hstep
  | iterate timestamp channel => exact cooperates_iterate h hstep
  | poll thread =>
    have hstarts := startsUp_step s _ t h.startsUp hstep
    obtain ⟨threads, -, -, rfl⟩ := step_poll hstep
    exact ⟨hstarts, h.acts, h.waiting, h.served, h.agrees⟩
  | abortApi =>
    have hstarts := startsUp_step s _ t h.startsUp hstep
    obtain ⟨-, rfl⟩ := step_abortApi hstep
    exact ⟨hstarts, h.acts, List.forall_mem_nil _, h.served, fun _ hne => absurd rfl hne⟩

/-- **The parts of the slave thread keep to their order.** In every run without requests for Error
and without overtaken records: all that the discovery listener does happens in DiscoverySync, it
asks for PreOp once at most and is past no check of its own when the API is served; the API
server is started in PreOp, before the L2 handler; and until the API server is aborted the L2
threads obey the state of the state manager whenever no request is in progress. -/
theorem parts_agree (node : SlaveNode) (streamStore : StreamStore) (created entered : UInt64)
    {events : List SlaveThreadEvent}
    (hrun : execute (step blake3) (start node streamStore created entered) events = some t)
    (hguard : EveryStep (step blake3) Orderly (start node streamStore created entered) events) :
    (∀ entry ∈ t.listener.log, entry.2 = .discoverySync) ∧ t.listener.triggers.length ≤ 1 ∧
      (t.apiServer = false → (t.state = .discoverySync ∨ t.state = .preOp) ∧ t.l2 = none) ∧
      (t.apiServer = true → t.listener.phase.pastCheck = false ∧ servedState t.state = true ∧
        (t.phase ≠ .joining → t.requests.Quiescent → t.status = t.state)) := by
  have hcooperates := execute_invariant_of_guarded cooperates_step
    (cooperates_start node streamStore created entered) hguard hrun
  refine ⟨hcooperates.acts.log, ?_, ?_, ?_⟩
  · cases hserver : t.apiServer with
    | true => rw [(hcooperates.served hserver).2.2, List.length_singleton]
    -- before the server runs the listener has triggered at most once
    | false =>
      rcases (hcooperates.startsUp.before hserver).listener with ⟨-, hnone⟩ | ⟨-, honce, -⟩
      · rw [hnone]
        exact Nat.zero_le 1
      · rw [honce, List.length_singleton]
  · intro hserver
    have hstarting := hcooperates.startsUp.before hserver
    exact ⟨hstarting.listener.imp And.left And.left, hstarting.l2⟩
  · intro hserver
    obtain ⟨hserved, hpast, -⟩ := hcooperates.served hserver
    refine ⟨hpast, hserved, ?_⟩
    -- with no request under way the last accepted target is the state
    rintro hphase ⟨-, haccepted⟩
    have hrules := hcooperates.agrees hserver hphase
    rw [StateRequests.LastAcceptedRules, haccepted] at hrules
    exact hrules.symm

/-- A device that is configured, taken to SafeOp by its master, and exchanges data. -/
def startedInSafeOp : List SlaveThreadEvent :=
  (.check :: ListenerThread.setIpHandling).map .listener ++
    [.iterate 1 true, .api (.arrive (StateRequests.stateRequest 3)), .listener .check,
      .api (.change 0 (fun _ => true)), .iterate 2 true, .poll .sender, .api (.record 0 3)]

/-- The sender looks at the state before SafeOp is recorded, and leaves. -/
theorem parts_agree_in_safeOp :
    ∃ t, execute (step checksumHash)
        (start ListenerThread.trustingListener.node (.new zeroSecret) 0 0) startedInSafeOp =
          some t ∧
      t.status = .safeOp ∧ t.state = .safeOp ∧ t.runs .receiver = true ∧
      t.runs .sender = false ∧ t.requests.Quiescent ∧
      (t.apiServer = true → t.listener.phase.pastCheck = false ∧ servedState t.state = true ∧
        (t.phase ≠ .joining → t.requests.Quiescent → t.status = t.state)) := by
  have hends : (execute (step checksumHash)
      (start ListenerThread.trustingListener.node (.new zeroSecret) 0 0) startedInSafeOp).map
      (fun t => (t.status, t.state, t.runs .receiver, t.runs .sender,
        t.requests.waiting.isEmpty && t.requests.accepted.isEmpty)) =
      some (.safeOp, .safeOp, true, false, true) := by decide +kernel
  have hguard : EveryStep (step checksumHash) Orderly
      (start ListenerThread.trustingListener.node (.new zeroSecret) 0 0) startedInSafeOp := by
    decide +kernel
  obtain ⟨t, hrun, hfacts⟩ := Option.map_eq_some_iff.mp hends
  simp only [Prod.mk.injEq] at hfacts
  rw [Bool.and_eq_true, List.isEmpty_iff, List.isEmpty_iff] at hfacts
  obtain ⟨hstatus, hstate, hreceiver, hsender, hidle⟩ := hfacts
  refine ⟨t, hrun, hstatus, hstate, hreceiver, hsender, hidle, ?_⟩
  exact (parts_agree _ _ _ _ hrun hguard).2.2.2

/-! ## The life of an L2 thread -/

/-- Condition on a move: when this thread reads the state, it finds one to stay in. -/
def StaysFor (thread : L2Thread) (s : SlaveThread) (event : SlaveThreadEvent) : Prop :=
  event = .poll thread → activeState s.status = true

/-- Once the L2 handler is started, only the threads themselves change which of them run. -/
theorem l2_of_step {threads : L2Thread → Bool} {event : SlaveThreadEvent}
    (hl2 : s.l2 = some threads) (hstep : s.step blake3 event = some t) :
    t.l2 = some threads ∨ ∃ thread, event = .poll thread ∧ threads thread = true ∧
      t.l2 = some (Function.update threads thread (activeState s.status)) := by
  cases event with
  | listener event =>
    obtain ⟨-, listener, -, rfl⟩ := step_listener hstep
    exact .inl hl2
  | api event =>
    obtain ⟨-, -, requests, -, rfl⟩ := step_api hstep
    exact .inl hl2
  | iterate timestamp channel =>
    obtain ⟨-, rfl⟩ := step_iterate hstep
    have hpass := pass_iterate s timestamp channel
    generalize s.iterate timestamp channel = next at hpass ⊢
    cases hpass with
    -- threads are started once only
    | exchange hactive hnone | fail hactive hnone =>
      rw [hnone] at hl2
      cases hl2
    | _ => exact .inl hl2
  -- only a look can end a thread
  | poll thread =>
    obtain ⟨threads', hl2', hruns, rfl⟩ := step_poll hstep
    cases hl2.symm.trans hl2'
    exact .inr ⟨thread, rfl, hruns, rfl⟩
  | abortApi =>
    obtain ⟨-, rfl⟩ := step_abortApi hstep
    exact .inl hl2

theorem runs_of_l2 {threads : L2Thread → Bool} (h : s.l2 = some threads) (thread : L2Thread) :
    s.runs thread = threads thread := by
  rw [runs, h]

/-- **An L2 thread that has left its loop is never replaced.** A thread that runs is still running
at the end of a run exactly when it has found SafeOp or Op in the status store every time it
looked; whatever the device goes through later, nothing starts the thread again. -/
theorem thread_runs_iff {thread : L2Thread} {events : List SlaveThreadEvent}
    (hruns : s.runs thread = true) (hrun : execute (step blake3) s events = some t) :
    t.runs thread = true ↔ EveryStep (step blake3) (StaysFor thread) s events := by
  have hstarted : s.l2.isSome = true := by
    unfold runs at hruns
    split at hruns
    · cases hruns
    · rename_i threads hl2
      rw [hl2]
      rfl
  apply execute_latch_iff (I := fun u => u.l2.isSome = true)
    (P := fun u => u.runs thread = true) _ _ _ hstarted hruns hrun
  -- the handler once started stays started
  · intro u event v hu hstep
    obtain ⟨threads, hl2⟩ := Option.isSome_iff_exists.mp hu
    rcases l2_of_step hl2 hstep with hsame | ⟨other, -, -, hnew⟩
    · rw [hsame]
      rfl
    · rw [hnew]
      rfl
  -- a running thread stays exactly if it does not look at an inactive state
  · intro u event v hu hin hstep
    obtain ⟨threads, hl2⟩ := Option.isSome_iff_exists.mp hu
    rw [runs_of_l2 hl2] at hin
    rcases l2_of_step hl2 hstep with hsame | ⟨other, rfl, -, hnew⟩
    -- no thread has left
    · rw [runs_of_l2 hsame]
      refine ⟨fun _ => ?_, fun _ => hin⟩
      rintro rfl
      obtain ⟨threads', hl2', -, rfl⟩ := step_poll hstep
      cases hl2.symm.trans hl2'
      have hstay := congrFun (Option.some.inj hsame) thread
      rw [Function.update_self, hin] at hstay
      exact hstay
    -- one has left, this one or another
    · rw [runs_of_l2 hnew, StaysFor]
      by_cases hother : thread = other
      · subst hother
        rw [Function.update_self]
        simp
      · rw [Function.update_of_ne hother]
        simp [hin, Ne.symm hother]
  -- a thread that has left stays away
  · intro u event v hu hout hstep
    obtain ⟨threads, hl2⟩ := Option.isSome_iff_exists.mp hu
    rw [runs_of_l2 hl2] at hout
    rcases l2_of_step hl2 hstep with hsame | ⟨other, rfl, hother, hnew⟩
    · rw [runs_of_l2 hsame]
      exact hout
    · have hne : thread ≠ other := by
        rintro rfl
        exact hout hother
      rw [runs_of_l2 hnew, Function.update_of_ne hne]
      exact hout

/-- The requests for a state one after the other, each recorded at once. -/
def requestInOrder (targets : List Int32) : List SlaveThreadEvent :=
  targets.flatMap (fun target =>
    [.api (.arrive (StateRequests.stateRequest target)), .api (.change 0 (fun _ => true)),
      .api (.record 0 4)])

/-- The receiver looks at the state while the device is back in PreOp. -/
def backToPreOp : List SlaveThreadEvent :=
  requestInOrder [2] ++ [.poll .receiver] ++ requestInOrder [3, 4] ++ [.iterate 5 true]

/-- The device is in Op again, and its receiver is gone for good. -/
theorem thread_runs_iff_back_to_preOp :
    ∃ s t, execute (step checksumHash)
        (start ListenerThread.trustingListener.node (.new zeroSecret) 0 0) startedInSafeOp =
          some s ∧
      execute (step checksumHash) s backToPreOp = some t ∧ t.status = .op ∧ t.state = .op ∧
      ¬ EveryStep (step checksumHash) (StaysFor .receiver) s backToPreOp := by
  have hbefore : (execute (step checksumHash)
      (start ListenerThread.trustingListener.node (.new zeroSecret) 0 0) startedInSafeOp).map
      (fun s => s.runs .receiver) = some true := by decide +kernel
  have hafter : (execute (step checksumHash)
      (start ListenerThread.trustingListener.node (.new zeroSecret) 0 0)
      (startedInSafeOp ++ backToPreOp)).map
      (fun t => (t.status, t.state, t.runs .receiver)) = some (.op, .op, false) := by
    decide +kernel
  obtain ⟨t, hall, hfacts⟩ := Option.map_eq_some_iff.mp hafter
  simp only [Prod.mk.injEq] at hfacts
  obtain ⟨hstatus, hstate, hgone⟩ := hfacts
  obtain ⟨s, hstart, hrun⟩ := execute_append_eq_some.mp hall
  rw [hstart, Option.map_some, Option.some.injEq] at hbefore
  refine ⟨s, t, hstart, hrun, hstatus, hstate, ?_⟩
  rw [← thread_runs_iff hbefore hrun, hgone]
  decide

/-! ## Shutdown -/

/-- A device in Shutdown without new requests: those it has accepted before do not ask for a state
in which the L2 threads stay. -/
structure ShutsDown (s : SlaveThread) : Prop where
  synced : s.listener.node.stateManager = s.requests.service.stateManager
  state : s.state = .shutdown
  waiting : s.requests.waiting = []
  accepted : ∀ target ∈ s.requests.accepted, activeState target = false
  status : s.phase ≠ .looping → activeState s.status = false

/-- No new request arrives. -/
def NoArrival (_ : SlaveThread) (event : SlaveThreadEvent) : Prop :=
  ∀ request, event ≠ .api (.arrive request)

theorem shutsDown_step (s : SlaveThread) (event : SlaveThreadEvent) (t : SlaveThread)
    (h : s.ShutsDown) (hguard : s.NoArrival event) (hstep : s.step blake3 event = some t) :
    t.ShutsDown := by
  cases event with
  -- the listener asks for preOp at most, which Shutdown refuses
  | listener event =>
    obtain ⟨hown, listener, hlistener, rfl⟩ := step_listener hstep
    have hmanager : listener.node.stateManager = s.requests.service.stateManager := by
      rcases listener_step_cases hown hlistener with hproceeds | ⟨-, -, -, hrequest⟩
      · exact hproceeds.stateManager.trans h.synced
      · rw [hrequest, h.synced]
        exact DeviceStateManager.trySetTargetState_of_shutdown h.state (by decide)
    refine ⟨rfl, ?_, h.waiting, h.accepted, h.status⟩
    change listener.node.stateManager.state = .shutdown
    rw [hmanager]
    exact h.state
  | api event =>
    obtain ⟨-, -, requests, hrequests, rfl⟩ := step_api hstep
    cases event with
    -- no request arrives, and none waits
    | arrive request => exact absurd rfl (hguard request)
    | change position tokens =>
      simp only [StateRequests.step, h.waiting, List.getElem?_nil] at hrequests
      cases hrequests
    -- a target still to be recorded is no active state
    | record position timestamp =>
      simp only [StateRequests.step] at hrequests
      split at hrequests
      · cases hrequests
      · rename_i target htarget
        cases hrequests
        refine ⟨rfl, h.state, h.waiting, ?_, fun _ => ?_⟩
        · exact fun other hother => h.accepted other (List.mem_of_mem_eraseIdx hother)
        · change activeState
            (s.requests.service.statusStore.updateState target timestamp).current.state = false
          rw [DeviceStatusStore.state_updateState]
          exact h.accepted target (List.mem_of_getElem? htarget)
  -- the main loop records Shutdown and leaves
  | iterate timestamp channel =>
    obtain ⟨-, rfl⟩ := step_iterate hstep
    have hstate := h.state
    rw [iterate, hstate]
    refine ⟨h.synced, h.state, h.waiting, h.accepted, fun _ => ?_⟩
    change activeState
      (s.requests.service.statusStore.updateState .shutdown timestamp).current.state = false
    rw [DeviceStatusStore.state_updateState]
    rfl
  -- a look of a thread changes the threads only
  | poll thread =>
    obtain ⟨threads, -, -, rfl⟩ := step_poll hstep
    exact ⟨h.synced, h.state, h.waiting, h.accepted, h.status⟩
  -- the abort comes after the main loop has left
  | abortApi =>
    obtain ⟨hleft, rfl⟩ := step_abortApi hstep
    refine ⟨h.synced, h.state, rfl, List.forall_mem_nil _, fun _ => ?_⟩
    apply h.status
    rw [hleft]
    decide

/-- An accepted request can record its state after the main loop has left its loop. -/
theorem leave_then_record (hphase : s.phase = .looping) (hstate : s.state = .shutdown)
    (hserver : s.apiServer = true) {position : ℕ} {target : DeviceState}
    (hposition : s.requests.accepted[position]? = some target) :
    ∃ t, execute (step blake3) s [.iterate 0 true, .api (.record position 0)] = some t ∧
      t.phase = .left ∧ t.l2 = s.l2 ∧ t.status = target := by
  have hleave : s.step blake3 (.iterate 0 true) =
      some { s.recordState .shutdown 0 with phase := .left } := by
    simp only [step, hphase, iterate, hstate, if_true]
  have hrecord : ∃ t, step blake3 { s.recordState .shutdown 0 with phase := .left }
      (.api (.record position 0)) = some t ∧ t.phase = .left ∧ t.l2 = s.l2 ∧
      t.status = target := by
    simp only [step, recordState, hserver, StateRequests.step, hposition]
    refine ⟨_, rfl, rfl, rfl, ?_⟩
    simp [status, SlaveApiService.recordState]
  obtain ⟨t, hstep, hfacts⟩ := hrecord
  exact ⟨t, execute_pair hleave hstep, hfacts⟩

/-- **When a shutdown stops the L2 threads**: once the main loop has left its loop in Shutdown, a
thread leaves its own the next time it looks at the state, unless a request for SafeOp or Op was
accepted before the one for Shutdown and has still to record its state. Then the thread can find
that state, and the device never gets past the join. -/
theorem shutdown_stops_threads_iff (node : SlaveNode) (streamStore : StreamStore)
    (created entered : UInt64) {before : List SlaveThreadEvent}
    (hreach : execute (step blake3) (start node streamStore created entered) before = some s)
    (hstate : s.state = .shutdown) (hphase : s.phase = .looping)
    (hwaiting : s.requests.waiting = []) {thread : L2Thread} (hruns : s.runs thread = true) :
    (∀ events t, EveryStep (step blake3) NoArrival s events →
      execute (step blake3) s events = some t → t.phase ≠ .looping →
      ∀ u, t.step blake3 (.poll thread) = some u → u.runs thread = false) ↔
    ∀ target ∈ s.requests.accepted, activeState target = false := by
  have hstarts : s.StartsUp :=
    execute_invariant startsUp_step (startsUp_start node streamStore created entered) hreach
  constructor
  · intro hstops target hmem
    obtain ⟨position, hposition⟩ := List.getElem?_of_mem hmem
    have hserver : s.apiServer = true := by
      by_contra hnone
      rcases (hstarts.before (Bool.eq_false_iff.mpr hnone)).listener with ⟨hsync, -⟩ | ⟨hpreOp, -⟩
      · rw [hstate] at hsync
        cases hsync
      · rw [hstate] at hpreOp
        cases hpreOp
    obtain ⟨t, hrun, hleft, hl2, hstatus⟩ := @leave_then_record blake3 _ hphase hstate hserver _ _
      hposition
    have hguard : EveryStep (step blake3) NoArrival s
        [.iterate 0 true, .api (.record position 0)] :=
      ⟨fun request h => (by cases h), fun _ _ =>
        ⟨fun request h => (by cases h), fun _ _ => trivial⟩⟩
    have hnotLooping : t.phase ≠ .looping := by
      rw [hleft]
      decide
    -- the thread still runs, and finds the target
    have hruns' : t.runs thread = true := by
      rw [runs, hl2]
      exact hruns
    obtain ⟨threads, hthreads⟩ : ∃ threads, t.l2 = some threads := by
      cases hnone : t.l2 with
      | none =>
        rw [runs, hnone] at hruns'
        cases hruns'
      | some threads => exact ⟨threads, rfl⟩
    have hin : threads thread = true := runs_of_l2 hthreads thread ▸ hruns'
    have hpoll : t.step blake3 (.poll thread) =
        some { t with l2 := some (Function.update threads thread (activeState t.status)) } := by
      simp only [step, hthreads, hin, if_true]
    have hout := hstops _ t hguard hrun hnotLooping _ hpoll
    rw [← hstatus]
    change Function.update threads thread (activeState t.status) thread = false at hout
    rwa [Function.update_self] at hout
  · intro haccepted events t hguard hrun hleft u hpoll
    have hshutsDown : s.ShutsDown :=
      ⟨hstarts.synced, hstate, hwaiting, haccepted, fun hnot => absurd hphase hnot⟩
    have hend := execute_invariant_of_guarded shutsDown_step hshutsDown hguard hrun
    obtain ⟨threads, -, -, rfl⟩ := step_poll hpoll
    change Function.update threads thread (activeState t.status) thread = false
    rw [Function.update_self]
    exact hend.status hleft

/-- A request for Op is accepted before the one for Shutdown, and both have still to record. -/
def shutdownBehindOp : List SlaveThreadEvent :=
  startedInSafeOp ++ [.api (.arrive (StateRequests.stateRequest 4)),
    .api (.change 0 (fun _ => true)), .api (.arrive (StateRequests.stateRequest 6)),
    .api (.change 0 (fun _ => true))]

/-- The receiver can outlive the shutdown. -/
theorem shutdown_stops_threads_iff_behind_op :
    ∃ s, execute (step checksumHash)
        (start ListenerThread.trustingListener.node (.new zeroSecret) 0 0) shutdownBehindOp =
        some s ∧
      s.state = .shutdown ∧ s.runs .receiver = true ∧
      ¬ ∀ events t, EveryStep (step checksumHash) NoArrival s events →
        execute (step checksumHash) s events = some t → t.phase ≠ .looping →
        ∀ u, t.step checksumHash (.poll .receiver) = some u → u.runs .receiver = false := by
  have hends : (execute (step checksumHash)
      (start ListenerThread.trustingListener.node (.new zeroSecret) 0 0) shutdownBehindOp).map
      (fun s => (s.state, s.phase, s.runs .receiver, s.requests.waiting.isEmpty,
        s.requests.accepted)) = some (.shutdown, .looping, true, true, [.op, .shutdown]) := by
    decide +kernel
  obtain ⟨s, hreach, hfacts⟩ := Option.map_eq_some_iff.mp hends
  simp only [Prod.mk.injEq, List.isEmpty_iff] at hfacts
  obtain ⟨hstate, hphase, hruns, hwaiting, haccepted⟩ := hfacts
  refine ⟨s, hreach, hstate, hruns, ?_⟩
  rw [shutdown_stops_threads_iff _ _ _ _ hreach hstate hphase hwaiting hruns, haccepted]
  decide

end SlaveThread

end TsnFieldbus
