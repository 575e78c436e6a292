import TsnFieldbus.Foundations.SerialRun
import TsnFieldbus.Slave.RequestOutcomes
import TsnFieldbus.Slave.StateRequests

/-!
# Concurrent ConfigureStreams Requests

Any number of ConfigureStreams requests in progress at once, together with SetTargetState
requests. A ConfigureStreams request reads the device state, validates its streams against the
layout, resets the store and adds its streams; each of these is one locked step, and the steps
of different requests interleave freely.

- `serial_of_reset_alone`: without overlap between the resets and additions of two requests,
  the answers and the store are those of a serial execution.
- `streams_change_in_preOp`: when no SetTargetState request takes the device out of `preOp`
  behind a state check, the store changes in `preOp` only.
-/

namespace TsnFieldbus

open Foundations

/-! ## The system -/

/-- What a ConfigureStreams request gets to see: the tokens, the device state and the layout
at the moments it reads them. -/
structure ConfigureInput where
  request : Request ConfigureStreamsRequest
  tokens : String → Bool
  state : DeviceState
  layout : Except HardwareError (List ProcessVariable)

/-- How far a request has come, with what it has read. -/
inductive ConfigureStage where
  | arrived
  /-- Found `preOp`. -/
  | checked (tokens : String → Bool)
  /-- Has validated its streams. -/
  | validated (tokens : String → Bool) (layout : List ProcessVariable)
  /-- Has reset the store and not yet added its streams. -/
  | reset (tokens : String → Bool) (layout : List ProcessVariable)
  | answered

/-- A ConfigureStreams request and how far it has come. -/
structure ConfigureCall where
  request : Request ConfigureStreamsRequest
  stage : ConfigureStage

/-- Between the state check and the answer. -/
def ConfigureStage.pastCheck : ConfigureStage → Bool
  | .checked _ | .validated _ _ | .reset _ _ => true
  | .arrived | .answered => false

/-- Between the reset and the addition. -/
def ConfigureStage.isReset : ConfigureStage → Bool
  | .reset _ _ => true
  | .arrived | .checked _ | .validated _ _ | .answered => false

def ConfigureStage.isAnswered : ConfigureStage → Bool
  | .answered => true
  | .arrived | .checked _ | .validated _ _ | .reset _ _ => false

/-- The service with its requests. -/
structure ConfigureRequests where
  /-- The service and its SetTargetState requests. -/
  stateRequests : StateRequests
  /-- All ConfigureStreams requests, in the order of their arrival. -/
  calls : List ConfigureCall
  /-- What was answered so far, in order. -/
  answers : List (ConfigureInput × Except Status StatusCode)

/-- One move of the scheduler; requests are chosen by position. -/
inductive ConfigureEvent where
  | stateRequest (event : StateRequestEvent)
  | arrive (request : Request ConfigureStreamsRequest)
  | check (position : ℕ) (tokens : String → Bool)
  | validate (position : ℕ) (layout : Except HardwareError (List ProcessVariable))
  | reset (position : ℕ)
  | add (position : ℕ)

namespace ConfigureRequests

/-- The streams. -/
def streamStore (s : ConfigureRequests) : StreamStore := s.stateRequests.service.streamStore

/-- The device state. -/
def state (s : ConfigureRequests) : DeviceState := s.stateRequests.service.stateManager.state

/-- Replace the streams. -/
def withStreams (s : ConfigureRequests) (store : StreamStore) : ConfigureRequests :=
  { s with
    stateRequests :=
      { s.stateRequests with
        service := { s.stateRequests.service with streamStore := store } } }

/-- Move a request on. -/
def advance (s : ConfigureRequests) (position : ℕ) (request : Request ConfigureStreamsRequest)
    (stage : ConfigureStage) : ConfigureRequests :=
  { s with calls := s.calls.set position ⟨request, stage⟩ }

/-- Answer a request. -/
def answer (s : ConfigureRequests) (position : ℕ) (input : ConfigureInput)
    (result : Except Status StatusCode) : ConfigureRequests :=
  { s.advance position input.request .answered with answers := s.answers ++ [(input, result)] }

/-- The effect of one move. -/
def step (s : ConfigureRequests) : ConfigureEvent → Option ConfigureRequests
  | .stateRequest event =>
    match s.stateRequests.step event with
    | none => none
    | some stateRequests => some { s with stateRequests := stateRequests }
  | .arrive request => some { s with calls := s.calls ++ [⟨request, .arrived⟩] }
  | .check position tokens =>
    match s.calls[position]? with
    | some ⟨request, .arrived⟩ =>
      match validateToken tokens request with
      | .error status =>
        some (s.answer position ⟨request, tokens, s.state, .ok []⟩ (.error status))
      | .ok () =>
        if s.state ≠ .preOp then
          some (s.answer position ⟨request, tokens, s.state, .ok []⟩ (.ok .errNotReady))
        else
          some (s.advance position request (.checked tokens))
    | _ => none
  | .validate position layout =>
    match s.calls[position]? with
    | some ⟨request, .checked tokens⟩ =>
      match layout with
      | .error code =>
        some (s.answer position ⟨request, tokens, .preOp, .error code⟩ (.ok code.val))
      | .ok layout =>
        match validateStreams layout [] request.message.streams with
        | .error code =>
          some (s.answer position ⟨request, tokens, .preOp, .ok layout⟩ (.ok code))
        | .ok () => some (s.advance position request (.validated tokens layout))
    | _ => none
  | .reset position =>
    match s.calls[position]? with
    | some ⟨request, .validated tokens layout⟩ =>
      some ((s.withStreams s.streamStore.reset).advance position request
        (.reset tokens layout))
    | _ => none
  | .add position =>
    match s.calls[position]? with
    | some ⟨request, .reset tokens layout⟩ =>
      match s.streamStore.addStreamConfigs request.message.streams with
      | (.error code, store) =>
        some ((s.withStreams store).answer position ⟨request, tokens, .preOp, .ok layout⟩
          (.ok code))
      | (.ok (), store) =>
        some ((s.withStreams store).answer position ⟨request, tokens, .preOp, .ok layout⟩
          (.ok .noError))
    | _ => none

/-- A service without requests. -/
def idle (service : SlaveApiService) : ConfigureRequests :=
  { stateRequests := .idle service
    calls := []
    answers := [] }

/-- Every ConfigureStreams request is answered. -/
def Finished (s : ConfigureRequests) : Prop := ∀ call ∈ s.calls, call.stage.isAnswered = true

instance (s : ConfigureRequests) : Decidable s.Finished :=
  inferInstanceAs (Decidable (∀ call ∈ s.calls, _))

/-! ## One request alone -/

/-- The answer to a request that nothing interrupts, and the streams behind it. -/
def serially (service : SlaveApiService) (store : StreamStore) (input : ConfigureInput) :
    Except Status StatusCode × StreamStore :=
  let outcome := { service with stateManager := ⟨input.state⟩, streamStore := store
    : SlaveApiService }.configureStreams input.tokens input.layout input.request
  (outcome.1, outcome.2.streamStore)

/-- A request alone changes nothing, or it is answered `noError` and its streams are those of
the store. -/
theorem serially_cases (service : SlaveApiService) (store : StreamStore)
    (input : ConfigureInput) :
    (¬ (serially service store input).1 = .ok .noError ∧
      (serially service store input).2 = store) ∨
    ((serially service store input).1 = .ok .noError ∧
      (serially service store input).2.HoldsExactly input.request.message.streams) := by
  rcases SlaveApiService.configureStreams_cases
      { service with stateManager := ⟨input.state⟩, streamStore := store }
      input.tokens input.layout input.request with ⟨hrefused, hsame⟩ | ⟨hok, -⟩
  · exact .inl ⟨hrefused, congrArg SlaveApiService.streamStore hsame⟩
  · exact .inr ⟨hok, SlaveApiService.holdsExactly_of_configured hok⟩

/-- What the stage says about the checks a request has passed. -/
def Progressed (call : ConfigureCall) : Prop :=
  match call.stage with
  | .checked tokens => validateToken tokens call.request = .ok ()
  | .validated tokens layout | .reset tokens layout =>
    validateToken tokens call.request = .ok () ∧
      validateStreams layout [] call.request.message.streams = .ok ()
  | .arrived | .answered => True

/-! ## One step -/

/-- SetTargetState requests do not touch the streams. -/
theorem streamStore_stateRequest {r r' : StateRequests} {event : StateRequestEvent}
    (hstep : r.step event = some r') : r'.service.streamStore = r.service.streamStore := by
  cases event with
  | arrive request =>
    cases hstep
    rfl
  | change position tokens =>
    -- only an accepted change touches the service, and of that not the streams
    simp only [StateRequests.step] at hstep
    split at hstep
    · cases hstep
    · split at hstep
      · cases hstep
        rfl
      · split at hstep
        · cases hstep
          rfl
        · rename_i service hchange
          cases hstep
          unfold SlaveApiService.changeState at hchange
          split at hchange
          · cases hchange
            rfl
          · cases hchange
  | record position timestamp =>
    simp only [StateRequests.step] at hstep
    split at hstep
    · cases hstep
    · cases hstep
      rfl

/-- Everything one move can do, for requests that have passed the checks of their stages. -/
theorem step_cases {s t : ConfigureRequests} {event : ConfigureEvent}
    (hprogressed : ∀ call ∈ s.calls, Progressed call) (hstep : s.step event = some t) :
    (∃ stateEvent r, event = .stateRequest stateEvent ∧
      s.stateRequests.step stateEvent = some r ∧ t = { s with stateRequests := r }) ∨
    (∃ request, t = { s with calls := s.calls ++ [⟨request, .arrived⟩] }) ∨
    -- answered without a look at the streams
    (∃ position call input result, s.calls[position]? = some call ∧
      call.stage.isReset = false ∧ t = s.answer position input result ∧
      ∀ service store, serially service store input = (result, store)) ∨
    -- moved on by a check
    (∃ position call stage, s.calls[position]? = some call ∧ call.stage.isReset = false ∧
      (s.state = .preOp ∨ call.stage.pastCheck = true) ∧ stage.isReset = false ∧
      Progressed ⟨call.request, stage⟩ ∧ t = s.advance position call.request stage) ∨
    (∃ position request tokens layout, event = .reset position ∧
      s.calls[position]? = some ⟨request, .validated tokens layout⟩ ∧
      t = (s.withStreams s.streamStore.reset).advance position request
        (.reset tokens layout)) ∨
    (∃ position request tokens layout result store,
      s.calls[position]? = some ⟨request, .reset tokens layout⟩ ∧
      t = (s.withStreams store).answer position ⟨request, tokens, .preOp, .ok layout⟩ result ∧
      ∀ service before, before.reset = s.streamStore →
        serially service before ⟨request, tokens, .preOp, .ok layout⟩ = (result, store)) := by
  cases event with
  | stateRequest event =>
    left
    simp only [step] at hstep
    split at hstep
    · cases hstep
    · rename_i r hr
      cases hstep
      exact ⟨event, r, rfl, hr, rfl⟩
  | arrive request =>
    right; left
    cases hstep
    exact ⟨request, rfl⟩
  | check position tokens =>
    right; right
    simp only [step] at hstep
    split at hstep
    · rename_i request hcall
      split at hstep
      -- refused tokens are answered without a look at the state
      · rename_i status htoken
        cases hstep
        refine .inl ⟨position, _, _, _, hcall, rfl, rfl, ?_⟩
        intro service store
        simp only [serially, SlaveApiService.configureStreams, htoken]
      · rename_i htoken
        split at hstep
        -- outside `preOp` the request is answered as well
        · rename_i hstate
          cases hstep
          refine .inl ⟨position, _, _, _, hcall, rfl, rfl, ?_⟩
          intro service store
          simp only [serially, SlaveApiService.configureStreams, htoken, if_pos hstate]
        -- in `preOp` the request goes on
        · rename_i hstate
          cases hstep
          exact .inr (.inl ⟨position, _, .checked tokens, hcall, rfl, .inl (not_not.mp hstate),
            rfl, htoken, rfl⟩)
    · cases hstep
  | validate position layout =>
    right; right
    simp only [step] at hstep
    split at hstep
    · rename_i request tokens hcall
      have htoken : validateToken tokens request = .ok () :=
        hprogressed _ (List.mem_of_getElem? hcall)
      split at hstep
      -- the layout could not be read
      · rename_i code
        cases hstep
        refine .inl ⟨position, _, _, _, hcall, rfl, rfl, ?_⟩
        intro service store
        simp [serially, SlaveApiService.configureStreams, htoken]
      · rename_i layout
        split at hstep
        -- the streams do not fit the layout
        · rename_i code hinvalid
          cases hstep
          refine .inl ⟨position, _, _, _, hcall, rfl, rfl, ?_⟩
          intro service store
          simp [serially, SlaveApiService.configureStreams, htoken, hinvalid]
        -- the streams may be replaced
        · rename_i hvalid
          cases hstep
          exact .inr (.inl ⟨position, _, .validated tokens layout, hcall, rfl, .inr rfl, rfl,
            ⟨htoken, hvalid⟩, rfl⟩)
    · cases hstep
  | reset position =>
    right; right; right; right; left
    simp only [step] at hstep
    split at hstep
    · rename_i request tokens layout hcall
      cases hstep
      exact ⟨position, request, tokens, layout, rfl, hcall, rfl⟩
    · cases hstep
  | add position =>
    right; right; right; right; right
    simp only [step] at hstep
    split at hstep
    · rename_i request tokens layout hcall
      -- what the checks have found, so that a serial request would find it too
      obtain ⟨htoken, hvalid⟩ : validateToken tokens request = .ok () ∧
          validateStreams layout [] request.message.streams = .ok () :=
        hprogressed _ (List.mem_of_getElem? hcall)
      split at hstep
      · rename_i code store hadd
        cases hstep
        refine ⟨position, request, tokens, layout, _, _, hcall, rfl, ?_⟩
        intro service before hbefore
        simp [serially, SlaveApiService.configureStreams, htoken, hvalid, hbefore, hadd]
      · rename_i store hadd
        cases hstep
        refine ⟨position, request, tokens, layout, _, _, hcall, rfl, ?_⟩
        intro service before hbefore
        simp [serially, SlaveApiService.configureStreams, htoken, hvalid, hbefore, hadd]
    · cases hstep

/-- Requests that have passed the checks of their stages keep doing so. -/
theorem progressed_step {s t : ConfigureRequests} {event : ConfigureEvent}
    (hprogressed : ∀ call ∈ s.calls, Progressed call) (hstep : s.step event = some t) :
    ∀ call ∈ t.calls, Progressed call := by
  -- a request replaced in the list
  have hset (position : ℕ) (next : ConfigureCall) (hnext : Progressed next) :
      ∀ call ∈ s.calls.set position next, Progressed call := by
    intro call hcall
    rcases List.mem_or_eq_of_mem_set hcall with hold | hnew
    · exact hprogressed call hold
    · exact hnew ▸ hnext
  rcases step_cases hprogressed hstep with ⟨_, r, -, -, rfl⟩ | ⟨request, rfl⟩ |
    ⟨position, call, input, result, -, -, rfl, -⟩ |
    ⟨position, call, stage, -, -, -, -, hnext, rfl⟩ |
    ⟨position, request, tokens, layout, -, hcall, rfl⟩ |
    ⟨position, request, tokens, layout, result, store, -, rfl, -⟩
  · exact hprogressed
  · intro call hcall
    rcases List.mem_append.mp hcall with hold | hnew
    · exact hprogressed call hold
    · rw [List.mem_singleton.mp hnew]
      trivial
  · exact hset position _ trivial
  · exact hset position _ hnext
  · have hvalid : Progressed ⟨request, .validated tokens layout⟩ :=
      hprogressed _ (List.mem_of_getElem? hcall)
    exact hset position ⟨request, .reset tokens layout⟩ hvalid
  · exact hset position _ trivial

/-! ## Serial executions -/

/-- The request at a position is between its reset and its addition. -/
def ResetAt (calls : List ConfigureCall) (position : ℕ) : Prop :=
  ∃ call, calls[position]? = some call ∧ call.stage.isReset = true

/-- Replacing one request. -/
theorem resetAt_set {calls : List ConfigureCall} {position : ℕ} {call next : ConfigureCall}
    (h : calls[position]? = some call) (i : ℕ) :
    ResetAt (calls.set position next) i ↔
      (i = position ∧ next.stage.isReset = true) ∨ (i ≠ position ∧ ResetAt calls i) := by
  obtain ⟨hlt, -⟩ := List.getElem?_eq_some_iff.mp h
  unfold ResetAt
  by_cases hi : i = position
  · subst hi
    rw [List.getElem?_set_self hlt]
    simp
  · rw [List.getElem?_set_ne (Ne.symm hi)]
    simp [hi]

/-- A move from one stage outside the reset to another. -/
theorem resetAt_set_of_not_reset {calls : List ConfigureCall} {position : ℕ}
    {call next : ConfigureCall} (h : calls[position]? = some call)
    (hcall : call.stage.isReset = false) (hnext : next.stage.isReset = false) (i : ℕ) :
    ResetAt (calls.set position next) i ↔ ResetAt calls i := by
  have hnot : ¬ ResetAt calls position := by
    intro hreset
    obtain ⟨call', hcall', hreset⟩ := hreset
    rw [h, Option.some.injEq] at hcall'
    rw [← hcall', hcall] at hreset
    cases hreset
  rw [resetAt_set h]
  by_cases hi : i = position
  · subst hi
    simp [hnot, hnext]
  · simp [hi]

/-- A request that has just arrived is not in its reset. -/
theorem resetAt_append_arrived (calls : List ConfigureCall)
    (request : Request ConfigureStreamsRequest) (i : ℕ) :
    ResetAt (calls ++ [⟨request, .arrived⟩]) i ↔ ResetAt calls i := by
  unfold ResetAt
  by_cases hi : i < calls.length
  · rw [List.getElem?_append_left hi]
  · rw [List.getElem?_append_right (not_lt.mp hi), List.getElem?_eq_none (not_lt.mp hi)]
    constructor
    · intro hreset
      obtain ⟨call, hcall, hreset⟩ := hreset
      rw [List.mem_singleton.mp (List.mem_of_getElem? hcall)] at hreset
      cases hreset
    · intro hreset
      obtain ⟨call, hcall, -⟩ := hreset
      cases hcall

/-- Condition on a step: a request resets the store when no other request is between its own
reset and its addition. -/
def ResetsAlone (s : ConfigureRequests) : ConfigureEvent → Prop
  | .reset _ => ∀ call ∈ s.calls, call.stage.isReset = false
  | _ => True

instance (s : ConfigureRequests) (event : ConfigureEvent) : Decidable (s.ResetsAlone event) :=
  match event with
  | .reset _ => inferInstanceAs (Decidable (∀ call ∈ s.calls, call.stage.isReset = false))
  | .stateRequest _ | .arrive _ | .check _ _ | .validate _ _ | .add _ =>
    inferInstanceAs (Decidable True)

/-- The streams are those of the serial execution of the answered requests, but for the one
request, if any, that has reset them. -/
def Explains (s : ConfigureRequests) (serial : StreamStore) : Prop :=
  ((∀ i, ¬ ResetAt s.calls i) ∧ s.streamStore = serial) ∨
    ∃ position, (∀ i, ResetAt s.calls i ↔ i = position) ∧ s.streamStore = serial.reset

/-- The requests have passed the checks of their stages, and a serial execution explains what
has been answered and what is stored. -/
structure Serial (service : SlaveApiService) (s : ConfigureRequests) : Prop where
  progressed : ∀ call ∈ s.calls, Progressed call
  explained : ∃ serial, SerialRun (serially service) service.streamStore s.answers serial ∧
    s.Explains serial

/-- Moves that keep the streams and who has reset them keep the explanation. -/
theorem Explains.of_same {s t : ConfigureRequests} {serial : StreamStore}
    (h : s.Explains serial) (hstore : t.streamStore = s.streamStore)
    (hreset : ∀ i, ResetAt t.calls i ↔ ResetAt s.calls i) : t.Explains serial := by
  rcases h with ⟨hnone, hserial⟩ | ⟨position, honly, hserial⟩
  · exact .inl ⟨fun i hi => hnone i ((hreset i).mp hi), hstore.trans hserial⟩
  · exact .inr ⟨position, fun i => (hreset i).trans (honly i), hstore.trans hserial⟩

theorem serial_step (service : SlaveApiService) (s : ConfigureRequests)
    (event : ConfigureEvent) (t : ConfigureRequests) (h : Serial service s)
    (hguard : s.ResetsAlone event) (hstep : s.step event = some t) : Serial service t := by
  obtain ⟨serial, hrun, hexplains⟩ := h.explained
  refine ⟨progressed_step h.progressed hstep, ?_⟩
  rcases step_cases h.progressed hstep with ⟨_, r, -, hr, rfl⟩ | ⟨request, rfl⟩ |
    ⟨position, call, input, result, hcall, hstage, rfl, hserial⟩ |
    ⟨position, call, stage, hcall, hstage, -, hnext, -, rfl⟩ |
    ⟨position, request, tokens, layout, rfl, hcall, rfl⟩ |
    ⟨position, request, tokens, layout, result, store, hcall, rfl, hserial⟩
  -- SetTargetState
  · exact ⟨serial, hrun, hexplains.of_same (streamStore_stateRequest hr) (fun _ => Iff.rfl)⟩
  · exact ⟨serial, hrun, hexplains.of_same rfl (resetAt_append_arrived _ _)⟩
  -- answered: one more entry, with no effect
  · refine ⟨serial, ?_, hexplains.of_same rfl (resetAt_set_of_not_reset hcall hstage rfl)⟩
    have hentry := hrun.append_singleton (congrArg Prod.fst (hserial service serial))
    rw [hserial service serial] at hentry
    exact hentry
  · exact ⟨serial, hrun, hexplains.of_same rfl (resetAt_set_of_not_reset hcall hstage hnext)⟩
  -- reset: by the condition it is the only one
  · have hnone : ∀ i, ¬ ResetAt s.calls i := by
      intro i hreset
      obtain ⟨call, hget, hreset⟩ := hreset
      rw [hguard call (List.mem_of_getElem? hget)] at hreset
      cases hreset
    have hstore : s.streamStore = serial := by
      rcases hexplains with ⟨-, hstore⟩ | ⟨i, honly, -⟩
      · exact hstore
      · exact absurd ((honly i).mpr rfl) (hnone i)
    refine ⟨serial, hrun, .inr ⟨position, ?_, ?_⟩⟩
    · intro i
      show ResetAt (s.calls.set position ⟨request, .reset tokens layout⟩) i ↔ i = position
      rw [resetAt_set hcall]
      have hi := hnone i
      simp [hi, ConfigureStage.isReset]
    · show s.streamStore.reset = serial.reset
      rw [hstore]
  -- addition: the request finds the streams as its own reset left them
  · have hreset : ResetAt s.calls position := ⟨_, hcall, rfl⟩
    obtain ⟨honly, hstore⟩ :
        (∀ i, ResetAt s.calls i → i = position) ∧ serial.reset = s.streamStore := by
      rcases hexplains with ⟨hnone, -⟩ | ⟨only, honly, hstore⟩
      · exact absurd hreset (hnone position)
      · rw [(honly position).mp hreset]
        exact ⟨fun i hi => (honly i).mp hi, hstore.symm⟩
    have heffect := hserial service serial hstore
    have hentry := hrun.append_singleton (congrArg Prod.fst heffect)
    rw [heffect] at hentry
    refine ⟨store, hentry, .inl ⟨?_, rfl⟩⟩
    intro i hi
    rcases (resetAt_set hcall i).mp hi with ⟨-, hanswered⟩ | ⟨hne, hother⟩
    · cases hanswered
    · exact hne (honly i hother)

theorem serial_idle (service : SlaveApiService) : Serial service (idle service) where
  progressed := List.forall_mem_nil _
  explained := by
    refine ⟨service.streamStore, SerialRun.nil _ _, .inl ⟨?_, rfl⟩⟩
    intro i hreset
    obtain ⟨call, hcall, -⟩ := hreset
    cases hcall

/-- **Serial requests**: when no request resets the streams while another one is between its
reset and its addition, the answers of finished requests are those of a serial execution, which
also leads to the streams; these are exactly the streams of one of the requests answered
`noError`, or untouched when there is none. -/
theorem serial_of_reset_alone {service : SlaveApiService} {events : List ConfigureEvent}
    {t : ConfigureRequests} (hguard : EveryStep step ResetsAlone (idle service) events)
    (hrun : execute step (idle service) events = some t) (hfinished : t.Finished) :
    SerialRun (serially service) service.streamStore t.answers t.streamStore ∧
      ((t.streamStore = service.streamStore ∧ ∀ entry ∈ t.answers, ¬ entry.2 = .ok .noError) ∨
        ∃ entry ∈ t.answers, entry.2 = .ok .noError ∧
          t.streamStore.HoldsExactly entry.1.request.message.streams) := by
  obtain ⟨serial, hserial, hexplains⟩ :=
    (execute_invariant_of_guarded (serial_step service) (serial_idle service) hguard
      hrun).explained
  -- no finished request is in its reset
  have hstore : t.streamStore = serial := by
    rcases hexplains with ⟨-, hstore⟩ | ⟨position, honly, -⟩
    · exact hstore
    · obtain ⟨call, hcall, hreset⟩ := (honly position).mpr rfl
      have hanswered := hfinished call (List.mem_of_getElem? hcall)
      cases hstage : call.stage <;> simp_all [ConfigureStage.isReset, ConfigureStage.isAnswered]
  rw [hstore]
  refine ⟨hserial, ?_⟩
  exact @SerialRun.overwritten _ _ _ (serially service) (fun result => result = .ok .noError)
    (fun input store => store.HoldsExactly input.request.message.streams)
    (serially_cases service) _ _ _ hserial

/-! ## The device state behind a check -/

/-- Condition on a step: while a ConfigureStreams request is between its state check and its
answer, an accepted SetTargetState request asks for `preOp`. -/
def KeepsPreOpBehindCheck (s : ConfigureRequests) : ConfigureEvent → Prop
  | .stateRequest (.change position tokens) =>
    (∃ call ∈ s.calls, call.stage.pastCheck = true) →
      ∀ request ∈ s.stateRequests.waiting[position]?,
        (validateToken tokens request).toBool = true →
          (s.stateRequests.service.stateManager.trySetTargetState request.message.target).state =
            .preOp
  | _ => True

instance (s : ConfigureRequests) (event : ConfigureEvent) :
    Decidable (s.KeepsPreOpBehindCheck event) :=
  match event with
  | .stateRequest (.change position tokens) =>
    inferInstanceAs (Decidable ((∃ call ∈ s.calls, call.stage.pastCheck = true) →
      ∀ request ∈ s.stateRequests.waiting[position]?,
        (validateToken tokens request).toBool = true →
          (s.stateRequests.service.stateManager.trySetTargetState request.message.target).state =
            .preOp))
  | .stateRequest (.arrive _) | .stateRequest (.record _ _) | .arrive _ | .check _ _
  | .validate _ _ | .reset _ | .add _ => inferInstanceAs (Decidable True)

/-- Behind a state check the device is in `preOp`. -/
structure ChecksHold (s : ConfigureRequests) : Prop where
  progressed : ∀ call ∈ s.calls, Progressed call
  inPreOp : ∀ call ∈ s.calls, call.stage.pastCheck = true → s.state = .preOp

/-- What a SetTargetState request does to the device state. -/
theorem stateManager_stateRequest {r r' : StateRequests} {event : StateRequestEvent}
    (hstep : r.step event = some r') :
    r'.service.stateManager = r.service.stateManager ∨
      ∃ position tokens request, event = .change position tokens ∧
        r.waiting[position]? = some request ∧ (validateToken tokens request).toBool = true ∧
        r'.service.stateManager =
          r.service.stateManager.trySetTargetState request.message.target := by
  cases event with
  | arrive request =>
    cases hstep
    exact .inl rfl
  | change position tokens =>
    -- only an accepted change reaches the state manager
    simp only [StateRequests.step] at hstep
    split at hstep
    · cases hstep
    · rename_i request hrequest
      split at hstep
      · cases hstep
        exact .inl rfl
      · rename_i htoken
        split at hstep
        · cases hstep
          exact .inl rfl
        -- the request holds the lock and its token is valid
        · rename_i service hchange
          cases hstep
          right
          refine ⟨position, tokens, request, rfl, hrequest, by rw [htoken]; rfl, ?_⟩
          unfold SlaveApiService.changeState at hchange
          split at hchange
          · rename_i manager hmanager
            cases hchange
            simp only [DeviceStateManager.trySetTargetState, hmanager]
          · cases hchange
  | record position timestamp =>
    simp only [StateRequests.step] at hstep
    split at hstep
    · cases hstep
    · cases hstep
      exact .inl rfl

theorem checksHold_step (s : ConfigureRequests) (event : ConfigureEvent)
    (t : ConfigureRequests) (h : s.ChecksHold) (hguard : s.KeepsPreOpBehindCheck event)
    (hstep : s.step event = some t) : t.ChecksHold := by
  refine ⟨progressed_step h.progressed hstep, ?_⟩
  rcases step_cases h.progressed hstep with ⟨stateEvent, r, rfl, hr, rfl⟩ | ⟨request, rfl⟩ |
    ⟨position, call, input, result, -, -, rfl, -⟩ |
    ⟨position, call, stage, hcall, -, hstate, -, -, rfl⟩ |
    ⟨position, request, tokens, layout, -, hcall, rfl⟩ |
    ⟨position, request, tokens, layout, result, store, -, rfl, -⟩
  -- a SetTargetState request, guarded
  · intro call hcall hpast
    rcases stateManager_stateRequest hr with hsame |
      ⟨position, tokens, request, rfl, hrequest, htoken, hchanged⟩
    · show r.service.stateManager.state = .preOp
      rw [hsame]
      exact h.inPreOp call hcall hpast
    · show r.service.stateManager.state = .preOp
      rw [hchanged]
      exact hguard ⟨call, hcall, hpast⟩ request hrequest htoken
  · intro call hcall hpast
    rcases List.mem_append.mp hcall with hold | hnew
    · exact h.inPreOp call hold hpast
    · rw [List.mem_singleton.mp hnew] at hpast
      cases hpast
  · intro other hother hpast
    rcases List.mem_or_eq_of_mem_set hother with hold | hnew
    · exact h.inPreOp other hold hpast
    · rw [hnew] at hpast
      cases hpast
  -- the request that moves on has just found `preOp`, or had found it before
  · intro _ _ _
    rcases hstate with hfound | hpast
    · exact hfound
    · exact h.inPreOp call (List.mem_of_getElem? hcall) hpast
  · intro _ _ _
    exact h.inPreOp _ (List.mem_of_getElem? hcall) rfl
  · intro other hother hpast
    rcases List.mem_or_eq_of_mem_set hother with hold | hnew
    · exact h.inPreOp other hold hpast
    · rw [hnew] at hpast
      cases hpast

/-- **Streams change in `preOp`**: when no SetTargetState request takes the device out of
`preOp` while a ConfigureStreams request is between its state check and its answer, a step
that changes the streams is taken in `preOp`, and leaves the device there. -/
theorem streams_change_in_preOp {service : SlaveApiService} {events : List ConfigureEvent}
    {s t : ConfigureRequests} {event : ConfigureEvent}
    (hguard : EveryStep step KeepsPreOpBehindCheck (idle service) events)
    (hrun : execute step (idle service) events = some s) (hstep : s.step event = some t)
    (hchange : t.streamStore ≠ s.streamStore) : s.state = .preOp ∧ t.state = .preOp := by
  have hstart : (idle service).ChecksHold := ⟨List.forall_mem_nil _, List.forall_mem_nil _⟩
  have h : s.ChecksHold := execute_invariant_of_guarded checksHold_step hstart hguard hrun
  rcases step_cases h.progressed hstep with ⟨stateEvent, r, rfl, hr, rfl⟩ | ⟨request, rfl⟩ |
    ⟨position, call, input, result, -, -, rfl, -⟩ |
    ⟨position, call, stage, -, -, -, -, -, rfl⟩ |
    ⟨position, request, tokens, layout, -, hcall, rfl⟩ |
    ⟨position, request, tokens, layout, result, store, hcall, rfl, -⟩
  · exact absurd (streamStore_stateRequest hr) hchange
  · exact absurd rfl hchange
  · exact absurd rfl hchange
  · exact absurd rfl hchange
  -- reset
  · have hpreOp := h.inPreOp _ (List.mem_of_getElem? hcall) rfl
    exact ⟨hpreOp, hpreOp⟩
  -- addition
  · have hpreOp := h.inPreOp _ (List.mem_of_getElem? hcall) rfl
    exact ⟨hpreOp, hpreOp⟩

/-! ## Runs of two requests -/

/-- A device in `preOp` without streams. -/
def unconfiguredService : SlaveApiService :=
  { stateManager := ⟨.preOp⟩
    statusStore := (DeviceStatusStore.new 0).updateState .preOp 0
    streamStore := .new zeroSecret }

/-- A layout with one input byte. -/
def valveLayout : List ProcessVariable := [⟨"valve", 0, Direction.input.toI32, 0, 0, 8⟩]

/-- A request for one stream that fills the byte. -/
def valveRequest (streamId : UInt32) : Request ConfigureStreamsRequest :=
  { token := some "t"
    message :=
      { streams :=
          [{ streamId := streamId
             destinationMac := [2, 0, 0, 0, 0, 1]
             vlanIdPcp := 0
             cycleTimeNano := 1000000
             direction := Direction.input.toI32
             streamContent := some ⟨0, 0, 8⟩ }] } }

/-- Two requests arrive and validate their streams. -/
def twoValidated : List ConfigureEvent :=
  [.arrive (valveRequest 1), .arrive (valveRequest 2), .check 0 (fun _ => true),
    .check 1 (fun _ => true), .validate 0 (.ok valveLayout), .validate 1 (.ok valveLayout)]

theorem serial_of_reset_alone_two_requests :
    ∃ t, execute step (idle unconfiguredService)
        (twoValidated ++ [.reset 1, .add 1, .reset 0, .add 0]) = some t ∧ t.Finished ∧
      SerialRun (serially unconfiguredService) unconfiguredService.streamStore t.answers
        t.streamStore :=
  ⟨_, rfl, by decide, (@serial_of_reset_alone unconfiguredService
    (twoValidated ++ [.reset 1, .add 1, .reset 0, .add 0]) _ (by decide) rfl (by decide)).1⟩

/-- Both requests reset the streams before they add their own: both are answered `noError`,
and the streams of both are stored. -/
theorem overlapping_requests_mix_streams :
    ∃ t, execute step (idle unconfiguredService)
        (twoValidated ++ [.reset 0, .reset 1, .add 0, .add 1]) = some t ∧ t.Finished ∧
      t.answers.map (·.2) = [.ok .noError, .ok .noError] ∧
      ∀ entry ∈ t.answers, ¬ t.streamStore.HoldsExactly entry.1.request.message.streams := by
  refine ⟨_, rfl, by decide, rfl, ?_⟩
  intro entry hentry hholds
  have hfirst := (hholds.only 1 _ rfl).1
  have hsecond := (hholds.only 2 _ rfl).1
  -- one stream cannot be both
  rcases List.mem_pair.mp hentry with rfl | rfl
  · exact absurd hsecond (by decide)
  · exact absurd hfirst (by decide)

theorem streams_change_in_preOp_one_request :
    ∃ s t, execute step (idle unconfiguredService) (twoValidated ++ [.reset 0]) = some s ∧
      s.step (.add 0) = some t ∧ s.state = .preOp ∧ t.state = .preOp := by
  refine ⟨_, _, rfl, rfl, ?_⟩
  apply @streams_change_in_preOp unconfiguredService (twoValidated ++ [.reset 0]) _ _ (.add 0)
    (by decide) rfl rfl
  intro hsame
  exact absurd (congrArg (StreamStore.entry · 1) hsame) (by decide)

/-- The device enters `safeOp` behind the state check of a request, which then replaces the
streams. -/
theorem streams_changed_in_safeOp :
    ∃ s t, execute step (idle unconfiguredService)
        (twoValidated ++ [.stateRequest (.arrive (StateRequests.stateRequest 3)),
          .stateRequest (.change 0 (fun _ => true)), .reset 0]) = some s ∧
      s.step (.add 0) = some t ∧ s.state = .safeOp ∧ t.state = .safeOp ∧
      t.streamStore ≠ s.streamStore := by
  refine ⟨_, _, rfl, rfl, rfl, rfl, ?_⟩
  intro hsame
  exact absurd (congrArg (StreamStore.entry · 1) hsame) (by decide)

end ConfigureRequests

end TsnFieldbus
