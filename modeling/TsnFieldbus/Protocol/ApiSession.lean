import TsnFieldbus.Master.SlaveApiClient
import TsnFieldbus.Slave.ApiServer

/-!
# Sessions of the API

The clones of one API client of the master with the API server of a slave. Other clients may call
the server in between, and calls may fail in the transport before or behind the server.

- `session_step`: what every step preserves when the client holds the key.
- `no_unauthenticated_session_iff`: when a session goes on without an Unauthenticated error,
  however often its token runs out.
- `no_call_without_key`: a session without the key neither gets through nor changes anything.
-/

namespace TsnFieldbus

open Foundations

/-! ## What goes over the wire -/

/-- The `i32` of a device state. -/
def DeviceState.toI32 : DeviceState → Int32
  | .init => 0
  | .discoverySync => 1
  | .preOp => 2
  | .safeOp => 3
  | .op => 4
  | .error => 5
  | .shutdown => 6

theorem DeviceState.tryFrom_toI32 (state : DeviceState) :
    DeviceState.tryFrom state.toI32 = some state := by
  cases state <;> rfl

/-- The `i32` of a status code. -/
def StatusCode.toI32 (code : StatusCode) : Int32 := code.toU8.toUInt32.toInt32

/-- What the handlers read on the slave besides its stores. -/
structure HandlerReads where
  timestamp : UInt64
  info : Except HardwareError DeviceInfo
  layout : Except HardwareError (List ProcessVariable)

/-- The request that a call of the client makes with its token. -/
def ClientCall.request (reads : HandlerReads) : ClientCall → Option ApiRequest
  | .getToken => none
  | .setTargetState targetState => some (.setTargetState ⟨targetState.toI32⟩ reads.timestamp)
  | .getStatus => some .getStatus
  | .subscribeToDeviceStatus minIntervalSec => some (.subscribeToDeviceStatus minIntervalSec)
  | .getDeviceStatusLog offset limit => some (.getDeviceStatusLog ⟨offset, limit⟩)
  | .getDeviceInfo => some (.getDeviceInfo reads.info)
  | .getProcessDataLayout => some (.getProcessDataLayout reads.layout)
  | .configureStreams streams => some (.configureStreams ⟨streams⟩ reads.layout)

/-! ## The session -/

/-- The clones and the server, and what the server has handled, oldest first. -/
structure ApiSession (ι : Type*) where
  clients : SlaveApiClients ι
  server : SlaveApiServer
  calls : List ApiCall

/-- One move of a clone, of the server or of somebody else. -/
inductive ApiSessionEvent (ι : Type*) where
  /-- A step of a clone by itself. -/
  | client (event : ClientEvent ι)
  /-- The server answers GetToken. -/
  | issue (client : ι) (seed : TokenSeed) (now insertedAt : Instant)
  /-- The server answers the request of a clone. -/
  | answer (client : ι) (now : Instant) (reads : HandlerReads)
  /-- A call of a clone fails in the transport. -/
  | fail (client : ι) (status : Status)
  /-- A call of somebody else, or one whose answer is lost. -/
  | other (call : ApiCall)

/-- The steps that do not wait for the server. -/
def ClientEvent.isLocal {ι : Type*} : ClientEvent ι → Bool
  | .issue _ _ | .answer _ _ _ => false
  | .call _ _ | .ensure _ | .store _ | .read _ | .invalidate _ => true

namespace ApiSession

variable {ι : Type*}

/-- After `connect` to a server that has not handed out a token yet. -/
def start (service : SlaveApiService) (key : PreSharedKey) : ApiSession ι :=
  { clients := .start none
    server := .start service key
    calls := [] }

variable (sha256 : Sha256)

/-- The server handles a call. -/
def handled (s : ApiSession ι) (call : ApiCall) : ApiSession ι :=
  { s with
    server := (s.server.handle sha256 call).2
    calls := s.calls ++ [call] }

variable [DecidableEq ι] (parses : String → Bool) (sharedKey : List UInt8)

/-- The effect of one move; `sharedKey` is the key that the client was connected with. -/
def step (s : ApiSession ι) : ApiSessionEvent ι → Option (ApiSession ι)
  | .client event =>
    if event.isLocal then
      (s.clients.step parses event).map (fun clients => { s with clients := clients })
    else none
  | .issue client seed now insertedAt =>
    let response := (s.server.getToken sha256 sharedKey seed now insertedAt).1
    (s.clients.step parses (.issue client (.ok ⟨response.1, response.2.toI32⟩))).map
      (fun clients =>
        { s.handled sha256 (.getToken sharedKey seed now insertedAt) with clients := clients })
  | .answer client now reads =>
    match s.clients.phase client with
    | .sending call _ token =>
      match call.request reads with
      | none => none
      | some request =>
        let call := ApiCall.request (some token) now request
        -- the server has looked at the token already
        (s.clients.step parses (.answer client (fun _ => true)
          ((s.server.handle sha256 call).1.map fun _ => ()))).map
          (fun clients => { s.handled sha256 call with clients := clients })
    | _ => none
  | .fail client status =>
    if unauthenticated (Except.error status : Except Status Unit) then none
    else
      match s.clients.phase client with
      | .refreshing _ _ =>
        (s.clients.step parses (.issue client (.error status))).map
          (fun clients => { s with clients := clients })
      | .sending _ _ _ =>
        (s.clients.step parses (.answer client (fun _ => true) (.error status))).map
          (fun clients => { s with clients := clients })
      | _ => none
  | .other call => some (s.handled sha256 call)

/-- The moves by who makes them. -/
inductive Moves (s : ApiSession ι) : ApiSessionEvent ι → ApiSession ι → Prop where
  | client {event : ClientEvent ι} {clients : SlaveApiClients ι} (hlocal : event.isLocal)
      (hstep : s.clients.step parses event = some clients) :
      Moves s (.client event) { s with clients := clients }
  | issue {client : ι} {seed : TokenSeed} {now insertedAt : Instant}
      {response : String × StatusCode}
      {clients : SlaveApiClients ι}
      (hresponse : (s.server.getToken sha256 sharedKey seed now insertedAt).1 = response)
      (hstep : s.clients.step parses (.issue client (.ok ⟨response.1, response.2.toI32⟩)) =
        some clients) :
      Moves s (.issue client seed now insertedAt)
        { s.handled sha256 (.getToken sharedKey seed now insertedAt) with clients := clients }
  | answer {client : ι} {now : Instant} {reads : HandlerReads} {call : ClientCall} {retry : Bool}
      {token : String} {request : ApiRequest} {clients : SlaveApiClients ι}
      (hphase : s.clients.phase client = .sending call retry token)
      (hstep : s.clients.step parses (.answer client (fun _ => true)
        ((s.server.handle sha256 (.request (some token) now request)).1.map fun _ => ())) =
        some clients) :
      Moves s (.answer client now reads)
        { s.handled sha256 (.request (some token) now request) with clients := clients }
  | fail {client : ι} {status : Status} {clients : SlaveApiClients ι} (event : ClientEvent ι)
      (hstatus : unauthenticated (Except.error status : Except Status Unit) = false)
      (hevent : event = .issue client (.error status) ∨
        event = .answer client (fun _ => true) (.error status))
      (hstep : s.clients.step parses event = some clients) :
      Moves s (.fail client status) { s with clients := clients }
  | other (call : ApiCall) : Moves s (.other call) (s.handled sha256 call)

variable {sha256 parses sharedKey}

theorem moves_of_step {s t : ApiSession ι} {event : ApiSessionEvent ι}
    (h : s.step sha256 parses sharedKey event = some t) :
    s.Moves sha256 parses sharedKey event t := by
  cases event with
  -- steps that need no server
  | client event =>
    simp only [step, Option.ite_none_right_eq_some] at h
    obtain ⟨hlocal, h⟩ := h
    obtain ⟨clients, hstep, rfl⟩ := Option.map_eq_some_iff.mp h
    exact .client hlocal hstep
  | issue client seed now insertedAt =>
    obtain ⟨clients, hstep, rfl⟩ := Option.map_eq_some_iff.mp h
    exact .issue rfl hstep
  -- an answer needs a clone that is sending
  | answer client now reads =>
    simp only [step] at h
    split at h
    · rename_i call retry token hphase
      split at h
      · cases h
      · obtain ⟨clients, hstep, rfl⟩ := Option.map_eq_some_iff.mp h
        exact .answer hphase hstep
    · cases h
  -- the failure reaches a call of GetToken or any other call
  | fail client status =>
    simp only [step, Option.ite_none_left_eq_some] at h
    obtain ⟨hstatus, h⟩ := h
    split at h
    · obtain ⟨clients, hstep, rfl⟩ := Option.map_eq_some_iff.mp h
      exact .fail _ (Bool.eq_false_iff.mpr hstatus) (.inl rfl) hstep
    · obtain ⟨clients, hstep, rfl⟩ := Option.map_eq_some_iff.mp h
      exact .fail _ (Bool.eq_false_iff.mpr hstatus) (.inr rfl) hstep
    · cases h
  | other call =>
    cases h
    exact .other call

end ApiSession

/-! ## The clones -/

namespace SlaveApiClients

variable {ι : Type*} {parses : String → Bool}

/-- No call has returned an Unauthenticated error. -/
def Quiet (s : SlaveApiClients ι) : Prop :=
  ∀ entry ∈ s.returned, unauthenticated entry.2 = false

/-- A clone that is about to store an answer has got a token. -/
def StoresTokens (s : SlaveApiClients ι) : Prop :=
  ∀ client call retry response, s.phase client = .storing call retry response →
    response.carriesToken

/-- What keeps an Unauthenticated error away from the callers at a step. -/
def Withheld (s : SlaveApiClients ι) : ClientEvent ι → Prop
  | .issue _ (.error status) => unauthenticated (Except.error status : Except Status Unit) = false
  | .read _ => s.token ≠ none
  | .answer client tokens handled => ∀ call token, s.phase client = .sending call true token →
    unauthenticated ((validateToken tokens ⟨some token, ()⟩).bind fun _ => handled) = false
  | _ => True

variable [DecidableEq ι]

theorem StoresTokens.proceed {s : SlaveApiClients ι} (h : s.StoresTokens) (client : ι)
    {phase : ClientPhase}
    (hphase : ∀ call retry response, phase = .storing call retry response →
      response.carriesToken) :
    (s.proceed client phase).StoresTokens := by
  intro other call retry response hstoring
  by_cases hother : other = client
  · subst hother
    simp only [SlaveApiClients.proceed, Function.update_self] at hstoring
    exact hphase call retry response hstoring
  · simp only [SlaveApiClients.proceed, Function.update_of_ne hother] at hstoring
    exact h other call retry response hstoring

theorem StoresTokens.finish {s : SlaveApiClients ι} (h : s.StoresTokens) (client : ι)
    (call : ClientCall) (result : Except Status Unit) :
    (s.finish client call result).StoresTokens := by
  have hidle : (s.proceed client .idle).StoresTokens := by
    apply h.proceed
    rintro _ _ _ ⟨⟩
  exact hidle

/-- Only an answer to GetToken brings a clone to storing. -/
theorem storesTokens_step {s t : SlaveApiClients ι} {event : ClientEvent ι}
    (h : s.StoresTokens) (hstep : s.step parses event = some t)
    (hcarries : ∀ client response, event = .issue client (.ok response) → response.carriesToken) :
    t.StoresTokens := by
  cases moves_of_step hstep with
  | call hphase =>
    apply h.proceed
    intro call retry response hstoring
    split at hstoring <;> cases hstoring
  | ensure hphase =>
    apply h.proceed
    intro call retry response hstoring
    split at hstoring <;> cases hstoring
  -- the only step towards storing: the answer carries a token
  | @issue client call retry hphase response =>
    have hnew : (s.proceed client (.storing call retry response)).StoresTokens := by
      apply h.proceed
      rintro _ _ _ ⟨⟩
      exact hcarries client response rfl
    exact hnew
  | refuse hphase status => exact h.finish _ _ _
  | @store client call retry response hphase =>
    unfold storeToken
    split
    -- the stored token does not matter to the phases
    · have hcached : ({ s with token := some response.token } : SlaveApiClients ι).StoresTokens := h
      split
      · exact hcached.finish _ _ _
      · apply hcached.proceed
        rintro _ _ _ ⟨⟩
    · split <;> exact h.finish _ _ _
  | read hphase =>
    unfold attachToken
    split
    · exact h.finish _ _ _
    · split
      · apply h.proceed
        rintro _ _ _ ⟨⟩
      · exact h.finish _ _ _
  -- a rejected first attempt goes to the invalidation, all else returns
  | answer hphase tokens handled =>
    unfold receiveAnswer
    split
    · split
      · exact h.finish _ _ _
      · apply h.proceed
        rintro _ _ _ ⟨⟩
    · exact h.finish _ _ _
  | @invalidate client call hphase =>
    have hensuring : (s.proceed client (.ensuring call true)).StoresTokens := by
      apply h.proceed
      rintro _ _ _ ⟨⟩
    exact hensuring

theorem quiet_finish_iff {s : SlaveApiClients ι} (client : ι) (call : ClientCall)
    (result : Except Status Unit) :
    (s.finish client call result).Quiet ↔ s.Quiet ∧ unauthenticated result = false := by
  change (∀ entry ∈ s.returned ++ [(call, result)], unauthenticated entry.2 = false) ↔ _
  rw [List.forall_mem_append, List.forall_mem_singleton]
  rfl

/-- Which steps let an Unauthenticated error through. -/
theorem quiet_step_iff {s t : SlaveApiClients ι} {event : ClientEvent ι} (hstores : s.StoresTokens)
    (h : s.Quiet) (hstep : s.step parses event = some t) : t.Quiet ↔ s.Withheld event := by
  cases moves_of_step hstep with
  -- steps that return nothing keep what has been returned
  | call hphase => exact iff_of_true h trivial
  | ensure hphase => exact iff_of_true h trivial
  | issue hphase response => exact iff_of_true h trivial
  -- a failed GetToken returns its own code
  | refuse hphase status =>
    rw [quiet_finish_iff]
    exact and_iff_right h
  | @store client call retry response hphase =>
    refine iff_of_true ?_ trivial
    -- the answer has stored its token, so the clone goes on
    rw [storeToken, if_pos (hstores client call retry response hphase)]
    dsimp only
    split
    · exact (quiet_finish_iff _ _ _).mpr ⟨h, rfl⟩
    · exact h
  | @read client call retry hphase =>
    rw [attachToken, Withheld]
    split
    -- no token to attach: the call returns UNAUTHENTICATED
    · rename_i hnone
      rw [quiet_finish_iff]
      exact iff_of_false (fun hquiet => by cases hquiet.2) (fun hpresent => hpresent hnone)
    -- with a token the clone sends, or fails on its own
    · rename_i token htoken
      refine iff_of_true ?_ (by rw [htoken]; exact Option.some_ne_none _)
      split
      · exact h
      · exact (quiet_finish_iff _ _ _).mpr ⟨h, rfl⟩
  | @answer client call retry token hphase tokens handled =>
    -- the condition only speaks of an answer to the retry
    have hwithheld : s.Withheld (.answer client tokens handled) ↔
        (retry = true →
          unauthenticated ((validateToken tokens ⟨some token, ()⟩).bind fun _ => handled) =
            false) := by
      simp only [Withheld, hphase, ClientPhase.sending.injEq]
      constructor
      · exact fun hw hretry => hw call token ⟨rfl, hretry, rfl⟩
      · rintro hw _ _ ⟨-, hretry, rfl⟩
        exact hw hretry
    rw [hwithheld]
    generalize (validateToken tokens ⟨some token, ()⟩).bind (fun _ => handled) = result
    unfold receiveAnswer
    split
    · rename_i message
      -- UNAUTHENTICATED is retried once and returned the second time
      cases retry with
      | true =>
        rw [if_pos rfl, quiet_finish_iff]
        exact iff_of_false (fun hquiet => by cases hquiet.2) (fun hw => by cases hw rfl)
      | false => exact iff_of_true h (fun hretry => by cases hretry)
    · rename_i hother
      -- any other answer is returned as it is
      have hresult : unauthenticated result = false := by
        unfold unauthenticated
        split
        · rename_i message
          exact absurd rfl (hother message)
        · rfl
      rw [quiet_finish_iff]
      exact iff_of_true ⟨h, hresult⟩ (fun _ => hresult)
  | invalidate hphase => exact iff_of_true h trivial

end SlaveApiClients

namespace ApiSession

variable {ι : Type*}

/-- The token store has been called with the calls only, and whatever a clone is about to store
is a token. -/
structure Keyed (sha256 : Sha256) (service : SlaveApiService) (key : PreSharedKey)
    (s : ApiSession ι) : Prop where
  server : s.server = (SlaveApiServer.start service key).run sha256 s.calls
  stores : s.clients.StoresTokens

/-- Condition on a step: a clone that reads the cached token finds one, and a second attempt
comes to the server with a token that is not ten minutes old. -/
def TokenInTime (key : PreSharedKey) (s : ApiSession ι) : ApiSessionEvent ι → Prop
  | .client (.read _) => s.clients.token ≠ none
  | .answer client now _ => ∀ call token, s.clients.phase client = .sending call true token →
    HandedOut key s.calls token now
  | _ => True

variable {sha256 : Sha256} {parses : String → Bool} {sharedKey : List UInt8}
  {service : SlaveApiService} {key : PreSharedKey}

/-- What the token store has been called with when the run ends. -/
def tokenCalls (s : ApiSession ι) : List TokenCall := s.calls.filterMap ApiCall.tokenCall

theorem Keyed.handled {s : ApiSession ι} (h : s.Keyed sha256 service key) (call : ApiCall) :
    (s.handled sha256 call).Keyed sha256 service key where
  server := by
    rw [ApiSession.handled, SlaveApiServer.run_append_singleton, ← h.server]
  stores := h.stores

theorem keyed_start : (start service key : ApiSession ι).Keyed sha256 service key where
  server := rfl
  stores := by
    rintro _ _ _ _ ⟨⟩

theorem generateToken_ne_empty (seed : TokenSeed) : generateToken seed ≠ "" := by
  intro hempty
  have hchars := congrArg String.toList hempty
  rw [generateToken, String.toList_ofList] at hchars
  exact List.append_ne_nil_of_right_ne_nil _ (List.cons_ne_nil _ _) hchars

/-- The server answers a client that holds the key with a token. -/
theorem Keyed.carriesToken {s : ApiSession ι} (h : s.Keyed sha256 service key)
    (seed : TokenSeed) (now insertedAt : Instant) :
    GetTokenResponse.carriesToken
      ⟨(s.server.getToken sha256 key.bytes.toList seed now insertedAt).1.1,
        (s.server.getToken sha256 key.bytes.toList seed now insertedAt).1.2.toI32⟩ = true := by
  rw [h.server, SlaveApiServer.response_getToken, SlaveApiServer.expectedSharedKey_run, if_pos rfl]
  exact (Bool.and_eq_true _ _).mpr ⟨rfl, decide_eq_true (generateToken_ne_empty seed)⟩

variable [DecidableEq ι]

theorem session_step (s : ApiSession ι) (event : ApiSessionEvent ι) (t : ApiSession ι)
    (h : s.Keyed sha256 service key)
    (hstep : s.step sha256 parses key.bytes.toList event = some t) :
    t.Keyed sha256 service key := by
  cases moves_of_step hstep with
  | client hlocal hclients =>
    refine ⟨h.server, SlaveApiClients.storesTokens_step h.stores hclients ?_⟩
    rintro client response rfl
    cases hlocal
  -- the only step that hands a token over
  | issue hresponse hclients =>
    refine ⟨(h.handled _).server, SlaveApiClients.storesTokens_step h.stores hclients ?_⟩
    rintro client response heq
    cases heq
    rw [← hresponse]
    exact h.carriesToken _ _ _
  -- the others keep the stores of both sides as they must be
  | answer hphase hclients =>
    refine ⟨(h.handled _).server, SlaveApiClients.storesTokens_step h.stores hclients ?_⟩
    rintro _ _ ⟨⟩
  | fail clientEvent hstatus hevent hclients =>
    refine ⟨h.server, SlaveApiClients.storesTokens_step h.stores hclients ?_⟩
    rintro client response rfl
    rcases hevent with hevent | hevent <;> cases hevent
  | other call => exact h.handled call

/-- Which moves let an Unauthenticated error through. -/
theorem quiet_move_iff {s t : ApiSession ι} {event : ApiSessionEvent ι}
    (h : s.Keyed sha256 service key) (hquiet : s.clients.Quiet)
    (hstep : s.step sha256 parses key.bytes.toList event = some t)
    (horderly : TokenStore.OrderlyRun sha256 key t.tokenCalls) :
    t.clients.Quiet ↔ s.TokenInTime key event := by
  cases moves_of_step hstep with
  | @client clientEvent clients hlocal hclients =>
    rw [SlaveApiClients.quiet_step_iff h.stores hquiet hclients]
    cases clientEvent with
    | issue client response => cases hlocal
    | answer client tokens handled => cases hlocal
    | call client call => exact Iff.rfl
    | ensure client => exact Iff.rfl
    | store client => exact Iff.rfl
    | read client => exact Iff.rfl
    | invalidate client => exact Iff.rfl
  | issue hresponse hclients =>
    rw [SlaveApiClients.quiet_step_iff h.stores hquiet hclients]
    exact Iff.rfl
  | @answer client now reads call retry token request clients hphase hclients =>
    rw [SlaveApiClients.quiet_step_iff h.stores hquiet hclients]
    -- the server rejects a token exactly if it has not been handed out in time
    have hserved : (∃ answer, (s.server.handle sha256 (.request (some token) now request)).1 =
        .ok answer) ↔ HandedOut key s.calls token now := by
      rw [SlaveApiServer.handle_request_isOk_iff, Option.any_some, h.server]
      exact SlaveApiServer.tokens_iff_handedOut horderly
    refine forall_congr' fun call' => forall_congr' fun token' => forall_congr' fun hsending => ?_
    cases hphase.symm.trans hsending
    rw [← hserved]
    by_cases hok : ∃ answer, (s.server.handle sha256 (.request (some token) now request)).1 =
        .ok answer
    · refine iff_of_true ?_ hok
      obtain ⟨answer, hanswer⟩ := hok
      rw [hanswer]
      rfl
    · refine iff_of_false ?_ hok
      rw [SlaveApiServer.handle_request_isOk_iff] at hok
      rw [(SlaveApiServer.handle_of_refused hok request).1]
      rintro ⟨⟩
  | fail clientEvent hstatus hevent hclients =>
    rw [SlaveApiClients.quiet_step_iff h.stores hquiet hclients]
    rcases hevent with rfl | rfl
    · exact iff_of_true hstatus trivial
    · exact iff_of_true (fun _ _ _ => hstatus) trivial
  | other call => exact iff_of_true hquiet trivial

/-- The token store has not been called with more before a move than behind it. -/
theorem tokenCalls_prefix_step {s t : ApiSession ι} {event : ApiSessionEvent ι}
    (hstep : s.step sha256 parses sharedKey event = some t) : s.tokenCalls <+: t.tokenCalls := by
  have hhandled : ∀ call, s.tokenCalls <+: (s.handled sha256 call).tokenCalls := fun call =>
    (List.prefix_append s.calls [call]).filterMap _
  cases moves_of_step hstep with
  | client hlocal hclients => exact List.prefix_rfl
  | issue hresponse hclients => exact hhandled _
  | answer hphase hclients => exact hhandled _
  | fail clientEvent hstatus hevent hclients => exact List.prefix_rfl
  | other call => exact hhandled call

/-- What calls have returned stays returned. -/
theorem quiet_of_step {s t : ApiSession ι} {event : ApiSessionEvent ι}
    (hstep : s.step sha256 parses sharedKey event = some t) (h : t.clients.Quiet) :
    s.clients.Quiet := by
  have hbegins : s.clients.returned <+: t.clients.returned := by
    cases moves_of_step hstep with
    | client hlocal hclients => exact SlaveApiClients.returned_prefix_step hclients
    | issue hresponse hclients => exact SlaveApiClients.returned_prefix_step hclients
    | answer hphase hclients => exact SlaveApiClients.returned_prefix_step hclients
    | fail clientEvent hstatus hevent hclients =>
      exact SlaveApiClients.returned_prefix_step hclients
    | other call => exact List.prefix_rfl
  exact fun entry hmem => h entry (hbegins.subset hmem)

/-- **Sessions renew themselves.** A client that holds the key gets no Unauthenticated error in a
run, however often its token runs out, if and only if every clone finds a token when it reads the
cached one, and every second attempt reaches the server with a token that is not ten minutes
old. -/
theorem no_unauthenticated_session_iff {events : List (ApiSessionEvent ι)} {s : ApiSession ι}
    (hrun : execute (step sha256 parses key.bytes.toList) (start service key) events = some s)
    (horderly : TokenStore.OrderlyRun sha256 key s.tokenCalls) :
    (∀ entry ∈ s.clients.returned, unauthenticated entry.2 = false) ↔
      EveryStep (step sha256 parses key.bytes.toList) (TokenInTime key) (start service key)
        events := by
  have hquiet : (start service key : ApiSession ι).clients.Quiet := by
    rintro entry ⟨⟩
  apply execute_latch_iff_of_guarded (I := Keyed sha256 service key)
    (P := fun s => s.clients.Quiet) (H := fun s event =>
      ∀ t ∈ s.step sha256 parses key.bytes.toList event,
        TokenStore.OrderlyRun sha256 key t.tokenCalls) _ _ _ keyed_start hquiet _ hrun
  · exact fun s event t h _ => session_step s event t h
  · exact fun s event t h hnext hquiet hstep => quiet_move_iff h hquiet hstep (hnext t hstep)
  · exact fun s event t _ hloud hstep hquiet => hloud (quiet_of_step hstep hquiet)
  · apply EveryStep.of_backward (fun s event t hstep hnext => ?_) hrun horderly
    obtain ⟨later, hlater⟩ := tokenCalls_prefix_step hstep
    rw [← hlater] at hnext
    exact hnext.of_append

/-- A device that is asked for its state, and asked again when the token has run out. -/
def renewedSession : List (ApiSessionEvent Unit) :=
  let reads : HandlerReads := ⟨0, .error ⟨.errHardwareAccess, nofun⟩, .ok []⟩
  [.client (.call () .getStatus), .client (.ensure ()), .issue () (TokenStore.seedOf 1) 100 101,
    .client (.store ()), .client (.read ()), .answer () 200 reads,
    .client (.call () .getStatus), .client (.ensure ()), .client (.read ()),
    .answer () (100 + tokenTtl) reads, .client (.invalidate ()), .client (.ensure ()),
    .issue () (TokenStore.seedOf 2) (101 + tokenTtl) (102 + tokenTtl), .client (.store ()),
    .client (.read ()), .answer () (103 + tokenTtl) reads]

/-- What the token store sees of it. -/
def renewedCalls : List TokenCall :=
  [.issueToken zeroSecret.toList tokenTtl (TokenStore.seedOf 1) 100 101,
    .validateToken (generateToken (TokenStore.seedOf 1)) 200,
    .validateToken (generateToken (TokenStore.seedOf 1)) (100 + tokenTtl),
    .issueToken zeroSecret.toList tokenTtl (TokenStore.seedOf 2) (101 + tokenTtl)
      (102 + tokenTtl),
    .validateToken (generateToken (TokenStore.seedOf 2)) (103 + tokenTtl)]

theorem no_unauthenticated_session_iff_renewed :
    ∃ s, execute (step (checksumHash zeroSecret) (fun _ => true) zeroSecret.toList)
        (start SlaveApiServer.preOpService ⟨zeroSecret⟩) renewedSession = some s ∧
      s.clients.returned = [(.getStatus, .ok ()), (.getStatus, .ok ())] ∧
      EveryStep (step (checksumHash zeroSecret) (fun _ => true) zeroSecret.toList)
        (TokenInTime ⟨zeroSecret⟩) (start SlaveApiServer.preOpService ⟨zeroSecret⟩)
        renewedSession := by
  obtain ⟨s, hrun, hreturned, hcalls⟩ : ∃ s,
      execute (step (checksumHash zeroSecret) (fun _ => true) zeroSecret.toList)
        (start SlaveApiServer.preOpService ⟨zeroSecret⟩) renewedSession = some s ∧
      s.clients.returned = [(.getStatus, .ok ()), (.getStatus, .ok ())] ∧
      s.tokenCalls = renewedCalls := ⟨_, rfl, rfl, rfl⟩
  -- the run is orderly: its two tokens have different hashes
  have hne : hashToken (checksumHash zeroSecret) (generateToken (TokenStore.seedOf 1)) ≠
      hashToken (checksumHash zeroSecret) (generateToken (TokenStore.seedOf 2)) := by
    decide +kernel
  have horderly : TokenStore.OrderlyRun (checksumHash zeroSecret) ⟨zeroSecret⟩ s.tokenCalls := by
    rw [hcalls]
    refine ⟨by decide, by decide +kernel, ?_⟩
    have htwo : ∀ token ∈ renewedCalls.map TokenCall.token,
        token = generateToken (TokenStore.seedOf 1) ∨
          token = generateToken (TokenStore.seedOf 2) := by
      intro token hmem
      simpa [renewedCalls, TokenCall.token] using hmem
    intro token htoken other hother hhash
    rcases htwo token htoken with rfl | rfl <;> rcases htwo other hother with rfl | rfl
    · rfl
    · exact absurd hhash hne
    · exact absurd hhash.symm hne
    · rfl
  refine ⟨s, hrun, hreturned, (no_unauthenticated_session_iff hrun horderly).mp ?_⟩
  rw [hreturned]
  decide

end ApiSession

/-! ## Sessions without the key -/

/-- The clone has no token at hand. -/
def ClientPhase.Barred : ClientPhase → Prop
  | .idle | .ensuring _ _ | .refreshing _ _ | .rejected _ => True
  | .storing _ _ response => response.carriesToken = false
  | .reading _ _ | .sending _ _ _ => False

/-- No clone has a token, and none of their calls but GetToken has succeeded. -/
structure SlaveApiClients.Barred {ι : Type*} (s : SlaveApiClients ι) : Prop where
  token : s.token = none
  phase : ∀ client, (s.phase client).Barred
  returned : ∀ entry ∈ s.returned, entry.2 = .ok () → entry.1 = .getToken

namespace SlaveApiClients

variable {ι : Type*} [DecidableEq ι] {parses : String → Bool}

theorem Barred.proceed {s : SlaveApiClients ι} (h : s.Barred) (client : ι) {phase : ClientPhase}
    (hphase : phase.Barred) : (s.proceed client phase).Barred where
  token := h.token
  phase other := by
    by_cases hother : other = client
    · subst hother
      simpa [SlaveApiClients.proceed] using hphase
    · simpa [SlaveApiClients.proceed, hother] using h.phase other
  returned := h.returned

theorem Barred.finish {s : SlaveApiClients ι} (h : s.Barred) (client : ι) {call : ClientCall}
    {result : Except Status Unit} (hresult : result = .ok () → call = .getToken) :
    (s.finish client call result).Barred where
  token := h.token
  phase := (h.proceed client trivial : (s.proceed client .idle).Barred).phase
  returned := by
    intro entry hmem
    rcases List.mem_append.mp hmem with hold | hnew
    · exact h.returned entry hold
    · rw [List.mem_singleton.mp hnew]
      exact hresult

/-- Only a token of the server could help. -/
theorem barred_step {s t : SlaveApiClients ι} {event : ClientEvent ι} (h : s.Barred)
    (hstep : s.step parses event = some t)
    (hcarries : ∀ client response, event = .issue client (.ok response) →
      response.carriesToken = false) : t.Barred := by
  cases moves_of_step hstep with
  | call hphase =>
    apply h.proceed
    split <;> trivial
  | ensure hphase =>
    apply h.proceed
    rw [h.token]
    trivial
  -- the answer to a clone without the key carries no token
  | @issue client call retry hphase response =>
    have hstoring : ClientPhase.Barred (.storing call retry response) :=
      hcarries client response rfl
    have hnew := h.proceed client hstoring
    exact ⟨hnew.token, hnew.phase, hnew.returned⟩
  | refuse hphase status =>
    apply h.finish
    rintro ⟨⟩
  -- so nothing is stored
  | @store client call retry response hphase =>
    have hempty : response.carriesToken = false := by
      have hbarred := h.phase client
      rw [hphase] at hbarred
      exact hbarred
    rw [storeToken, if_neg (by rw [hempty]; exact Bool.false_ne_true)]
    split
    · rename_i hget
      exact h.finish client fun _ => hget
    · apply h.finish
      rintro ⟨⟩
  -- no clone gets as far as reading or sending
  | @read client call retry hphase =>
    have hbarred := h.phase client
    rw [hphase] at hbarred
    exact hbarred.elim
  | @answer client call retry token hphase tokens handled =>
    have hbarred := h.phase client
    rw [hphase] at hbarred
    exact hbarred.elim
  | @invalidate client call hphase =>
    have hensuring : ClientPhase.Barred (.ensuring call true) := trivial
    have hnew := h.proceed client hensuring
    exact ⟨rfl, hnew.phase, hnew.returned⟩

end SlaveApiClients

namespace ApiSession

variable {ι : Type*} [DecidableEq ι] {sha256 : Sha256} {parses : String → Bool}
  {sharedKey : List UInt8} {service : SlaveApiService} {key : PreSharedKey}

/-- Condition on a step: nobody else asks for a token with the key. -/
def NoKey (key : PreSharedKey) (event : ApiSessionEvent ι) : Prop :=
  ∀ seed now insertedAt, event ≠ .other (.getToken key.bytes.toList seed now insertedAt)

theorem barred_session_step (hkey : sharedKey ≠ key.bytes.toList) (s : ApiSession ι)
    (event : ApiSessionEvent ι) (t : ApiSession ι)
    (h : s.clients.Barred ∧ s.server = .start service key) (hguard : NoKey key event)
    (hstep : s.step sha256 parses sharedKey event = some t) :
    t.clients.Barred ∧ t.server = .start service key := by
  obtain ⟨hbarred, hserver⟩ := h
  cases moves_of_step hstep with
  -- a step of a clone alone brings no answer
  | client hlocal hclients =>
    refine ⟨SlaveApiClients.barred_step hbarred hclients ?_, hserver⟩
    rintro client response rfl
    cases hlocal
  | @issue client seed now insertedAt response clients hresponse hclients =>
    refine ⟨SlaveApiClients.barred_step hbarred hclients ?_, ?_⟩
    · rintro _ _ ⟨⟩
      -- the server rejects the key of these clients
      rw [hserver, SlaveApiServer.response_getToken] at hresponse
      rw [hresponse.symm.trans (if_neg hkey)]
      rfl
    · simp only [handled, hserver]
      apply SlaveApiServer.handle_of_no_key
      rintro _ _ _ ⟨⟩
      exact hkey rfl
  -- no clone has sent anything
  | @answer client now reads call retry token request clients hphase hclients =>
    have hsending := hbarred.phase client
    rw [hphase] at hsending
    exact hsending.elim
  -- a failed transport carries no token
  | fail clientEvent hstatus hevent hclients =>
    refine ⟨SlaveApiClients.barred_step hbarred hclients ?_, hserver⟩
    rintro client response rfl
    rcases hevent with hevent | hevent <;> cases hevent
  -- other parties do not know the key either
  | other call =>
    refine ⟨hbarred, ?_⟩
    simp only [handled, hserver]
    apply SlaveApiServer.handle_of_no_key
    rintro seed now insertedAt rfl
    exact hguard seed now insertedAt rfl

/-- **Nothing happens without the key.** In a run in which neither the client nor anybody else
holds the key of the slave, no call of a clone but GetToken succeeds, whatever the transport
does, and the slave is as it was. -/
theorem no_call_without_key {events : List (ApiSessionEvent ι)} {s : ApiSession ι}
    (hkey : sharedKey ≠ key.bytes.toList) (hothers : ∀ event ∈ events, NoKey key event)
    (hrun : execute (step sha256 parses sharedKey) (start service key) events = some s) :
    s.server.service = service ∧
      ∀ entry ∈ s.clients.returned, entry.2 = .ok () → entry.1 = .getToken := by
  have hstart : (start service key : ApiSession ι).clients.Barred := by
    refine ⟨rfl, fun _ => trivial, ?_⟩
    rintro entry ⟨⟩
  obtain ⟨hbarred, hserver⟩ := execute_invariant_of_guarded (barred_session_step hkey)
    ⟨hstart, rfl⟩ (EveryStep.of_forall_mem hothers) hrun
  rw [hserver]
  exact ⟨rfl, hbarred.returned⟩

/-- The wrong key is tried, a token is guessed, and the transport fails once. -/
def keylessSession : List (ApiSessionEvent Bool) :=
  [.client (.call true (.setTargetState .op)), .client (.call false .getToken),
    .client (.ensure true), .issue true (TokenStore.seedOf 1) 100 101, .client (.store true),
    .other (.request (some "guess") 102 (.setTargetState ⟨4⟩ 0)),
    .fail false (.other "broken pipe"),
    .client (.call false .getToken), .issue false (TokenStore.seedOf 2) 103 104,
    .client (.store false)]

theorem no_call_without_key_guessed :
    ∃ s, execute (step (checksumHash zeroSecret) (fun _ => true) [1, 2, 3])
        (start SlaveApiServer.preOpService ⟨zeroSecret⟩) keylessSession = some s ∧
      s.clients.returned =
        [(.setTargetState .op, .error (.unauthenticated "token refresh failed")),
          (.getToken, .error (.other "broken pipe")), (.getToken, .ok ())] ∧
      s.server.service = SlaveApiServer.preOpService := by
  obtain ⟨s, hrun, hreturned⟩ : ∃ s,
      execute (step (checksumHash zeroSecret) (fun _ => true) [1, 2, 3])
        (start SlaveApiServer.preOpService ⟨zeroSecret⟩) keylessSession = some s ∧
      s.clients.returned =
        [(.setTargetState .op, .error (.unauthenticated "token refresh failed")),
          (.getToken, .error (.other "broken pipe")), (.getToken, .ok ())] := ⟨_, rfl, rfl⟩
  refine ⟨s, hrun, hreturned, (no_call_without_key (by decide) ?_ hrun).1⟩
  intro event hmem seed now insertedAt heq
  subst heq
  simp [keylessSession] at hmem

end ApiSession

end TsnFieldbus
