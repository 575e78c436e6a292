import TsnFieldbus.Slave.RequestOutcomes
import TsnFieldbus.Slave.StatusLog
import TsnFieldbus.Slave.TokenStore

/-!
# The API Server

All endpoints of `slave_api.rs` over the stores of the device and the token store. The server
handles one call after the other; what a handler reads from the clock, the random source and the
hardware is an argument of the call.

- `tokenStore_run`: the token store sees the keys and tokens of the calls, and nothing else.
- `served_iff_handedOut`: which calls of a run are served, and that only these change the device.
- `stores_follow_answers`: the device state and the streams are those of the last requests that
  were acknowledged.
-/

namespace TsnFieldbus

/-! ## The calls -/

/-- `TOKEN_TTL_SECONDS`, in nanoseconds. -/
def tokenTtl : ℕ := 600 * 10 ^ 9

/-- `GetDeviceInfoResponse`. -/
structure GetDeviceInfoResponse where
  code : StatusCode
  deviceInfo : Option DeviceInfo

/-- `ProcessDataLayoutResponse`. -/
structure ProcessDataLayoutResponse where
  code : StatusCode
  processVariables : List ProcessVariable

/-- The requests that need a token, with what their handlers read besides the stores. -/
inductive ApiRequest where
  | setTargetState (request : SetTargetStateRequest) (timestamp : UInt64)
  | getStatus
  | subscribeToDeviceStatus (minIntervalSec : Option UInt32)
  | getDeviceStatusLog (request : GetLogRequest)
  | getDeviceInfo (info : Except HardwareError DeviceInfo)
  | getProcessDataLayout (layout : Except HardwareError (List ProcessVariable))
  | configureStreams (request : ConfigureStreamsRequest)
      (layout : Except HardwareError (List ProcessVariable))

/-- A call of the API; `now` is when its token is looked up. -/
inductive ApiCall where
  | getToken (sharedKey : List UInt8) (seed : TokenSeed) (now insertedAt : Instant)
  | request (token : Option String) (now : Instant) (request : ApiRequest)

/-- What a served call is answered. -/
inductive ApiAnswer where
  | token (token : String) (status : StatusCode)
  | code (code : StatusCode)
  | status (status : DeviceStatus)
  | subscribed
  | log (response : GetLogResponse)
  | deviceInfo (response : GetDeviceInfoResponse)
  | layout (response : ProcessDataLayoutResponse)

namespace SlaveApiService

/-- `get_status`. -/
def getStatus (service : SlaveApiService) (tokens : String → Bool) (request : Request Unit) :
    Except Status DeviceStatus :=
  match validateToken tokens request with
  | .error status => .error status
  | .ok () => .ok service.statusStore.current

/-- `subscribe_to_device_status` up to the task that it spawns. -/
def subscribeToDeviceStatus (tokens : String → Bool) (request : Request (Option UInt32)) :
    Except Status Unit :=
  match validateToken tokens request with
  | .error status => .error status
  | .ok () => .ok ()

/-- `get_device_info`; `info` is the answer of `read_device_info`. -/
def getDeviceInfo (tokens : String → Bool) (info : Except HardwareError DeviceInfo)
    (request : Request Unit) : Except Status GetDeviceInfoResponse :=
  match validateToken tokens request with
  | .error status => .error status
  | .ok () =>
    match info with
    | .error code => .ok { code := code.val, deviceInfo := none }
    | .ok info => .ok { code := .noError, deviceInfo := some info }

/-- `get_process_data_layout`; `layout` is the answer of `get_layout`. -/
def getProcessDataLayout (tokens : String → Bool)
    (layout : Except HardwareError (List ProcessVariable)) (request : Request Unit) :
    Except Status ProcessDataLayoutResponse :=
  match validateToken tokens request with
  | .error status => .error status
  | .ok () =>
    match layout with
    | .error code => .ok { code := code.val, processVariables := [] }
    | .ok layout => .ok { code := .noError, processVariables := layout }

/-- What a request is answered when the token store answers `tokens`, and the stores behind it. -/
def serve (service : SlaveApiService) (tokens : String → Bool) (token : Option String) :
    ApiRequest → Except Status ApiAnswer × SlaveApiService
  | .setTargetState request timestamp =>
    let outcome := service.setTargetState tokens ⟨token, request⟩ timestamp
    (outcome.1.map .code, outcome.2)
  | .getStatus => ((service.getStatus tokens ⟨token, ()⟩).map .status, service)
  | .subscribeToDeviceStatus minIntervalSec =>
    ((subscribeToDeviceStatus tokens ⟨token, minIntervalSec⟩).map fun _ => .subscribed, service)
  | .getDeviceStatusLog request =>
    ((service.getDeviceStatusLog tokens ⟨token, request⟩).map .log, service)
  | .getDeviceInfo info => ((getDeviceInfo tokens info ⟨token, ()⟩).map .deviceInfo, service)
  | .getProcessDataLayout layout =>
    ((getProcessDataLayout tokens layout ⟨token, ()⟩).map .layout, service)
  | .configureStreams request layout =>
    let outcome := service.configureStreams tokens layout ⟨token, request⟩
    (outcome.1.map .code, outcome.2)

end SlaveApiService

/-- The stores that the API works on. -/
structure SlaveApiServer where
  service : SlaveApiService
  tokenStore : TokenStore

namespace SlaveApiServer

variable (sha256 : Sha256)

/-- A server that has not handed out a token yet. -/
def start (service : SlaveApiService) (key : PreSharedKey) : SlaveApiServer :=
  { service := service
    tokenStore := .new key }

/-- What `validate_token` of the token store answers. -/
def tokens (server : SlaveApiServer) (now : Instant) (token : String) : Bool :=
  (server.tokenStore.validateToken sha256 token now).1

/-- `get_token`: the token and the status of the response. -/
def getToken (server : SlaveApiServer) (sharedKey : List UInt8) (seed : TokenSeed)
    (now insertedAt : Instant) : (String × StatusCode) × SlaveApiServer :=
  match server.tokenStore.issueToken sha256 sharedKey tokenTtl seed now insertedAt with
  | (.ok token, store) => ((token, .noError), { server with tokenStore := store })
  | (.error code, store) => (("", code), { server with tokenStore := store })

/-- The answer to a call and the server behind it. -/
def handle (server : SlaveApiServer) : ApiCall → Except Status ApiAnswer × SlaveApiServer
  | .getToken sharedKey seed now insertedAt =>
    let outcome := server.getToken sha256 sharedKey seed now insertedAt
    (.ok (.token outcome.1.1 outcome.1.2), outcome.2)
  | .request token now request =>
    let outcome := server.service.serve (server.tokens sha256 now) token request
    (outcome.1,
      { service := outcome.2
        tokenStore :=
          match token with
          | some token => (server.tokenStore.validateToken sha256 token now).2
          | none => server.tokenStore })

/-- The server after a sequence of calls. -/
def run (server : SlaveApiServer) (calls : List ApiCall) : SlaveApiServer :=
  calls.foldl (fun server call => (server.handle sha256 call).2) server

/-- The calls with their answers. -/
def transcript (server : SlaveApiServer) : List ApiCall → List (ApiCall × Except Status ApiAnswer)
  | [] => []
  | call :: calls =>
    (call, (server.handle sha256 call).1) :: transcript (server.handle sha256 call).2 calls

end SlaveApiServer

/-! ## One call -/

/-- The token alone decides whether a request is let through. -/
theorem validateToken_eq_ite {T : Type} (tokens : String → Bool) (token : Option String)
    (message : T) :
    validateToken tokens ⟨token, message⟩ =
      if token.any tokens then .ok ()
      else .error (.unauthenticated "missing or invalid token") := by
  cases token with
  | none => rfl
  | some token => rfl

namespace SlaveApiService

variable {service : SlaveApiService} {tokens : String → Bool} {token : Option String}

/-- A request without a valid token is refused, and nothing changes. -/
theorem serve_of_refused (h : token.any tokens = false) (request : ApiRequest) :
    service.serve tokens token request =
      (.error (.unauthenticated "missing or invalid token"), service) := by
  have hrefused {T : Type} (message : T) : validateToken tokens ⟨token, message⟩ =
      .error (.unauthenticated "missing or invalid token") := by
    rw [validateToken_eq_ite, h]
    rfl
  cases request with
  | setTargetState request timestamp => simp only [serve, setTargetState, hrefused, Except.map]
  | getStatus => simp only [serve, getStatus, hrefused, Except.map]
  | subscribeToDeviceStatus minIntervalSec =>
    simp only [serve, subscribeToDeviceStatus, hrefused, Except.map]
  | getDeviceStatusLog request => simp only [serve, getDeviceStatusLog, hrefused, Except.map]
  | getDeviceInfo info => simp only [serve, getDeviceInfo, hrefused, Except.map]
  | getProcessDataLayout layout => simp only [serve, getProcessDataLayout, hrefused, Except.map]
  | configureStreams request layout =>
    simp only [serve, configureStreams, hrefused, Except.map]

/-- A request with a valid token is answered. -/
theorem serve_of_admitted (h : token.any tokens = true) (request : ApiRequest) :
    ∃ answer, (service.serve tokens token request).1 = .ok answer := by
  have hadmitted {T : Type} (message : T) : validateToken tokens ⟨token, message⟩ = .ok () := by
    rw [validateToken_eq_ite, h]
    rfl
  cases request with
  | setTargetState request timestamp =>
    simp only [serve, setTargetState, hadmitted]
    cases service.changeState request.target <;> exact ⟨_, rfl⟩
  | getStatus =>
    simp only [serve, getStatus, hadmitted]
    exact ⟨_, rfl⟩
  | subscribeToDeviceStatus minIntervalSec =>
    simp only [serve, subscribeToDeviceStatus, hadmitted]
    exact ⟨_, rfl⟩
  | getDeviceStatusLog request =>
    simp only [serve, getDeviceStatusLog, hadmitted]
    exact ⟨_, rfl⟩
  | getDeviceInfo info =>
    simp only [serve, getDeviceInfo, hadmitted]
    cases info <;> exact ⟨_, rfl⟩
  | getProcessDataLayout layout =>
    simp only [serve, getProcessDataLayout, hadmitted]
    cases layout <;> exact ⟨_, rfl⟩
  | configureStreams request layout =>
    -- whichever way ConfigureStreams ends, it is with a code
    have hcode : ∃ code,
        (service.configureStreams tokens layout ⟨token, request⟩).1 = .ok code := by
      simp only [configureStreams, hadmitted]
      repeat' split
      all_goals exact ⟨_, rfl⟩
    obtain ⟨code, hcode⟩ := hcode
    exact ⟨.code code, by rw [serve, hcode]; rfl⟩

/-- A request changes nothing, or it is acknowledged and changes the device state or the
streams. -/
theorem serve_cases (service : SlaveApiService) (tokens : String → Bool) (token : Option String)
    (request : ApiRequest) :
    ((service.serve tokens token request).1 ≠ .ok (.code .noError) ∧
      (service.serve tokens token request).2 = service) ∨
    (∃ message timestamp, request = .setTargetState message timestamp ∧
      (service.serve tokens token request).1 = .ok (.code .noError) ∧
      (service.serve tokens token request).2 =
        { service with
          stateManager := ⟨message.target⟩
          statusStore := service.statusStore.updateState message.target timestamp }) ∨
    (∃ message layout, request = .configureStreams message layout ∧
      (service.serve tokens token request).1 = .ok (.code .noError) ∧
      Reconfigured service (service.serve tokens token request).2 message.streams ∧
      (service.serve tokens token request).2.streamStore.HoldsExactly message.streams) := by
  cases request with
  -- the answer says whether the state machine has allowed the change
  | setTargetState message timestamp =>
    simp only [serve, setTargetState]
    cases validateToken tokens ⟨token, message⟩ with
    | error status => exact .inl ⟨by rintro ⟨⟩, rfl⟩
    | ok _ =>
      simp only [changeState]
      cases hchange : service.stateManager.setTargetState message.target with
      | error code =>
        left
        rw [DeviceStateManager.setTargetState_eq_error hchange]
        exact ⟨by rintro ⟨⟩, rfl⟩
      | ok manager =>
        obtain ⟨state⟩ := manager
        have hstate : state = message.target := DeviceStateManager.state_of_setTargetState hchange
        subst hstate
        exact .inr (.inl ⟨message, timestamp, rfl, rfl, rfl⟩)
  -- the answer says whether the store has been replaced
  | configureStreams message layout =>
    have hcases := service.configureStreams_cases tokens layout ⟨token, message⟩
    simp only [serve]
    rcases hcases with ⟨hfailed, hsame⟩ | ⟨hok, hnew⟩
    -- refused, or answered with a code that is no success
    · left
      refine ⟨?_, hsame⟩
      intro hanswer
      cases hcode : (service.configureStreams tokens layout ⟨token, message⟩).1 with
      | error status =>
        rw [hcode] at hanswer
        cases hanswer
      | ok code =>
        rw [hcode] at hanswer
        cases hanswer
        exact hfailed hcode
    · refine .inr (.inr ⟨message, layout, rfl, ?_, hnew, holdsExactly_of_configured hok⟩)
      rw [hok]
      rfl
  -- the other requests read only, and their answers carry no code
  | getStatus =>
    refine .inl ⟨?_, rfl⟩
    simp only [serve]
    cases service.getStatus tokens ⟨token, ()⟩ <;> rintro ⟨⟩
  | subscribeToDeviceStatus minIntervalSec =>
    refine .inl ⟨?_, rfl⟩
    simp only [serve]
    cases subscribeToDeviceStatus tokens ⟨token, minIntervalSec⟩ <;> rintro ⟨⟩
  | getDeviceStatusLog message =>
    refine .inl ⟨?_, rfl⟩
    simp only [serve]
    cases service.getDeviceStatusLog tokens ⟨token, message⟩ <;> rintro ⟨⟩
  | getDeviceInfo info =>
    refine .inl ⟨?_, rfl⟩
    simp only [serve]
    cases getDeviceInfo tokens info ⟨token, ()⟩ <;> rintro ⟨⟩
  | getProcessDataLayout layout =>
    refine .inl ⟨?_, rfl⟩
    simp only [serve]
    cases getProcessDataLayout tokens layout ⟨token, ()⟩ <;> rintro ⟨⟩

end SlaveApiService

/-! ## The token store behind the calls -/

/-- What the token store sees of a call. -/
def ApiCall.tokenCall : ApiCall → Option TokenCall
  | .getToken sharedKey seed now insertedAt =>
    some (.issueToken sharedKey tokenTtl seed now insertedAt)
  | .request (some token) now _ => some (.validateToken token now)
  | .request none _ _ => none

/-- The token has been handed out for the key, and is not ten minutes old. -/
def HandedOut (key : PreSharedKey) (calls : List ApiCall) (token : String) (now : Instant) :
    Prop :=
  ∃ seed issuedAt insertedAt, .getToken key.bytes.toList seed issuedAt insertedAt ∈ calls ∧
    generateToken seed = token ∧ now < issuedAt + tokenTtl

namespace SlaveApiServer

variable {sha256 : Sha256} {key : PreSharedKey} {service : SlaveApiService}

theorem run_append_singleton (server : SlaveApiServer) (calls : List ApiCall) (call : ApiCall) :
    server.run sha256 (calls ++ [call]) = ((server.run sha256 calls).handle sha256 call).2 := by
  rw [run, List.foldl_append]
  rfl

theorem transcript_append_singleton (server : SlaveApiServer) (calls : List ApiCall)
    (call : ApiCall) :
    server.transcript sha256 (calls ++ [call]) = server.transcript sha256 calls ++
      [(call, ((server.run sha256 calls).handle sha256 call).1)] := by
  induction calls generalizing server with
  | nil => rfl
  | cons first calls ih =>
    rw [List.cons_append, transcript, ih]
    rfl

theorem tokenStore_getToken (server : SlaveApiServer) (sharedKey : List UInt8) (seed : TokenSeed)
    (now insertedAt : Instant) :
    (server.getToken sha256 sharedKey seed now insertedAt).2 =
      { server with
        tokenStore :=
          (server.tokenStore.issueToken sha256 sharedKey tokenTtl seed now insertedAt).2 } := by
  unfold getToken
  split <;> rename_i heq <;> rw [heq]

/-- The token store behind a call. -/
theorem tokenStore_handle (server : SlaveApiServer) (call : ApiCall) :
    (server.handle sha256 call).2.tokenStore =
      server.tokenStore.run sha256 call.tokenCall.toList := by
  cases call with
  | getToken sharedKey seed now insertedAt =>
    simp only [handle, tokenStore_getToken]
    rfl
  | request token now request =>
    cases token <;> rfl

/-- The token store sees the keys and tokens of the calls, and nothing else. -/
theorem tokenStore_run (calls : List ApiCall) :
    ((start service key).run sha256 calls).tokenStore =
      (TokenStore.new key).run sha256 (calls.filterMap ApiCall.tokenCall) := by
  induction calls using List.reverseRecOn with
  | nil => rfl
  | append_singleton calls call ih =>
    rw [run_append_singleton, tokenStore_handle, ih, List.filterMap_append]
    rw [TokenStore.run, TokenStore.run, TokenStore.run, List.foldl_append]
    cases hcall : call.tokenCall <;> simp [hcall]

/-- Which tokens are valid at a call. -/
theorem tokens_iff_handedOut {before : List ApiCall} {token : String} {now : Instant}
    {request : ApiRequest}
    (h : TokenStore.OrderlyRun sha256 key
      ((before ++ [ApiCall.request (some token) now request]).filterMap ApiCall.tokenCall)) :
    ((start service key).run sha256 before).tokens sha256 now token = true ↔
      HandedOut key before token now := by
  rw [List.filterMap_append] at h
  rw [tokens, tokenStore_run, TokenStore.validateToken_iff_issued h]
  constructor
  · rintro ⟨earlier, later, sharedKey, ttl, seed, issuedAt, insertedAt, hsplit, hissued, rfl, hlt⟩
    have hmem : TokenCall.issueToken key.bytes.toList ttl seed issuedAt insertedAt ∈
        before.filterMap ApiCall.tokenCall := by
      rw [hsplit]
      exact List.mem_append_right _ List.mem_cons_self
    -- only a call of GetToken issues a token
    obtain ⟨call, hcall, hseen⟩ := List.mem_filterMap.mp hmem
    cases call with
    | getToken sharedKey seed' now' insertedAt' =>
      cases hseen
      exact ⟨_, _, _, hcall, TokenStore.issueToken_eq_ok_iff.mp hissued, hlt⟩
    | request token' now' request' => cases token' <;> cases hseen
  · rintro ⟨seed, issuedAt, insertedAt, hmem, htoken, hlt⟩
    have hseen : TokenCall.issueToken key.bytes.toList tokenTtl seed issuedAt insertedAt ∈
        before.filterMap ApiCall.tokenCall := List.mem_filterMap.mpr ⟨_, hmem, rfl⟩
    obtain ⟨earlier, later, hsplit⟩ := List.append_of_mem hseen
    exact ⟨earlier, later, _, _, seed, issuedAt, insertedAt, hsplit,
      TokenStore.issueToken_eq_ok_iff.mpr htoken, rfl, hlt⟩

/-- A call for a token is answered with one if it presents the key. -/
theorem response_getToken (server : SlaveApiServer) (sharedKey : List UInt8) (seed : TokenSeed)
    (now insertedAt : Instant) :
    (server.getToken sha256 sharedKey seed now insertedAt).1 =
      if sharedKey = server.tokenStore.expectedSharedKey.bytes.toList then
        (generateToken seed, .noError) else ("", .errAuthFailed) := by
  unfold getToken
  rcases TokenStore.issueToken_cases sha256 server.tokenStore sharedKey tokenTtl seed now
    insertedAt with ⟨hkey, heq⟩ | ⟨hkey, heq⟩
  · rw [heq, if_pos hkey]
  · rw [heq, if_neg hkey]

/-- It leaves the device alone. -/
theorem service_handle_getToken (server : SlaveApiServer) (sharedKey : List UInt8)
    (seed : TokenSeed) (now insertedAt : Instant) :
    (server.handle sha256 (.getToken sharedKey seed now insertedAt)).2.service =
      server.service := by
  simp only [handle, tokenStore_getToken]

theorem expectedSharedKey_run (calls : List ApiCall) :
    ((start service key).run sha256 calls).tokenStore.expectedSharedKey = key := by
  rw [tokenStore_run, TokenStore.expectedSharedKey_run]
  rfl

/-- A request whose token the token store does not take changes nothing. -/
theorem handle_of_refused {server : SlaveApiServer} {token : Option String} {now : Instant}
    (h : token.any (server.tokens sha256 now) ≠ true) (request : ApiRequest) :
    (server.handle sha256 (.request token now request)).1 =
        .error (.unauthenticated "missing or invalid token") ∧
      (server.handle sha256 (.request token now request)).2.service = server.service := by
  have heq := @SlaveApiService.serve_of_refused server.service _ _ (Bool.eq_false_iff.mpr h) request
  constructor <;> simp only [handle, heq]

/-- A request is served if and only if the token store takes its token. -/
theorem handle_request_isOk_iff (server : SlaveApiServer) (token : Option String) (now : Instant)
    (request : ApiRequest) :
    (∃ answer, (server.handle sha256 (.request token now request)).1 = .ok answer) ↔
      token.any (server.tokens sha256 now) = true := by
  constructor
  · rintro ⟨answer, hanswer⟩
    by_contra hrefused
    rw [(handle_of_refused hrefused request).1] at hanswer
    cases hanswer
  · intro hadmitted
    exact SlaveApiService.serve_of_admitted hadmitted request

/-- Without the key, a server that has handed out no token stays as it is. -/
theorem handle_of_no_key {call : ApiCall}
    (h : ∀ seed now insertedAt, call ≠ .getToken key.bytes.toList seed now insertedAt) :
    ((start service key).handle sha256 call).2 = start service key := by
  cases call with
  | getToken sharedKey seed now insertedAt =>
    simp only [handle, tokenStore_getToken]
    rcases TokenStore.issueToken_cases sha256 (.new key) sharedKey tokenTtl seed now insertedAt with
      ⟨hkey, -⟩ | ⟨-, heq⟩
    · exact absurd (congrArg (ApiCall.getToken · seed now insertedAt) hkey)
        (h seed now insertedAt)
    · rw [start, heq]
  | request token now request =>
    -- there is no token to be taken
    have hrefused : token.any ((start service key).tokens sha256 now) ≠ true := by
      cases token with
      | none => simp
      | some value =>
        rw [Option.any_some, tokens, TokenStore.validateToken_eq]
        exact Bool.false_ne_true
    have hservice := (handle_of_refused hrefused request).2
    have htokens : ((start service key).handle sha256 (.request token now request)).2.tokenStore =
        .new key := by
      cases token with
      | none => rfl
      | some value =>
        exact congrArg Prod.snd (TokenStore.validateToken_eq sha256 (.new key) value now)
    calc ((start service key).handle sha256 (.request token now request)).2
        = ⟨((start service key).handle sha256 (.request token now request)).2.service,
            ((start service key).handle sha256 (.request token now request)).2.tokenStore⟩ := rfl
      _ = start service key := by
          rw [hservice, htokens]
          rfl

/-- **The API serves whoever holds the key, for ten minutes at a time.** In every run a call for a
token is granted exactly with the key, a request is served exactly if its token has been handed
out for the key less than ten minutes before, and every change of the device is made by such a
request. -/
theorem served_iff_handedOut {calls : List ApiCall}
    (h : TokenStore.OrderlyRun sha256 key (calls.filterMap ApiCall.tokenCall)) :
    (∀ before sharedKey seed now insertedAt after,
      calls = before ++ .getToken sharedKey seed now insertedAt :: after →
      (((start service key).run sha256 before).handle sha256
        (.getToken sharedKey seed now insertedAt)).1 =
        .ok (if sharedKey = key.bytes.toList then .token (generateToken seed) .noError
          else .token "" .errAuthFailed)) ∧
    (∀ before token now request after,
      calls = before ++ .request token now request :: after →
      ((∃ answer, (((start service key).run sha256 before).handle sha256
        (.request token now request)).1 = .ok answer) ↔
        ∃ value ∈ token, HandedOut key before value now)) ∧
    (∀ before call after, calls = before ++ call :: after →
      ((start service key).run sha256 (before ++ [call])).service ≠
        ((start service key).run sha256 before).service →
      ∃ value now request, call = .request (some value) now request ∧
        HandedOut key before value now) := by
  -- the store admits exactly the tokens of the orderly run before
  have hserved : ∀ before token now request after,
      calls = before ++ .request token now request :: after →
      (token.any (((start service key).run sha256 before).tokens sha256 now) = true ↔
        ∃ value ∈ token, HandedOut key before value now) := by
    rintro before token now request after rfl
    rw [List.append_cons, List.filterMap_append] at h
    cases token with
    | none => simp
    | some value =>
      rw [Option.any_some, tokens_iff_handedOut h.of_append]
      simp
  refine ⟨?_, ?_, ?_⟩
  -- a token is answered exactly for the key
  · intro before sharedKey seed now insertedAt after _
    simp only [handle, response_getToken, expectedSharedKey_run]
    split <;> rfl
  · intro before token now request after hcalls
    exact (handle_request_isOk_iff _ token now request).trans
      (hserved before token now request after hcalls)
  -- a call that changes the device has been admitted
  · intro before call after hcalls hchange
    rw [run_append_singleton] at hchange
    cases call with
    | getToken sharedKey seed now insertedAt =>
      exact absurd (service_handle_getToken _ sharedKey seed now insertedAt) hchange
    | request token now request =>
      have hadmitted : token.any (((start service key).run sha256 before).tokens sha256 now) =
          true := by
        by_contra hrefused
        exact hchange (handle_of_refused hrefused request).2
      obtain ⟨value, hvalue, hhanded⟩ :=
        (hserved before token now request after hcalls).mp hadmitted
      cases hvalue
      exact ⟨value, now, request, rfl, hhanded⟩

/-- A device in `preOp` without streams. -/
def preOpService : SlaveApiService :=
  { stateManager := ⟨.preOp⟩
    statusStore := (DeviceStatusStore.new 0).updateState .preOp 0
    streamStore := .new zeroSecret }

/-- The key is presented; the token is used, and used again when it is ten minutes old. -/
def agingToken : List ApiCall :=
  [.getToken zeroSecret.toList (TokenStore.seedOf 1) 100 101,
    .request (some (generateToken (TokenStore.seedOf 1))) 200 .getStatus,
    .request (some (generateToken (TokenStore.seedOf 1))) (100 + tokenTtl) .getStatus]

theorem served_iff_handedOut_aging :
    (∃ answer, (((start preOpService ⟨zeroSecret⟩).run (checksumHash zeroSecret)
        (agingToken.take 1)).handle (checksumHash zeroSecret)
        (.request (some (generateToken (TokenStore.seedOf 1))) 200 .getStatus)).1 = .ok answer) ∧
      ¬ ∃ answer, (((start preOpService ⟨zeroSecret⟩).run (checksumHash zeroSecret)
        (agingToken.take 2)).handle (checksumHash zeroSecret)
        (.request (some (generateToken (TokenStore.seedOf 1))) (100 + tokenTtl) .getStatus)).1 =
          .ok answer := by
  have hrun : TokenStore.OrderlyRun (checksumHash zeroSecret) ⟨zeroSecret⟩
      (agingToken.filterMap ApiCall.tokenCall) := by
    refine ⟨by decide, by decide +kernel, ?_⟩
    -- there is only one token
    have hone : ∀ token ∈ (agingToken.filterMap ApiCall.tokenCall).map TokenCall.token,
        token = generateToken (TokenStore.seedOf 1) := by
      intro token hmem
      simpa [agingToken, ApiCall.tokenCall, TokenCall.token] using hmem
    intro token htoken other hother _
    rw [hone token htoken, hone other hother]
  obtain ⟨-, hserved, -⟩ := @served_iff_handedOut _ _ preOpService _ hrun
  constructor
  · exact (hserved (agingToken.take 1) _ 200 .getStatus (agingToken.drop 2) rfl).mpr
      ⟨_, rfl, TokenStore.seedOf 1, 100, 101, List.mem_cons_self, rfl, by decide⟩
  · rw [hserved (agingToken.take 2) _ (100 + tokenTtl) .getStatus [] rfl]
    rintro ⟨value, -, seed, issuedAt, insertedAt, hmem, -, hlt⟩
    simp only [agingToken, List.take_succ_cons, List.take_zero, List.mem_cons, List.not_mem_nil,
      or_false, ApiCall.getToken.injEq, reduceCtorEq] at hmem
    obtain ⟨-, -, rfl, -⟩ := hmem
    exact lt_irrefl _ hlt

end SlaveApiServer

/-! ## The device behind the answers -/

/-- The request that an answer acknowledges. -/
def acknowledged : ApiCall × Except Status ApiAnswer → Option ApiRequest
  | (.request _ _ request, .ok (.code .noError)) => some request
  | _ => none

/-- The device state that a request asks for. -/
def ApiRequest.targetState : ApiRequest → Option DeviceState
  | .setTargetState message _ => some message.target
  | _ => none

/-- The streams that a request asks for. -/
def ApiRequest.streams : ApiRequest → Option (List StreamConfig)
  | .configureStreams message _ => some message.streams
  | _ => none

namespace SlaveApiServer

/-- What one call does to the device is what its answer acknowledges. -/
inductive Follows (service next : SlaveApiService) : Option ApiRequest → Prop where
  | unchanged (h : next = service) : Follows service next none
  | state (message : SetTargetStateRequest) (timestamp : UInt64)
      (h : next = { service with
        stateManager := ⟨message.target⟩
        statusStore := service.statusStore.updateState message.target timestamp }) :
      Follows service next (some (.setTargetState message timestamp))
  | streams (message : ConfigureStreamsRequest)
      (layout : Except HardwareError (List ProcessVariable))
      (h : SlaveApiService.Reconfigured service next message.streams)
      (hstreams : next.streamStore.HoldsExactly message.streams) :
      Follows service next (some (.configureStreams message layout))

theorem acknowledged_eq_none {token : Option String} {now : Instant} {request : ApiRequest}
    {answer : Except Status ApiAnswer} (h : answer ≠ .ok (.code .noError)) :
    acknowledged (.request token now request, answer) = none := by
  unfold acknowledged
  split
  · rename_i heq
    exact absurd (congrArg Prod.snd heq) h
  · rfl

theorem follows_handle (server : SlaveApiServer) (call : ApiCall) :
    Follows server.service (server.handle sha256 call).2.service
      (acknowledged (call, (server.handle sha256 call).1)) := by
  cases call with
  | getToken sharedKey seed now insertedAt =>
    exact .unchanged (service_handle_getToken server sharedKey seed now insertedAt)
  | request token now request =>
    simp only [handle]
    rcases server.service.serve_cases (server.tokens sha256 now) token request with
      ⟨hanswer, hsame⟩ | ⟨message, timestamp, rfl, hanswer, hnew⟩ |
      ⟨message, layout, rfl, hanswer, hnew, hstreams⟩
    · rw [acknowledged_eq_none hanswer]
      exact .unchanged hsame
    · rw [hanswer]
      exact .state message timestamp hnew
    · rw [hanswer]
      exact .streams message layout hnew hstreams

/-- The requests that were acknowledged, in order. -/
def acknowledgments (server : SlaveApiServer) (sha256 : Sha256) (calls : List ApiCall) :
    List ApiRequest :=
  (server.transcript sha256 calls).filterMap acknowledged

/-- **The answers tell what the device is in.** After calls that were handled one after the
other, from a state in which the status agrees with the state manager, the device is in the state
that was acknowledged last, its status says the same, and its streams are those that were
acknowledged last; where nothing was acknowledged, all this is as it was. -/
theorem stores_follow_answers (server : SlaveApiServer) (calls : List ApiCall)
    (hagree : server.service.statusStore.current.state = server.service.stateManager.state) :
    (server.run sha256 calls).service.stateManager.state =
        ((server.acknowledgments sha256 calls).filterMap ApiRequest.targetState).getLast?.getD
          server.service.stateManager.state ∧
      (server.run sha256 calls).service.statusStore.current.state =
        (server.run sha256 calls).service.stateManager.state ∧
      match ((server.acknowledgments sha256 calls).filterMap ApiRequest.streams).getLast? with
      | some streams => (server.run sha256 calls).service.streamStore.HoldsExactly streams
      | none => (server.run sha256 calls).service.streamStore = server.service.streamStore := by
  induction calls using List.reverseRecOn with
  | nil => exact ⟨rfl, hagree, rfl⟩
  | append_singleton calls call ih =>
    -- the last call adds its acknowledgment, if it has one
    have hsplit : server.acknowledgments sha256 (calls ++ [call]) =
        server.acknowledgments sha256 calls ++
          (acknowledged (call, ((server.run sha256 calls).handle sha256 call).1)).toList := by
      rw [acknowledgments, transcript_append_singleton, List.filterMap_append]
      cases hcall : acknowledged (call, ((server.run sha256 calls).handle sha256 call).1) <;>
        simp [hcall, acknowledgments]
    obtain ⟨hstate, hstatus, hstreams⟩ := ih
    rw [hsplit, run_append_singleton, List.filterMap_append, List.filterMap_append]
    have hfollows := @follows_handle sha256 (server.run sha256 calls) call
    generalize acknowledged (call, ((server.run sha256 calls).handle sha256 call).1) =
      acknowledgment at hfollows ⊢
    cases hfollows with
    -- no acknowledgment, and both stores as before
    | unchanged h =>
      simp only [Option.toList_none, List.filterMap_nil, List.append_nil, h]
      exact ⟨hstate, hstatus, hstreams⟩
    -- the acknowledged target is the last one, the streams stay
    | state message timestamp h =>
      have htarget : [ApiRequest.setTargetState message timestamp].filterMap
          ApiRequest.targetState = [message.target] := rfl
      have hnone : [ApiRequest.setTargetState message timestamp].filterMap
          ApiRequest.streams = [] := rfl
      rw [Option.toList_some, htarget, hnone, List.append_nil, List.getLast?_concat, h]
      exact ⟨rfl, DeviceStatusStore.state_updateState _ _ _, hstreams⟩
    -- the acknowledged list is the last one, the states stay
    | streams message layout h hnew =>
      have hnone : [ApiRequest.configureStreams message layout].filterMap
          ApiRequest.targetState = [] := rfl
      have hrequested : [ApiRequest.configureStreams message layout].filterMap
          ApiRequest.streams = [message.streams] := rfl
      rw [Option.toList_some, hnone, hrequested, List.append_nil, List.getLast?_concat,
        h.stateManager, h.statusStore]
      exact ⟨hstate, hstatus, hnew⟩

/-- The valve's stream is configured, and the device started. -/
def commissioning : List ApiCall :=
  [.getToken zeroSecret.toList (TokenStore.seedOf 1) 100 101,
    .request (some (generateToken (TokenStore.seedOf 1))) 200
      (.configureStreams
        { streams :=
          [{ streamId := 1002
             destinationMac := [0x02, 0x42, 0xAC, 0x10, 0x00, 0x12]
             vlanIdPcp := 0
             cycleTimeNano := 1000000
             direction := Direction.input.toI32
             streamContent := some ⟨0, 0, 1⟩ }] }
        (.ok [⟨"ValveOpen", 0, Direction.input.toI32, 0, 0, 1⟩])),
    .request (some (generateToken (TokenStore.seedOf 1))) 300 (.setTargetState ⟨3⟩ 0),
    .request (some "guess") 400 (.setTargetState ⟨6⟩ 0)]

/-- The guessed token stops nothing. -/
theorem stores_follow_answers_commissioning :
    ((start preOpService ⟨zeroSecret⟩).run (checksumHash zeroSecret)
      commissioning).service.stateManager.state = .safeOp := by
  rw [(stores_follow_answers (start preOpService ⟨zeroSecret⟩) commissioning rfl).1]
  decide +kernel

end SlaveApiServer

end TsnFieldbus
