import TsnFieldbus.Foundations.TransitionSystem
import TsnFieldbus.Slave.SlaveApi

/-!
# Slave API Client

The calls of `slave_api_client.rs`, made through clones `ι` of one client that share the cached
token. Every acquisition of the token's lock and every answer of the server is a step of its own.

- `SlaveApiClients.step`: one step of one clone.
- `no_unauthenticated_iff`: when no call returns an Unauthenticated error.
- `tokenPresent_of_undisturbed`: an order of the steps that is enough for this.
-/

namespace TsnFieldbus

open Foundations

/-- `GetTokenResponse`; the status is the `i32` on the wire. -/
structure GetTokenResponse where
  token : String
  status : Int32
deriving DecidableEq, Repr

/-- `status == NoError && !token.is_empty()`. -/
def GetTokenResponse.carriesToken (response : GetTokenResponse) : Bool :=
  response.status = 0 && response.token ≠ ""

/-- The methods of the client. -/
inductive ClientCall where
  | getToken
  | setTargetState (targetState : DeviceState)
  | getStatus
  | subscribeToDeviceStatus (minIntervalSec : Option UInt32)
  | getDeviceStatusLog (offset limit : UInt32)
  | getDeviceInfo
  | getProcessDataLayout
  | configureStreams (streams : List StreamConfig)
deriving DecidableEq

/-- How far a clone is with its call. `retry` marks the second attempt of a call whose token was
rejected. -/
inductive ClientPhase where
  | idle
  /-- Before `ensure_token` reads the token. -/
  | ensuring (call : ClientCall) (retry : Bool)
  /-- Waiting for the answer to GetToken. -/
  | refreshing (call : ClientCall) (retry : Bool)
  /-- Before `get_token` writes the token. -/
  | storing (call : ClientCall) (retry : Bool) (response : GetTokenResponse)
  /-- Before `attach_token` reads the token. -/
  | reading (call : ClientCall) (retry : Bool)
  /-- Waiting for the answer to the request itself. -/
  | sending (call : ClientCall) (retry : Bool) (token : String)
  /-- Before `invalidate_token` clears the token. -/
  | rejected (call : ClientCall)
deriving DecidableEq

/-- The cached token, the clones, the tokens that the server has issued, and what the calls have
returned so far. -/
structure SlaveApiClients (ι : Type*) where
  token : Option String
  phase : ι → ClientPhase
  issued : List String
  returned : List (ClientCall × Except Status Unit)

/-- The next step of a clone, with the answer of the server. -/
inductive ClientEvent (ι : Type*) where
  | call (client : ι) (call : ClientCall)
  | ensure (client : ι)
  | issue (client : ι) (response : Except Status GetTokenResponse)
  | store (client : ι)
  | read (client : ι)
  /-- The server validates the token; `handled` is what follows. -/
  | answer (client : ι) (tokens : String → Bool) (handled : Except Status Unit)
  | invalidate (client : ι)

namespace SlaveApiClients

variable {ι : Type*}

/-- Idle clones. -/
def start (token : Option String) : SlaveApiClients ι :=
  { token := token
    phase := fun _ => .idle
    issued := []
    returned := [] }

variable [DecidableEq ι]

/-- A clone goes on with its call. -/
def proceed (s : SlaveApiClients ι) (client : ι) (phase : ClientPhase) : SlaveApiClients ι :=
  { s with phase := Function.update s.phase client phase }

/-- A call returns. -/
def finish (s : SlaveApiClients ι) (client : ι) (call : ClientCall)
    (result : Except Status Unit) : SlaveApiClients ι :=
  { s.proceed client .idle with returned := s.returned ++ [(call, result)] }

/-- `get_token` after the answer of the server, and for an authenticated call the rest of
`refresh_token`. -/
def storeToken (s : SlaveApiClients ι) (client : ι) (call : ClientCall) (retry : Bool)
    (response : GetTokenResponse) : SlaveApiClients ι :=
  if response.carriesToken then
    let s := { s with token := some response.token }
    if call = .getToken then s.finish client call (.ok ())
    else s.proceed client (.reading call retry)
  else if call = .getToken then s.finish client call (.ok ())
  else s.finish client call (.error (.unauthenticated "token refresh failed"))

/-- `attach_token` after `ensure_token`; `parses` is the conversion to a header value. -/
def attachToken (parses : String → Bool) (s : SlaveApiClients ι) (client : ι) (call : ClientCall)
    (retry : Bool) : SlaveApiClients ι :=
  match s.token with
  | none => s.finish client call (.error (.unauthenticated "missing authentication token"))
  | some token =>
    if parses token then s.proceed client (.sending call retry token)
    else s.finish client call (.error (.internal "invalid token format"))

/-- The answer to an authenticated request: the first Unauthenticated leads to a second attempt. -/
def receiveAnswer (s : SlaveApiClients ι) (client : ι) (call : ClientCall) (retry : Bool) :
    Except Status Unit → SlaveApiClients ι
  | .error (.unauthenticated message) =>
    if retry then s.finish client call (.error (.unauthenticated message))
    else s.proceed client (.rejected call)
  | result => s.finish client call result

/-- The effect of one step. -/
def step (parses : String → Bool) (s : SlaveApiClients ι) :
    ClientEvent ι → Option (SlaveApiClients ι)
  | .call client call =>
    match s.phase client with
    | .idle =>
      some (s.proceed client
        (if call = .getToken then .refreshing call false else .ensuring call false))
    | _ => none
  | .ensure client =>
    match s.phase client with
    | .ensuring call retry =>
      some (s.proceed client
        (if s.token.isSome then .reading call retry else .refreshing call retry))
    | _ => none
  | .issue client response =>
    match s.phase client, response with
    | .refreshing call retry, .ok response =>
      some { s.proceed client (.storing call retry response) with
        issued := s.issued ++ [response.token] }
    | .refreshing call _, .error status => some (s.finish client call (.error status))
    | _, _ => none
  | .store client =>
    match s.phase client with
    | .storing call retry response => some (s.storeToken client call retry response)
    | _ => none
  | .read client =>
    match s.phase client with
    | .reading call retry => some (s.attachToken parses client call retry)
    | _ => none
  | .answer client tokens handled =>
    match s.phase client with
    | .sending call retry token =>
      some (s.receiveAnswer client call retry
        ((validateToken tokens ⟨some token, ()⟩).bind fun _ => handled))
    | _ => none
  | .invalidate client =>
    match s.phase client with
    | .rejected call => some { s.proceed client (.ensuring call true) with token := none }
    | _ => none

/-- The steps by the phase of the clone that moves. -/
inductive Moves (parses : String → Bool) (s : SlaveApiClients ι) :
    ClientEvent ι → SlaveApiClients ι → Prop where
  | call {client : ι} {call : ClientCall} (hphase : s.phase client = .idle) :
      Moves parses s (.call client call) (s.proceed client
        (if call = .getToken then .refreshing call false else .ensuring call false))
  | ensure {client : ι} {call : ClientCall} {retry : Bool}
      (hphase : s.phase client = .ensuring call retry) :
      Moves parses s (.ensure client) (s.proceed client
        (if s.token.isSome then .reading call retry else .refreshing call retry))
  | issue {client : ι} {call : ClientCall} {retry : Bool}
      (hphase : s.phase client = .refreshing call retry) (response : GetTokenResponse) :
      Moves parses s (.issue client (.ok response))
        { s.proceed client (.storing call retry response) with
          issued := s.issued ++ [response.token] }
  | refuse {client : ι} {call : ClientCall} {retry : Bool}
      (hphase : s.phase client = .refreshing call retry) (status : Status) :
      Moves parses s (.issue client (.error status)) (s.finish client call (.error status))
  | store {client : ι} {call : ClientCall} {retry : Bool} {response : GetTokenResponse}
      (hphase : s.phase client = .storing call retry response) :
      Moves parses s (.store client) (s.storeToken client call retry response)
  | read {client : ι} {call : ClientCall} {retry : Bool}
      (hphase : s.phase client = .reading call retry) :
      Moves parses s (.read client) (s.attachToken parses client call retry)
  | answer {client : ι} {call : ClientCall} {retry : Bool} {token : String}
      (hphase : s.phase client = .sending call retry token) (tokens : String → Bool)
      (handled : Except Status Unit) :
      Moves parses s (.answer client tokens handled) (s.receiveAnswer client call retry
        ((validateToken tokens ⟨some token, ()⟩).bind fun _ => handled))
  | invalidate {client : ι} {call : ClientCall} (hphase : s.phase client = .rejected call) :
      Moves parses s (.invalidate client)
        { s.proceed client (.ensuring call true) with token := none }

theorem moves_of_step {parses : String → Bool} {s t : SlaveApiClients ι} {event : ClientEvent ι}
    (hstep : s.step parses event = some t) : Moves parses s event t := by
  -- a step asks for the phase of its clone, which the move records
  cases event with
  | call client call =>
    simp only [step] at hstep
    split at hstep
    · rename_i hphase
      cases hstep
      exact .call hphase
    · cases hstep
  | ensure client =>
    simp only [step] at hstep
    split at hstep
    · rename_i hphase
      cases hstep
      exact .ensure hphase
    · cases hstep
  | issue client response =>
    simp only [step] at hstep
    split at hstep
    · rename_i hphase
      cases hstep
      -- the server answers, or the call of GetToken fails
      exact .issue hphase _
    · rename_i hphase
      cases hstep
      exact .refuse hphase _
    · cases hstep
  | store client =>
    simp only [step] at hstep
    split at hstep
    · rename_i hphase
      cases hstep
      exact .store hphase
    · cases hstep
  | read client =>
    simp only [step] at hstep
    split at hstep
    · rename_i hphase
      cases hstep
      exact .read hphase
    · cases hstep
  | answer client tokens handled =>
    simp only [step] at hstep
    split at hstep
    · rename_i hphase
      cases hstep
      exact .answer hphase tokens handled
    · cases hstep
  | invalidate client =>
    simp only [step] at hstep
    split at hstep
    · rename_i hphase
      cases hstep
      exact .invalidate hphase
    · cases hstep

end SlaveApiClients

/-! ## What the server is trusted with -/

/-- A call has returned an Unauthenticated error. -/
def unauthenticated {α : Type} : Except Status α → Bool
  | .error (.unauthenticated _) => true
  | _ => false

/-- A token that has been issued is not rejected. -/
theorem unauthenticated_answer {tokens : String → Bool} {token : String} (htoken : tokens token)
    {handled : Except Status Unit} (hhandled : unauthenticated handled = false) :
    unauthenticated ((validateToken tokens (Request.mk (some token) ())).bind fun _ => handled) =
      false := by
  simp only [validateToken, htoken, if_true]
  exact hhandled

/-- What a clone at this point relies on: on a second attempt the cached token, if there is one,
has been issued during the run. -/
def ClientPhase.Settled (token : Option String) (issued : List String) : ClientPhase → Prop
  | .idle | .rejected _ => True
  | .ensuring _ retry | .refreshing _ retry | .reading _ retry =>
    retry → ∀ cached ∈ token, cached ∈ issued
  | .storing _ _ response => response.carriesToken ∧ response.token ∈ issued
  | .sending _ retry sent => retry → sent ∈ issued

/-- Only tokens of the run are cached later. -/
theorem ClientPhase.Settled.mono {token token' : Option String} {issued issued' : List String}
    {phase : ClientPhase} (h : phase.Settled token issued) (hissued : issued ⊆ issued')
    (htoken : ∀ cached ∈ token', cached ∈ token ∨ cached ∈ issued') :
    phase.Settled token' issued' := by
  have hcached : (∀ cached ∈ token, cached ∈ issued) → ∀ cached ∈ token', cached ∈ issued' := by
    intro hold cached hmem
    obtain hmem | hmem := htoken cached hmem
    · exact hissued (hold cached hmem)
    · exact hmem
  cases phase with
  | idle => trivial
  | rejected call => trivial
  | ensuring call retry => exact fun hretry => hcached (h hretry)
  | refreshing call retry => exact fun hretry => hcached (h hretry)
  | reading call retry => exact fun hretry => hcached (h hretry)
  | storing call retry response => exact ⟨h.1, hissued h.2⟩
  | sending call retry sent => exact fun hretry => hissued (h hretry)

namespace SlaveApiClients

variable {ι : Type*}

/-- The server accepts the shared key and all tokens that it has issued. Another failure than
Unauthenticated may come with every answer. -/
def ServerAccepts (s : SlaveApiClients ι) : ClientEvent ι → Prop
  | .issue _ (.ok response) => response.carriesToken
  | .issue _ (.error status) => unauthenticated (Except.error status : Except Status Unit) = false
  | .answer _ tokens handled =>
    (∀ token ∈ s.issued, tokens token) ∧ unauthenticated handled = false
  | _ => True

/-- When `attach_token` reads the token, there is one. -/
def TokenPresent (s : SlaveApiClients ι) : ClientEvent ι → Prop
  | .read _ => s.token ≠ none
  | _ => True

/-- Every clone can rely on the cached token, and no call has returned Unauthenticated. -/
structure Trusted (s : SlaveApiClients ι) : Prop where
  settled : ∀ client, (s.phase client).Settled s.token s.issued
  quiet : ∀ entry ∈ s.returned, unauthenticated entry.2 = false

theorem trusted_start (token : Option String) : Trusted (start token : SlaveApiClients ι) where
  settled _ := trivial
  quiet entry h := by cases h

/-- The server issues a token, or a token is cached or cleared. -/
theorem Trusted.recache {s : SlaveApiClients ι} (h : Trusted s) {token : Option String}
    {issued : List String} (hissued : s.issued ⊆ issued)
    (htoken : ∀ cached ∈ token, cached ∈ s.token ∨ cached ∈ issued) :
    Trusted { s with token := token, issued := issued } where
  settled client := (h.settled client).mono hissued htoken
  quiet := h.quiet

variable [DecidableEq ι]

theorem Trusted.proceed {s : SlaveApiClients ι} (h : Trusted s) (client : ι)
    (phase : ClientPhase) (hphase : phase.Settled s.token s.issued) :
    Trusted (s.proceed client phase) where
  settled other := by
    by_cases hother : other = client
    · subst hother
      simpa [SlaveApiClients.proceed] using hphase
    · simpa [SlaveApiClients.proceed, hother] using h.settled other
  quiet := h.quiet

theorem Trusted.finish {s : SlaveApiClients ι} (h : Trusted s) (client : ι) (call : ClientCall)
    {result : Except Status Unit} (hresult : unauthenticated result = false) :
    Trusted (s.finish client call result) where
  settled := (h.proceed client .idle trivial).settled
  quiet := by
    intro entry hmem
    obtain hmem | hmem := List.mem_append.mp hmem
    · exact h.quiet entry hmem
    · rw [List.mem_singleton.mp hmem]
      exact hresult

/-- `storeToken` with a token from the server. -/
theorem Trusted.storeToken {s : SlaveApiClients ι} (h : Trusted s) (client : ι) (call : ClientCall)
    (retry : Bool) {response : GetTokenResponse} (hcarries : response.carriesToken)
    (hissued : response.token ∈ s.issued) :
    Trusted (s.storeToken client call retry response) := by
  have hcached : ∀ cached ∈ some response.token, cached ∈ s.issued := by
    intro cached hmem
    rwa [← Option.mem_some_iff.mp hmem]
  have hstored : Trusted { s with token := some response.token } :=
    h.recache (List.Subset.refl _) fun cached hmem => .inr (hcached cached hmem)
  rw [SlaveApiClients.storeToken, if_pos hcarries]
  split
  · exact hstored.finish client call rfl
  · exact hstored.proceed client (.reading call retry) fun _ => hcached

/-- `attachToken` with a token in the cache. -/
theorem Trusted.attachToken {s : SlaveApiClients ι} (h : Trusted s) (parses : String → Bool)
    (client : ι) (call : ClientCall) {retry : Bool} (hpresent : s.token ≠ none)
    (hcached : retry → ∀ cached ∈ s.token, cached ∈ s.issued) :
    Trusted (s.attachToken parses client call retry) := by
  rw [SlaveApiClients.attachToken]
  split
  · rename_i hnone
    exact absurd hnone hpresent
  · rename_i token htoken
    split
    · exact h.proceed client (.sending call retry token) fun hretry => hcached hretry token htoken
    · exact h.finish client call rfl

/-- An answer that rejects the token only on the first attempt. -/
theorem Trusted.receiveAnswer {s : SlaveApiClients ι} (h : Trusted s) (client : ι)
    (call : ClientCall) {retry : Bool} {result : Except Status Unit}
    (hresult : retry → unauthenticated result = false) :
    Trusted (s.receiveAnswer client call retry result) := by
  cases result with
  | ok value => exact h.finish client call rfl
  | error status =>
    cases status with
    | internal message => exact h.finish client call rfl
    | other message => exact h.finish client call rfl
    | unauthenticated message =>
      cases retry with
      | false => exact h.proceed client (.rejected call) trivial
      | true => cases hresult rfl

/-- One step, with a cooperative server and a token present at every read. -/
theorem trusted_step (parses : String → Bool) (s : SlaveApiClients ι) (event : ClientEvent ι)
    (t : SlaveApiClients ι) (h : Trusted s) (hguard : ServerAccepts s event ∧ TokenPresent s event)
    (hstep : s.step parses event = some t) : Trusted t := by
  obtain ⟨hserver, hpresent⟩ := hguard
  cases moves_of_step hstep with
  -- a new call starts at `ensure_token`, whatever is cached
  | call hphase =>
    apply h.proceed
    split
    · rintro ⟨⟩
    · rintro ⟨⟩
  | @ensure client call retry hphase =>
    have hsettled := h.settled client
    rw [hphase] at hsettled
    apply h.proceed
    split
    · exact hsettled
    · exact hsettled
  -- the new token is known to be issued before the clone holds it
  | @issue client call retry hphase response =>
    have hissued : Trusted { s with issued := s.issued ++ [response.token] } :=
      h.recache (List.subset_append_left _ _) fun cached hmem => .inl hmem
    exact hissued.proceed client (.storing call retry response)
      ⟨hserver, List.mem_append_right _ (List.mem_singleton_self _)⟩
  | refuse hphase status => exact h.finish _ _ hserver
  -- what is stored comes from the answer, which the server accepts
  | @store client call retry response hphase =>
    have hsettled := h.settled client
    rw [hphase] at hsettled
    exact h.storeToken client call retry hsettled.1 hsettled.2
  | @read client call retry hphase =>
    have hsettled := h.settled client
    rw [hphase] at hsettled
    exact h.attachToken parses client call hpresent hsettled
  -- a retry carries an issued token, which the server does not reject
  | @answer client call retry token hphase tokens handled =>
    have hsettled := h.settled client
    rw [hphase] at hsettled
    apply h.receiveAnswer client call
    intro hretry
    exact unauthenticated_answer (hserver.1 token (hsettled hretry)) hserver.2
  -- with no token cached there is nothing left to trust
  | @invalidate client call hphase =>
    have hcleared : Trusted { s with token := none } :=
      h.recache (List.Subset.refl _) fun cached hmem => by cases hmem
    exact hcleared.proceed client (.ensuring call true) fun _ cached hmem => by cases hmem

/-! ## Reads of the shared token -/

/-- What calls have returned stays returned. -/
theorem returned_prefix_step {parses : String → Bool} {s t : SlaveApiClients ι}
    {event : ClientEvent ι} (hstep : s.step parses event = some t) : s.returned <+: t.returned := by
  cases moves_of_step hstep with
  | call hphase => exact List.prefix_rfl
  | ensure hphase => exact List.prefix_rfl
  | issue hphase response => exact List.prefix_rfl
  | refuse hphase status => exact List.prefix_append _ _
  | store hphase =>
    unfold storeToken
    split <;> split <;> first | exact List.prefix_rfl | exact List.prefix_append _ _
  | read hphase =>
    unfold attachToken
    split
    · exact List.prefix_append _ _
    · split <;> first | exact List.prefix_rfl | exact List.prefix_append _ _
  | answer hphase tokens handled =>
    unfold receiveAnswer
    split
    · split <;> first | exact List.prefix_rfl | exact List.prefix_append _ _
    · exact List.prefix_append _ _
  | invalidate hphase => exact List.prefix_rfl

/-- A call that reads no token returns Unauthenticated. -/
theorem unauthenticated_of_read {parses : String → Bool} {s t : SlaveApiClients ι} {client : ι}
    (habsent : s.token = none) (hstep : s.step parses (.read client) = some t) :
    ∃ entry ∈ t.returned, unauthenticated entry.2 = true := by
  cases moves_of_step hstep with
  | read hphase =>
    rw [attachToken, habsent]
    exact ⟨_, List.mem_append_right _ (List.mem_singleton_self _), rfl⟩

/-- If no call returns Unauthenticated, every read of the run has found a token. -/
theorem tokenPresent_of_quiet {parses : String → Bool} {s t : SlaveApiClients ι}
    {events : List (ClientEvent ι)} (hrun : execute (step parses) s events = some t)
    (hquiet : ∀ entry ∈ t.returned, unauthenticated entry.2 = false) :
    EveryStep (step parses) TokenPresent s events := by
  induction events generalizing s with
  | nil => trivial
  | cons event rest ih =>
    obtain ⟨u, hstep, hrest⟩ := execute_cons_eq_some.mp hrun
    refine ⟨?_, fun v hv => ?_⟩
    · cases event with
      | read client =>
        intro habsent
        obtain ⟨entry, hmem, hentry⟩ := unauthenticated_of_read habsent hstep
        have hreturned : u.returned <+: t.returned :=
          execute_invariant (I := fun v => u.returned <+: v.returned)
            (fun v event w hv hw => hv.trans (returned_prefix_step hw)) List.prefix_rfl hrest
        rw [hquiet entry (hreturned.subset hmem)] at hentry
        cases hentry
      | _ => trivial
    · cases hstep.symm.trans hv
      exact ih hrest

/-- **Unauthenticated errors.** In every run with a server that accepts the shared key and its own
tokens, no call returns an Unauthenticated error if and only if every read of the cached token in
`attach_token` finds one. -/
theorem no_unauthenticated_iff {parses : String → Bool} {token : Option String}
    {events : List (ClientEvent ι)} {s : SlaveApiClients ι}
    (hserver : EveryStep (step parses) ServerAccepts (start token) events)
    (hrun : execute (step parses) (start token) events = some s) :
    (∀ entry ∈ s.returned, unauthenticated entry.2 = false) ↔
      EveryStep (step parses) TokenPresent (start token) events := by
  constructor
  · exact tokenPresent_of_quiet hrun
  · intro hpresent
    have h : Trusted s := execute_invariant_of_guarded (trusted_step parses) (trusted_start token)
      (hserver.and hpresent) hrun
    exact h.quiet

instance (s : SlaveApiClients ι) : (event : ClientEvent ι) → Decidable (ServerAccepts s event)
  | .issue _ (.ok response) => inferInstanceAs (Decidable (response.carriesToken = true))
  | .issue _ (.error status) =>
    inferInstanceAs (Decidable (unauthenticated (Except.error status : Except Status Unit) = false))
  | .answer _ tokens handled =>
    inferInstanceAs (Decidable
      ((∀ token ∈ s.issued, tokens token) ∧ unauthenticated handled = false))
  | .call _ _ | .ensure _ | .store _ | .read _ | .invalidate _ => inferInstanceAs (Decidable True)

instance (s : SlaveApiClients ι) : (event : ClientEvent ι) → Decidable (TokenPresent s event)
  | .read _ => inferInstanceAs (Decidable (s.token ≠ none))
  | .call _ _ | .ensure _ | .issue _ _ | .store _ | .answer _ _ _ | .invalidate _ =>
    inferInstanceAs (Decidable True)

/-- The server has forgotten the cached token: one clone renews it, another uses the new one. -/
def renewedToken : List (ClientEvent Bool) :=
  [.call true .getStatus, .ensure true, .read true, .answer true (· = "new") (.ok ()),
    .invalidate true, .ensure true, .issue true (.ok ⟨"new", 0⟩), .call false .getDeviceInfo,
    .store true, .read true, .ensure false, .answer true (· = "new") (.ok ()), .read false,
    .answer false (· = "new") (.ok ())]

theorem no_unauthenticated_iff_renewed :
    ∃ s, execute (step fun _ => true) (start (some "old")) renewedToken = some s ∧
      s.returned = [(.getStatus, .ok ()), (.getDeviceInfo, .ok ())] ∧
      ∀ entry ∈ s.returned, unauthenticated entry.2 = false := by
  obtain ⟨s, hrun, hreturned⟩ : ∃ s,
      execute (step fun _ => true) (start (some "old")) renewedToken = some s ∧
        s.returned = [(.getStatus, .ok ()), (.getDeviceInfo, .ok ())] := ⟨_, rfl, rfl⟩
  exact ⟨s, hrun, hreturned, (no_unauthenticated_iff (by decide +kernel) hrun).mpr
    (by decide +kernel)⟩

/-- Both clones are rejected with the cached token; the second invalidates after the first has
renewed it. -/
def lateInvalidation : List (ClientEvent Bool) :=
  [.call true .getStatus, .call false .getStatus, .ensure true, .ensure false, .read true,
    .read false, .answer true (· = "new") (.ok ()), .answer false (· = "new") (.ok ()),
    .invalidate true, .ensure true, .issue true (.ok ⟨"new", 0⟩), .store true, .invalidate false,
    .read true]

theorem late_invalidation_unauthenticated :
    ∃ s, execute (step fun _ => true) (start (some "old")) lateInvalidation = some s ∧
      EveryStep (step fun _ => true) ServerAccepts (start (some "old")) lateInvalidation ∧
      s.returned =
        [(.getStatus, .error (.unauthenticated "missing authentication token"))] ∧
      ¬ ∀ entry ∈ s.returned, unauthenticated entry.2 = false := by
  refine ⟨_, rfl, by decide +kernel, rfl, ?_⟩
  intro hquiet
  have hfirst := hquiet _ (List.mem_singleton_self _)
  cases hfirst

/-! ## An order of the steps that is enough -/

/-- A clone between `ensure_token` and its read of the cached token. -/
def Reads (s : SlaveApiClients ι) (client : ι) : Prop :=
  ∃ call retry, s.phase client = .reading call retry

/-- No clone clears the token while another is about to read it. -/
def Undisturbed (s : SlaveApiClients ι) : ClientEvent ι → Prop
  | .invalidate client => ∀ other, other ≠ client → ¬ s.Reads other
  | _ => True

/-- A clone that is about to read will find a token. -/
def ReadsToken (s : SlaveApiClients ι) : Prop :=
  ∀ client, s.Reads client → s.token ≠ none

theorem ReadsToken.proceed {s : SlaveApiClients ι} (h : ReadsToken s) (client : ι)
    {phase : ClientPhase} (hphase : ∀ call retry, phase = .reading call retry → s.token ≠ none) :
    ReadsToken (s.proceed client phase) := by
  rintro other ⟨call, retry, hreads⟩
  by_cases hother : other = client
  · subst hother
    simp only [SlaveApiClients.proceed, Function.update_self] at hreads
    exact hphase call retry hreads
  · simp only [SlaveApiClients.proceed, Function.update_of_ne hother] at hreads
    exact h other ⟨call, retry, hreads⟩

theorem ReadsToken.finish {s : SlaveApiClients ι} (h : ReadsToken s) (client : ι)
    (call : ClientCall) (result : Except Status Unit) :
    ReadsToken (s.finish client call result) := by
  have hidle : ReadsToken (s.proceed client .idle) := by
    apply h.proceed
    rintro _ _ ⟨⟩
  exact hidle

/-- Nobody clears the token between a clone's `ensure_token` and its read. -/
theorem readsToken_step {parses : String → Bool} (s : SlaveApiClients ι) (event : ClientEvent ι)
    (t : SlaveApiClients ι) (h : ReadsToken s) (hguard : Undisturbed s event)
    (hstep : s.step parses event = some t) : ReadsToken t := by
  cases moves_of_step hstep with
  | call hphase =>
    apply h.proceed
    intro call retry hreading
    split at hreading <;> cases hreading
  -- a clone goes on to read because it has seen a token
  | ensure hphase =>
    apply h.proceed
    intro call retry hreading
    split at hreading
    · rename_i hsome
      exact Option.isSome_iff_ne_none.mp hsome
    · cases hreading
  | @issue client call retry hphase response =>
    have hstoring : ReadsToken (s.proceed client (.storing call retry response)) := by
      apply h.proceed
      rintro _ _ ⟨⟩
    exact hstoring
  | refuse hphase status => exact h.finish _ _ _
  -- a stored token is there for every clone
  | store hphase =>
    unfold storeToken
    split
    · split <;> exact fun _ _ => Option.some_ne_none _
    · split <;> exact h.finish _ _ _
  | read hphase =>
    unfold attachToken
    split
    · exact h.finish _ _ _
    · split
      · apply h.proceed
        rintro _ _ ⟨⟩
      · exact h.finish _ _ _
  | answer hphase tokens handled =>
    unfold receiveAnswer
    split
    · split
      · exact h.finish _ _ _
      · apply h.proceed
        rintro _ _ ⟨⟩
    · exact h.finish _ _ _
  -- nobody else is about to read when the token is dropped
  | @invalidate client call hphase =>
    rintro other ⟨call', retry, hreads⟩
    by_cases hother : other = client
    · subst hother
      simp [proceed] at hreads
    · simp only [proceed, Function.update_of_ne hother] at hreads
      exact absurd ⟨call', retry, hreads⟩ (hguard other hother)

/-- If no clone clears the token while another is between `ensure_token` and its read, every read
finds a token. -/
theorem tokenPresent_of_undisturbed {parses : String → Bool} {token : Option String}
    {events : List (ClientEvent ι)} {s : SlaveApiClients ι}
    (h : EveryStep (step parses) Undisturbed (start token) events)
    (hrun : execute (step parses) (start token) events = some s) :
    EveryStep (step parses) TokenPresent (start token) events := by
  refine EveryStep.of_guarded_invariant readsToken_step ?_ ?_ h hrun
  · intro s event t hreads hstep
    cases event with
    | read client =>
      cases moves_of_step hstep with
      | read hphase => exact hreads client ⟨_, _, hphase⟩
    | _ => trivial
  · rintro client ⟨call, retry, hphase⟩
    cases hphase

end SlaveApiClients

end TsnFieldbus
