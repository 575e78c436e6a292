import TsnFieldbus.Common.StateMachine
import TsnFieldbus.Common.StreamBatch
import TsnFieldbus.Slave.DeviceStatus

/-!
# Slave API Service

The two state-changing endpoints of `slave_api.rs`. `set_target_state` takes two separately
locked steps, so it is modelled as the two steps `changeState` and `recordState`.

- `configureStreams_cases`: a ConfigureStreams request leaves the service unchanged, or it
  replaces all stream entries by fresh ones.
-/

namespace TsnFieldbus

/-- A gRPC failure, `tonic::Status`. -/
inductive Status where
  | unauthenticated (message : String)
  | internal (message : String)
  /-- Any other code. -/
  | other (message : String)
deriving DecidableEq, Repr

/-- A gRPC request with the token of its metadata. -/
structure Request (T : Type) where
  token : Option String
  message : T

/-- `SetTargetStateRequest`; the field is the `i32` on the wire. -/
structure SetTargetStateRequest where
  targetState : Int32

/-- The getter `target_state()`: unknown values read as the default, `Init`. -/
def SetTargetStateRequest.target (request : SetTargetStateRequest) : DeviceState :=
  (DeviceState.tryFrom request.targetState).getD .init

/-- `ConfigureStreamsRequest`. -/
structure ConfigureStreamsRequest where
  streams : List StreamConfig

/-- `MIN_CYCLE_TIME_NS`. -/
def minCycleTimeNs : UInt32 := 250000

/-- `validate_token`; `tokens` answers for the token store at the time of the call. -/
def validateToken {T : Type} (tokens : String → Bool) (request : Request T) :
    Except Status Unit :=
  match request.token with
  | none => .error (.unauthenticated "missing or invalid token")
  | some token =>
    if tokens token then .ok ()
    else .error (.unauthenticated "missing or invalid token")

/-- Whether a variable of the layout covers exactly the stream's content. -/
def ProcessVariable.covers (processVariable : ProcessVariable) (direction : Direction)
    (content : Position) : Bool :=
  processVariable.direction = direction.toI32 ∧ processVariable.byteOffset = content.byteOffset ∧
    processVariable.bitOffset = content.bitOffset ∧ processVariable.bitLen = content.bitLen

/-- The loop body of `validate_streams` behind the duplicate check. -/
def validateStream (layout : List ProcessVariable) (stream : StreamConfig) :
    Except StatusCode Unit :=
  if stream.destinationMac.length ≠ 6 then .error .errParamInvalid
  else if stream.cycleTimeNano < minCycleTimeNs then .error .errParamInvalid
  else
    match stream.streamContent with
    | none => .error .errParamInvalid
    | some content =>
      if content.bitLen = 0 then .error .errParamInvalid
      else
        match Direction.tryFrom stream.direction with
        | none => .error .errParamInvalid
        | some direction =>
          if layout.any (·.covers direction content) then .ok ()
          else .error .errParamInvalid

/-- `validate_streams`. -/
def validateStreams (layout : List ProcessVariable) (seenStreamIds : List UInt32) :
    List StreamConfig → Except StatusCode Unit
  | [] => .ok ()
  | stream :: rest =>
    if stream.streamId > 65535 then .error .errParamInvalid
    else if stream.streamId ∈ seenStreamIds then .error .errParamInvalid
    else
      match validateStream layout stream with
      | .error code => .error code
      | .ok () => validateStreams layout (stream.streamId :: seenStreamIds) rest

/-- The stores the service changes. -/
structure SlaveApiService where
  stateManager : DeviceStateManager
  statusStore : DeviceStatusStore
  streamStore : StreamStore

namespace SlaveApiService

/-! ## SetTargetState -/

/-- The first locked step of `set_target_state`. -/
def changeState (service : SlaveApiService) (target : DeviceState) :
    Except StatusCode SlaveApiService :=
  match service.stateManager.setTargetState target with
  | .ok manager => .ok { service with stateManager := manager }
  | .error code => .error code

/-- The second locked step of `set_target_state`. -/
def recordState (service : SlaveApiService) (target : DeviceState) (timestamp : UInt64) :
    SlaveApiService :=
  { service with statusStore := service.statusStore.updateState target timestamp }

/-- `set_target_state` when nothing runs between its two steps. -/
def setTargetState (service : SlaveApiService) (tokens : String → Bool)
    (request : Request SetTargetStateRequest) (timestamp : UInt64) :
    Except Status StatusCode × SlaveApiService :=
  match validateToken tokens request with
  | .error status => (.error status, service)
  | .ok () =>
    let targetState := request.message.target
    match service.changeState targetState with
    | .ok service => (.ok .noError, service.recordState targetState timestamp)
    | .error code => (.ok code, service)

/-! ## ConfigureStreams -/

/-- `configure_streams`; `layout` is the answer of `get_layout`. -/
def configureStreams (service : SlaveApiService) (tokens : String → Bool)
    (layout : Except HardwareError (List ProcessVariable))
    (request : Request ConfigureStreamsRequest) :
    Except Status StatusCode × SlaveApiService :=
  match validateToken tokens request with
  | .error status => (.error status, service)
  | .ok () =>
    if service.stateManager.state ≠ .preOp then (.ok .errNotReady, service)
    else
      match layout with
      | .error code => (.ok code.val, service)
      | .ok layout =>
        match validateStreams layout [] request.message.streams with
        | .error code => (.ok code, service)
        | .ok () =>
          match service.streamStore.reset.addStreamConfigs request.message.streams with
          | (.error code, store) => (.ok code, { service with streamStore := store })
          | (.ok (), store) => (.ok .noError, { service with streamStore := store })

end SlaveApiService

/-! ## Validated streams can be added -/

/-- What `validate_streams` has checked of one stream. -/
theorem validateStream_ok {layout : List ProcessVariable} {stream : StreamConfig}
    (h : validateStream layout stream = .ok ()) :
    ∃ seq, initialSequenceNumber stream.direction = .ok seq := by
  unfold validateStream at h
  unfold initialSequenceNumber
  cases hdir : Direction.tryFrom stream.direction with
  | some direction => cases direction <;> exact ⟨_, rfl⟩
  | none =>
    simp only [hdir] at h
    repeat' split at h
    all_goals cases h

/-- Validation fails with one code only. -/
theorem validateStream_error {layout : List ProcessVariable} {stream : StreamConfig}
    {code : StatusCode} (h : validateStream layout stream = .error code) :
    code = .errParamInvalid := by
  unfold validateStream at h
  repeat' split at h
  all_goals cases h <;> rfl

theorem validateStreams_error {layout : List ProcessVariable} {seen : List UInt32}
    {streams : List StreamConfig} {code : StatusCode}
    (h : validateStreams layout seen streams = .error code) : code = .errParamInvalid := by
  induction streams generalizing seen with
  | nil => cases h
  | cons stream rest ih =>
    unfold validateStreams at h
    split at h
    · cases h
      rfl
    · split at h
      · cases h
        rfl
      · split at h
        · rename_i hstream
          cases h
          exact validateStream_error hstream
        · exact ih h

/-- Streams that pass `validate_streams` form a batch that the store accepts. -/
theorem wellFormedBatch_of_validated {layout : List ProcessVariable}
    {seen : List UInt32} {streams : List StreamConfig}
    (h : validateStreams layout seen streams = .ok ()) :
    StreamStore.WellFormedBatch streams ∧ ∀ stream ∈ streams, stream.streamId ∉ seen := by
  induction streams generalizing seen with
  | nil => exact ⟨⟨by simp, by simp, List.nodup_nil⟩, by simp⟩
  | cons stream rest ih =>
    unfold validateStreams at h
    split at h
    · cases h
    -- the id fits 16 bits
    · rename_i hrange
      split at h
      · cases h
      -- it has not been seen
      · rename_i hnew
        split at h
        · cases h
        -- the stream itself passes, so its first number is known
        · rename_i hstream
          obtain ⟨hrest, hseen⟩ := ih h
          refine ⟨⟨?_, ?_, ?_⟩, ?_⟩
          · exact List.forall_mem_cons.mpr ⟨hrange, hrest.fits⟩
          · refine List.forall_mem_cons.mpr ⟨?_, hrest.known⟩
            exact initialSequenceNumber_ok_iff.mp (validateStream_ok hstream)
          · rw [List.map_cons, List.nodup_cons]
            refine ⟨?_, hrest.distinct⟩
            intro hmem
            -- a later stream with this id would have been seen
            obtain ⟨other, hother, heq⟩ := List.mem_map.mp hmem
            exact hseen other hother (heq ▸ List.mem_cons_self)
          · refine List.forall_mem_cons.mpr ⟨hnew, ?_⟩
            exact fun other hother hmem => hseen other hother (List.mem_cons_of_mem _ hmem)

/-- Streams that pass `validate_streams` are all added to a store that was just reset, which
then holds nothing else. -/
theorem addStreamConfigs_reset_of_validated (store : StreamStore) {layout : List ProcessVariable}
    {streams : List StreamConfig} (hvalid : validateStreams layout [] streams = .ok ()) :
    (store.reset.addStreamConfigs streams).1 = .ok () ∧
      (store.reset.addStreamConfigs streams).2.sharedSecret = store.sharedSecret ∧
      (∀ stream ∈ streams, (store.reset.addStreamConfigs streams).2.AddedIn stream) ∧
      ∀ id e, (store.reset.addStreamConfigs streams).2.entry id = some e →
        e.streamConfig ∈ streams ∧ e.streamConfig.streamId.toUInt16 = id := by
  obtain ⟨hbatch, -⟩ := wellFormedBatch_of_validated hvalid
  -- after the reset nothing is configured
  have habsent : ∀ config ∈ streams, ¬ store.reset.Configured config := by
    intro config _ h
    cases h
  obtain ⟨hok, hadded, -⟩ := StreamStore.addStreamConfigs_of_absent hbatch habsent
  have hinsert := @StreamStore.addStreamConfigs_of_wellFormed store.reset _ hbatch
  refine ⟨hok, ?_, hadded, ?_⟩
  · rw [hinsert, StreamStore.sharedSecret_insertStreamConfigs]
    rfl
  · intro id e he
    rw [hinsert] at he
    rcases StreamStore.insertStreamConfigs_entry he with hold | ⟨hmem, hid, -⟩
    · cases hold
    · exact ⟨hmem, StreamStore.streamIdAsU16_eq_ok hid⟩

namespace SlaveApiService

/-- SetTargetState does not touch the streams. -/
@[simp] theorem streamStore_setTargetState (service : SlaveApiService) (tokens : String → Bool)
    (request : Request SetTargetStateRequest) (timestamp : UInt64) :
    (service.setTargetState tokens request timestamp).2.streamStore = service.streamStore := by
  unfold setTargetState
  split
  · rfl
  · dsimp only [changeState]
    cases service.stateManager.setTargetState request.message.target <;> rfl

/-- The service after a successful ConfigureStreams request. -/
structure Reconfigured (service next : SlaveApiService) (streams : List StreamConfig) : Prop where
  stateManager : next.stateManager = service.stateManager
  statusStore : next.statusStore = service.statusStore
  sharedSecret : next.streamStore.sharedSecret = service.streamStore.sharedSecret
  /-- Every requested stream starts at its initial sequence number. -/
  fresh : ∀ stream ∈ streams, ∃ seq, initialSequenceNumber stream.direction = .ok seq ∧
    next.streamStore.entry stream.streamId.toUInt16 = some ⟨stream, seq⟩
  /-- Nothing else is configured. -/
  only : ∀ id e, next.streamStore.entry id = some e →
    e.streamConfig ∈ streams ∧ e.streamConfig.streamId.toUInt16 = id

/-- A ConfigureStreams request succeeds and replaces all entries by fresh ones, or it leaves
the service unchanged: after validation the store cannot refuse the streams. -/
theorem configureStreams_cases (service : SlaveApiService) (tokens : String → Bool)
    (layout : Except HardwareError (List ProcessVariable))
    (request : Request ConfigureStreamsRequest) :
    ((service.configureStreams tokens layout request).1 ≠ .ok .noError ∧
      (service.configureStreams tokens layout request).2 = service) ∨
    ((service.configureStreams tokens layout request).1 = .ok .noError ∧
      Reconfigured service (service.configureStreams tokens layout request).2
        request.message.streams) := by
  unfold configureStreams
  split
  -- the token, then the device state
  · exact .inl ⟨by simp, rfl⟩
  · split
    · exact .inl ⟨by simp, rfl⟩
    · split
      -- the layout cannot be read
      · rename_i code
        exact .inl ⟨by simpa using code.property, rfl⟩
      · rename_i processVariables
        split
        -- the streams do not fit it
        · rename_i hinvalid
          exact .inl ⟨by simp [validateStreams_error hinvalid], rfl⟩
        · rename_i hvalid
          right
          -- validated streams are added to an empty store, which cannot refuse them
          obtain ⟨hok, hsecret, hadded, honly⟩ :=
            addStreamConfigs_reset_of_validated service.streamStore hvalid
          rcases hadd : service.streamStore.reset.addStreamConfigs request.message.streams
            with ⟨result, store⟩
          simp only [hadd] at hok hsecret hadded honly
          subst hok
          exact ⟨rfl, rfl, rfl, hsecret, hadded, honly⟩

end SlaveApiService

end TsnFieldbus
