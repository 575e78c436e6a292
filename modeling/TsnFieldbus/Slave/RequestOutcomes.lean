import TsnFieldbus.Slave.SlaveApi

/-!
# What the Response of a State-Changing Request Says

ConfigureStreams wipes the store between two validations in different crates, and
SetTargetState reads its number through a getter with a default.

- `configureStreams_allOrNothing`: the response code of ConfigureStreams tells whether the
  store was replaced as a whole or left alone.
- `unknown_state_refused_iff`: in which device states a number that names no device state is
  refused.
-/

namespace TsnFieldbus

/-- What `validate_streams` has checked of each stream. -/
structure ValidStream (layout : List ProcessVariable) (stream : StreamConfig) : Prop where
  streamId : stream.streamId ≤ 65535
  destinationMac : stream.destinationMac.length = 6
  cycleTime : minCycleTimeNs ≤ stream.cycleTimeNano
  content : ∃ content direction, stream.streamContent = some content ∧ content.bitLen ≠ 0 ∧
    Direction.tryFrom stream.direction = some direction ∧
    ∃ processVariable ∈ layout, processVariable.covers direction content = true

theorem validStream_of_validated {layout : List ProcessVariable} {stream : StreamConfig}
    (hid : ¬ stream.streamId > 65535) (h : validateStream layout stream = .ok ()) :
    ValidStream layout stream := by
  unfold validateStream at h
  split at h
  · cases h
  -- the checks in the order of the code, the first that fails ends it
  · rename_i hmac
    split at h
    · cases h
    · rename_i hcycle
      split at h
      · cases h
      · rename_i content hcontent
        split at h
        · cases h
        · rename_i hbits
          split at h
          · cases h
          · rename_i direction hdirection
            split at h
            · rename_i hcovers
              exact ⟨UInt32.not_lt.mp hid, not_not.mp hmac, UInt32.not_lt.mp hcycle, content,
                direction, hcontent, hbits, hdirection, List.any_eq_true.mp hcovers⟩
            · cases h

theorem validStream_of_validateStreams {layout : List ProcessVariable} {seen : List UInt32}
    {streams : List StreamConfig} (h : validateStreams layout seen streams = .ok ()) :
    ∀ stream ∈ streams, ValidStream layout stream := by
  induction streams generalizing seen with
  | nil => simp
  | cons stream rest ih =>
    unfold validateStreams at h
    split at h
    · cases h
    · rename_i hid
      split at h
      · cases h
      · split at h
        · cases h
        · rename_i hstream
          exact List.forall_mem_cons.mpr ⟨validStream_of_validated hid hstream, ih h⟩

/-- A 32-bit value in the range of 16 bits survives `as u16`. -/
theorem toNat_toUInt16_of_le {value : UInt32} (h : value ≤ 65535) :
    value.toUInt16.toNat = value.toNat := by
  have hle : value.toNat ≤ 65535 := UInt32.le_iff_toNat_le.mp h
  rw [UInt32.toNat_toUInt16, Nat.mod_eq_of_lt (by omega)]

/-- The store holds these streams, at the initial sequence numbers of their directions, and no
others. -/
structure StreamStore.HoldsExactly (store : StreamStore) (streams : List StreamConfig) :
    Prop where
  added : ∀ stream ∈ streams, ∃ id seq, stream.streamId.toNat = id.toNat ∧
    initialSequenceNumber stream.direction = .ok seq ∧ store.entry id = some ⟨stream, seq⟩
  only : ∀ id e, store.entry id = some e →
    e.streamConfig ∈ streams ∧ e.streamConfig.streamId.toNat = id.toNat

/-- A store with fresh entries for valid streams and no others holds exactly these. -/
theorem StreamStore.holdsExactly_of_fresh {store : StreamStore} {streams : List StreamConfig}
    (hfits : ∀ stream ∈ streams, stream.streamId ≤ 65535)
    (hfresh : ∀ stream ∈ streams, store.AddedIn stream)
    (honly : ∀ id e, store.entry id = some e →
      e.streamConfig ∈ streams ∧ e.streamConfig.streamId.toUInt16 = id) :
    store.HoldsExactly streams := by
  have hnarrow : ∀ stream ∈ streams,
      stream.streamId.toUInt16.toNat = stream.streamId.toNat := by
    intro stream hmem
    exact toNat_toUInt16_of_le (hfits stream hmem)
  constructor
  · intro stream hmem
    obtain ⟨seq, hseq, hentry⟩ := hfresh stream hmem
    exact ⟨stream.streamId.toUInt16, seq, (hnarrow stream hmem).symm, hseq, hentry⟩
  · intro id e hentry
    obtain ⟨hmem, hid⟩ := honly id e hentry
    refine ⟨hmem, ?_⟩
    rw [← hnarrow _ hmem, hid]

/-- Validated streams fill a store that was just reset. -/
theorem StreamStore.holdsExactly_of_validated (store : StreamStore)
    {layout : List ProcessVariable} {streams : List StreamConfig}
    (hvalid : validateStreams layout [] streams = .ok ()) :
    (store.reset.addStreamConfigs streams).2.HoldsExactly streams := by
  obtain ⟨-, -, hfresh, honly⟩ := addStreamConfigs_reset_of_validated store hvalid
  refine holdsExactly_of_fresh (fun stream hmem => ?_) hfresh honly
  exact (validStream_of_validateStreams hvalid stream hmem).streamId

namespace SlaveApiService

/-! ## ConfigureStreams -/

/-- The streams of a successful ConfigureStreams have passed validation. -/
theorem validated_of_configured {service : SlaveApiService} {tokens : String → Bool}
    {layout : Except HardwareError (List ProcessVariable)}
    {request : Request ConfigureStreamsRequest}
    (h : (service.configureStreams tokens layout request).1 = .ok .noError) :
    ∃ processVariables, layout = .ok processVariables ∧
      validateStreams processVariables [] request.message.streams = .ok () := by
  unfold configureStreams at h
  split at h
  · cases h
  · split at h
    · cases h
    · split at h
      · rename_i code
        -- a hardware error is reported with a code that is no success
        exact absurd (Except.ok.inj h) code.property
      · rename_i processVariables
        split at h
        · rename_i hinvalid
          cases h
          exact absurd (validateStreams_error hinvalid) (by decide)
        · rename_i hvalid
          exact ⟨processVariables, rfl, hvalid⟩

/-- After a successful ConfigureStreams the store holds the requested streams. -/
theorem holdsExactly_of_configured {service : SlaveApiService} {tokens : String → Bool}
    {layout : Except HardwareError (List ProcessVariable)}
    {request : Request ConfigureStreamsRequest}
    (h : (service.configureStreams tokens layout request).1 = .ok .noError) :
    (service.configureStreams tokens layout request).2.streamStore.HoldsExactly
      request.message.streams := by
  obtain ⟨processVariables, -, hvalid⟩ := validated_of_configured h
  rcases service.configureStreams_cases tokens layout request with ⟨hfailed, -⟩ | ⟨-, hnew⟩
  · exact absurd h hfailed
  · refine StreamStore.holdsExactly_of_fresh (fun stream hmem => ?_) hnew.fresh hnew.only
    exact (validStream_of_validateStreams hvalid stream hmem).streamId

/-- **ConfigureStreams is all-or-nothing**: after any response but `NoError` the store is as
before, and after `NoError` it holds exactly the requested streams. Whatever passes
`validate_streams` is added to the store that was just reset. -/
theorem configureStreams_allOrNothing (service : SlaveApiService) (tokens : String → Bool)
    (layout : Except HardwareError (List ProcessVariable))
    (request : Request ConfigureStreamsRequest) :
    ((service.configureStreams tokens layout request).1 ≠ .ok .noError →
      (service.configureStreams tokens layout request).2.streamStore = service.streamStore) ∧
    ((service.configureStreams tokens layout request).1 = .ok .noError →
      (service.configureStreams tokens layout request).2.streamStore.HoldsExactly
        request.message.streams) ∧
    ∀ processVariables, validateStreams processVariables [] request.message.streams = .ok () →
      (service.streamStore.reset.addStreamConfigs request.message.streams).1 = .ok () := by
  refine ⟨?_, ?_, fun _ hvalid =>
    (addStreamConfigs_reset_of_validated service.streamStore hvalid).1⟩
  · intro hfailed
    rcases service.configureStreams_cases tokens layout request with ⟨-, hsame⟩ | ⟨hok, -⟩
    · rw [hsame]
    · exact absurd hok hfailed
  · exact holdsExactly_of_configured

/-! ## SetTargetState -/

/-- The request is answered with an error, and neither copy of the device state changes. -/
def RefusesTarget (service : SlaveApiService) (tokens : String → Bool)
    (request : Request SetTargetStateRequest) (timestamp : UInt64) : Prop :=
  (service.setTargetState tokens request timestamp).1 ≠ .ok .noError ∧
    (service.setTargetState tokens request timestamp).2.stateManager = service.stateManager ∧
    (service.setTargetState tokens request timestamp).2.statusStore = service.statusStore

end SlaveApiService

/-- A device goes to `init` from `init` and from `error`. -/
theorem DeviceStateManager.setTargetState_init (manager : DeviceStateManager) :
    manager.setTargetState .init =
      if manager.state = .init ∨ manager.state = .error then .ok ⟨.init⟩
      else .error .errStateConflict := by
  obtain ⟨state⟩ := manager
  cases state <;> rfl

namespace SlaveApiService

/-- A number that names no device state is handled like a request for Init. -/
theorem setTargetState_of_unknown {service : SlaveApiService} {tokens : String → Bool}
    {request : Request SetTargetStateRequest} (timestamp : UInt64)
    (hunknown : DeviceState.tryFrom request.message.targetState = none)
    (htoken : validateToken tokens request = .ok ()) :
    service.setTargetState tokens request timestamp =
      if service.stateManager.state = .init ∨ service.stateManager.state = .error then
        (.ok .noError,
          { service with stateManager := ⟨.init⟩ }.recordState .init timestamp)
      else (.ok .errStateConflict, service) := by
  have htarget : request.message.target = .init := by
    rw [SetTargetStateRequest.target, hunknown]
    rfl
  simp only [setTargetState, htoken, changeState, htarget,
    DeviceStateManager.setTargetState_init]
  by_cases hstate : service.stateManager.state = .init ∨ service.stateManager.state = .error
  · simp only [hstate, if_true]
  · simp only [hstate, if_false]

/-- **When a number that names no device state is refused**: when the token is invalid, or the
device is neither in Init nor in Error. There it is taken for a request for Init, which Error
answers with a restart. -/
theorem unknown_state_refused_iff (service : SlaveApiService) (tokens : String → Bool)
    {request : Request SetTargetStateRequest} (timestamp : UInt64)
    (hunknown : DeviceState.tryFrom request.message.targetState = none) :
    service.RefusesTarget tokens request timestamp ↔
      validateToken tokens request ≠ .ok () ∨
      (service.stateManager.state ≠ .init ∧ service.stateManager.state ≠ .error) := by
  unfold RefusesTarget
  cases htoken : validateToken tokens request with
  | error status =>
    simp only [setTargetState, htoken]
    simp
  | ok =>
    rw [setTargetState_of_unknown timestamp hunknown htoken]
    by_cases hstate : service.stateManager.state = .init ∨ service.stateManager.state = .error
    -- from init and error the unknown number is taken as init, which is allowed
    · rw [if_pos hstate]
      refine ⟨fun h => absurd rfl h.1, fun h => ?_⟩
      rcases h with htoken | hother
      · exact absurd rfl htoken
      · exact absurd hstate (not_or.mpr hother)
    · rw [if_neg hstate]
      exact ⟨fun _ => .inr (not_or.mp hstate), fun _ => ⟨by simp, rfl, rfl⟩⟩

/-- A device in PreOp refuses the number 99. -/
theorem unknown_state_refused_iff_preOp :
    SlaveApiService.RefusesTarget
      { stateManager := ⟨.preOp⟩, statusStore := .new 0, streamStore := .new zeroSecret }
      (fun _ => true) { token := some "t", message := ⟨99⟩ } 1 :=
  (unknown_state_refused_iff _ (fun _ => true) 1 (by decide)).mpr (.inr (by decide))

/-- A device in Error takes the number 99 for a request to restart. -/
theorem unknown_state_restarts_from_error :
    ∃ service : SlaveApiService, service.stateManager.state = .error ∧
      DeviceState.tryFrom 99 = none ∧
      (service.setTargetState (fun _ => true) { token := some "t", message := ⟨99⟩ } 1).1 =
        .ok .noError ∧
      (service.setTargetState (fun _ => true) { token := some "t", message := ⟨99⟩ }
        1).2.stateManager.state = .init ∧
      ¬ service.RefusesTarget (fun _ => true) { token := some "t", message := ⟨99⟩ } 1 :=
  ⟨{ stateManager := ⟨.error⟩, statusStore := .new 0, streamStore := .new zeroSecret }, rfl,
    by decide, rfl, rfl, fun h => h.1 rfl⟩

end SlaveApiService

end TsnFieldbus
