import TsnFieldbus.Protocol.RequestReplay

/-!
# Assigning an IP Configuration

`set_ip_config` concludes success from one response that matches source, operation code,
transaction id and tag. Over a network that loses, duplicates, delays and reorders messages
this conclusion is right.

- `StoredConfig`: a slave stores what its latest request of the master configured.
- `WaitsForLast`: the master waits for the response to its last request.
- `ConfigurationApplied`: success stands for a record at the addressed slave.
- `ip_config_set_exactly_once`: the four conclusions about a successful call.
-/

namespace TsnFieldbus

open Foundations

namespace Network

variable {ι : Type*} {blake3 : KeyedHash}

/-! ## Invariants -/

/-- A record from the master's address that configured a slave, and that no later number from
there followed, tells what the slave stores. -/
def StoredConfig (masterMac : MacAddr) (net : Network ι) : Prop :=
  ∀ i, ∀ record ∈ net.processed i, ∀ config, record.Configures config →
    record.message.source = masterMac →
    (∀ other ∈ net.processed i, other.message.source = masterMac →
      other.message.parsed.sequenceNumber.toNat ≤ record.message.parsed.sequenceNumber.toNat) →
    (net.slaves i).deviceInfo.Holds config

/-- A waiting master waits for the response to the request it issued last. -/
def WaitsForLast (net : Network ι) : Prop :=
  ∀ call transactionId, net.phase = .waiting call transactionId →
    ∃ request, net.issued.getLast? = some request ∧ request.call = call ∧
      request.message.parsed.header.transactionId = transactionId

/-- The slave with the address has accepted the last request, which asks for this
configuration, and has applied and stored it. -/
def AppliedLast (net : Network ι) (target : MacAddr) (config : IpConfig) : Prop :=
  ∃ i record request, (net.slaves i).interfaceMac = target ∧
    net.issued.getLast? = some request ∧ request.call = .setIpConfig target config ∧
    record ∈ net.processed i ∧ record.message = request.message ∧ record.Configures config

/-- While transaction ids are unique, success stands for an applied configuration. -/
def ConfigurationApplied (net : Network ι) : Prop :=
  ∀ target config, net.phase = .returned (.setIpConfig target config) .ipConfigSet →
    net.issued.length < 65536 → net.AppliedLast target config

/-- The record of a slave whose success response the master takes in is that of the last
request. -/
theorem appliedLast_of_response {masterMac : MacAddr} {net : Network ι}
    (hwell : Wellformed blake3 masterMac net) (hfaithful : net.Faithful)
    (hwaits : net.WaitsForLast) {target : MacAddr} {config : IpConfig} {transactionId : UInt16}
    (hphase : net.phase = .waiting (.setIpConfig target config) transactionId)
    (hfew : net.issued.length < 65536) {message : SdcpMessage} (hsent : net.Sent message)
    (hanswers : AnswersRequest message target .setIpRes transactionId)
    (hresult : ipConfigResult message.parsed.tlvPayload = .ipConfigSet) :
    net.AppliedLast target config := by
  obtain ⟨hsource, hop, hid⟩ := hanswers
  obtain ⟨last, hlast, hcall, hlastId⟩ := hwaits _ _ hphase
  -- the response was sent by a slave for a request with this transaction id
  rcases hwell.origin message hsent with ⟨request, hrequest, rfl⟩ | ⟨i, record, hresponse⟩
  · have hreq := hwell.isRequest_of_issued hrequest
    rw [hop] at hreq
    simp [SdcpOpCode.IsRequest] at hreq
  obtain ⟨opCode, tlv, hto, haddress, hheader, htlv, -⟩ := hwell.response hresponse
  rw [hheader] at hop hid
  cases hto with
  | discover => cases hop
  | getIp => cases hop
  | setIp hset code hok =>
    have hcode : code = .noError := by
      have hstatus := ipConfigResult_eq_ipConfigSet hresult
      simpa [htlv] using hstatus
    obtain ⟨stored, hconfigures⟩ := hok hcode
    -- that request is the last one, since ids have not wrapped around yet
    obtain ⟨request, hrequest, hmessage⟩ := hwell.issued_of_sent
      (hfaithful i record hresponse.processed) (.inl (.inr (.inr hset)))
    obtain ⟨k, hk⟩ := List.mem_iff_getElem?.mp hrequest
    rw [List.getLast?_eq_getElem?] at hlast
    have hkId := congrArg SdcpHeader.transactionId (hwell.issued k request hk).header
    have hlastIssued := hwell.issued _ last hlast
    have hlastId' := congrArg SdcpHeader.transactionId hlastIssued.header
    have hklt : k < net.issued.length := (List.getElem?_eq_some_iff.mp hk).1
    have hkEq : k = net.issued.length - 1 := by
      have hids : UInt16.ofNat (k + 1) = UInt16.ofNat (net.issued.length - 1 + 1) := by
        simp only [SdcpHeader.new] at hkId hlastId' hid
        rw [← hkId, ← hlastId', hlastId, hmessage, hid]
      have := congrArg UInt16.toNat hids
      rw [UInt16.toNat_ofNat_of_lt' (by norm_num; omega),
        UInt16.toNat_ofNat_of_lt' (by norm_num; omega)] at this
      omega
    subst hkEq
    have hsame : request = last := Option.some.inj (hk.symm.trans hlast)
    subst hsame
    refine ⟨i, record, request, haddress.symm.trans hsource, ?_, hcall, hresponse.processed,
      hmessage.symm, ?_⟩
    · rw [List.getLast?_eq_getElem?, hk]
    -- the request's TLV fixes the configuration
    · have hrequested : SlaveNode.requestedConfig record.message.parsed.tlvPayload
          = some config := by
        rw [← hmessage, hlastIssued.tlvPayload, hcall]
        simp [MasterCall.requestTlv, DiscoveryMaster.tlvBytes, SlaveNode.requestedConfig,
          Tlv.writeTo_nil]
      have hstored := hconfigures.requested
      rw [hrequested] at hstored
      cases hstored
      exact hconfigures

variable [DecidableEq ι]

/-! ## One step -/

theorem waitsForLast_step {masterMac : MacAddr} {net net' : Network ι} {event : NetworkEvent ι}
    (hmaster : net.master.interfaceMac = some masterMac) (h : net.WaitsForLast)
    (hstep : net.step blake3 event = some net') : net'.WaitsForLast := by
  intro call transactionId hphase
  rcases step_cases blake3 hmaster hstep with
    ⟨begun, transmitted, -, -, rfl⟩ | ⟨i, frame, hw, message, -, -, -, rfl⟩ | hquiet
  -- the call has just issued its request
  · have hcall : begun = call ∧ net.master.transactionCounter = transactionId := by
      simp only [afterCall, DiscoveryMaster.phaseAfterRequest] at hphase
      split at hphase
      · split at hphase <;> cases hphase
        exact ⟨rfl, rfl⟩
      · cases hphase
    obtain ⟨rfl, rfl⟩ := hcall
    exact ⟨_, List.getLast?_concat, rfl, rfl⟩
  · exact h call transactionId hphase
  · rw [hquiet.issued]
    exact h call transactionId (hquiet.waiting call transactionId hphase)

/-- A slave that accepts a request of the master stores what it configures. -/
theorem storedConfig_step {masterMac : MacAddr} {net net' : Network ι} {event : NetworkEvent ι}
    (hwell : Wellformed blake3 masterMac net) (h : net.StoredConfig masterMac)
    (hbenign : net.Benign event) (hstep : net.step blake3 event = some net') :
    net'.StoredConfig masterMac := by
  rcases step_cases blake3 hwell.masterInterface hstep with
    ⟨begun, transmitted, -, -, rfl⟩ | ⟨i, frame, hw, message, rfl, hmessage, haccept, rfl⟩ | hquiet
  -- a call stores nothing
  · exact h
  · intro j record hrecord config hconfigures hsource hlatest
    by_cases hj : j = i
    -- another slave answers
    swap
    · rw [processed_afterAnswer_ne blake3 net i message hw hj] at hrecord hlatest
      rw [slaves_afterAnswer_ne blake3 net i message hw hj]
      exact h j record hrecord config hconfigures hsource hlatest
    subst hj
    rw [processed_afterAnswer_self] at hrecord hlatest
    rw [slaves_afterAnswer_self]
    rcases List.mem_append.mp hrecord with hold | hnew
    · by_cases hmaster : message.source = masterMac
      -- the new number lies above the record's, which is then not the latest
      · exfalso
        have hle := hlatest _ (List.mem_append_right _ (List.mem_singleton_self _)) hmaster
        have hlt := (DiscoveryAuthHandler.fresh_iff.mp haccept.1).2
        have hmark := ((hwell.history j).tracks masterMac).le_mark
          record.message.parsed.sequenceNumber.toNat (by
            rw [numbersFrom]
            exact List.mem_map_of_mem (List.mem_filter.mpr ⟨hold, by simpa using hsource⟩))
        rw [hmaster] at hlt
        simp only at hle
        omega
      -- a request of somebody else cannot have been delivered, so nothing is stored
      · have hnotReq : ¬ message.parsed.header.opCode.IsRequest := by
          intro hreq
          obtain ⟨request, hrequest, heq⟩ :=
            hwell.issued_of_sent (hbenign message hmessage) (.inl hreq)
          obtain ⟨k, hk⟩ := List.mem_iff_getElem?.mp hrequest
          exact hmaster (heq ▸ (hwell.issued k request hk).source)
        rw [SlaveNode.deviceInfo_answer_of_not_isRequest blake3 hnotReq]
        exact h j record hold config hconfigures hsource
          (fun other hother => hlatest other (List.mem_append_left _ hother))
    -- the record just made is the one whose configuration is stored
    · rw [List.mem_singleton.mp hnew] at hconfigures
      exact SlaveNode.deviceInfo_answer_holds blake3 hconfigures
  -- quiet steps
  · intro j record hrecord config hconfigures hsource hlatest
    rw [hquiet.processed] at hrecord hlatest
    rw [hquiet.deviceInfo j]
    exact h j record hrecord config hconfigures hsource hlatest

/-- A call that has just succeeded was waiting, and the response arrived with this step. -/
theorem ipConfigSet_step {masterMac : MacAddr} {net net' : Network ι} {event : NetworkEvent ι}
    (hmaster : net.master.interfaceMac = some masterMac)
    (hstep : net.step blake3 event = some net') {call : MasterCall}
    (hphase : net'.phase = .returned call .ipConfigSet) :
    net'.issued = net.issued ∧
    (net.phase = .returned call .ipConfigSet ∨
      ∃ transactionId, net.phase = .waiting call transactionId ∧
        ∃ message ∈ delivered event,
          AnswersRequest message call.targetMac call.responseCode transactionId ∧
          call.result message.parsed.tlvPayload = .ipConfigSet) := by
  cases event with
  | call begun transmitted =>
    obtain ⟨-, ⟨-, rfl⟩ | ⟨-, rfl⟩⟩ := step_call blake3 hmaster hstep
    -- a call that begins does not return this
    · cases hphase
    · simp only [afterCall, DiscoveryMaster.phaseAfterRequest] at hphase
      split at hphase
      · split at hphase <;> cases hphase
      · cases hphase
  | masterReceive frame =>
    rcases step_masterReceive blake3 hstep with
      ⟨-, rfl⟩ | ⟨_, _, _, _, -, -, -, -, rfl⟩ |
        ⟨waiting, transactionId, message, hwaiting, hmessage, hanswers, -, -, rfl⟩
    · exact ⟨rfl, .inl hphase⟩
    · cases hphase
    -- an answer to the waiting call
    · simp only [MasterPhase.returned.injEq] at hphase
      obtain ⟨rfl, hresult⟩ := hphase
      exact ⟨rfl, .inr ⟨transactionId, hwaiting, message, hmessage, hanswers, hresult⟩⟩
  | masterTimeout =>
    -- a call that times out returns something else
    simp only [step] at hstep
    cases hold : net.phase <;> simp only [hold, MasterPhase.timeout] at hstep <;> cases hstep <;>
      cases hphase
  | slaveReceive i frame hw =>
    rcases step_slaveReceive blake3 hstep with ⟨-, rfl⟩ | ⟨message, -, -, rfl⟩
    · exact ⟨rfl, .inl hphase⟩
    · exact ⟨rfl, .inl hphase⟩
  | masterSetState | clearDiscoveredDevices | startListener | checkState | slaveSetState =>
    simp only [step] at hstep
    repeat' split at hstep
    all_goals cases hstep
    all_goals exact ⟨rfl, .inl hphase⟩

/-- What is applied stays recorded while no request is issued. -/
theorem appliedLast_step {masterMac : MacAddr} {net net' : Network ι} {event : NetworkEvent ι}
    (hmaster : net.master.interfaceMac = some masterMac)
    (hstep : net.step blake3 event = some net') (hissued : net'.issued = net.issued)
    {target : MacAddr} {config : IpConfig} (h : net.AppliedLast target config) :
    net'.AppliedLast target config := by
  obtain ⟨i, record, request, haddress, hlast, hcall, hrecord, hmessage, hconfigures⟩ := h
  obtain ⟨haddress', hrecords⟩ := records_step hmaster hstep i
  exact ⟨i, record, request, haddress'.trans haddress, hissued ▸ hlast, hcall, hrecords hrecord,
    hmessage, hconfigures⟩

theorem configurationApplied_step {masterMac : MacAddr} {net net' : Network ι}
    {event : NetworkEvent ι} (hwell : Wellformed blake3 masterMac net) (hfaithful : net.Faithful)
    (hwaits : net.WaitsForLast) (h : net.ConfigurationApplied) (hbenign : net.Benign event)
    (hstep : net.step blake3 event = some net') : net'.ConfigurationApplied := by
  intro target config hphase hfew
  obtain ⟨hissued, hsame | ⟨transactionId, hwaiting, message, hmessage, hanswers, hresult⟩⟩ :=
    ipConfigSet_step hwell.masterInterface hstep hphase
  · exact appliedLast_step hwell.masterInterface hstep hissued
      (h target config hsame (hissued ▸ hfew))
  · exact appliedLast_step hwell.masterInterface hstep hissued
      (appliedLast_of_response hwell hfaithful hwaits hwaiting (hissued ▸ hfew)
        (hbenign message hmessage) hanswers hresult)

/-! ## Whole runs -/

/-- The invariants of this module, over those of every benign run. -/
structure Configuring (blake3 : KeyedHash) (masterMac : MacAddr) (net : Network ι) : Prop where
  wellformed : Wellformed blake3 masterMac net
  faithful : net.Faithful
  stored : net.StoredConfig masterMac
  waits : net.WaitsForLast
  applied : net.ConfigurationApplied

theorem configuring_step {masterMac : MacAddr} (net : Network ι) (event : NetworkEvent ι)
    (net' : Network ι) (h : Configuring blake3 masterMac net) (hbenign : net.Benign event)
    (hstep : net.step blake3 event = some net') : Configuring blake3 masterMac net' := by
  obtain ⟨hwell, hfaithful⟩ :=
    faithful_step net event net' ⟨h.wellformed, h.faithful⟩ hbenign hstep
  exact ⟨hwell, hfaithful, storedConfig_step h.wellformed h.stored hbenign hstep,
    waitsForLast_step h.wellformed.masterInterface h.waits hstep,
    configurationApplied_step h.wellformed h.faithful h.waits h.applied hbenign hstep⟩

theorem configuring_of_run {masterMac : MacAddr} {secret : Secret} {net net' : Network ι}
    (hinit : net.Initial masterMac secret) {events : List (NetworkEvent ι)}
    (hbenign : EveryStep (step blake3) Benign net events)
    (hrun : execute (step blake3) net events = some net') : Configuring blake3 masterMac net' := by
  refine execute_invariant_of_guarded configuring_step ⟨hinit.wellformed, ?_, ?_, ?_, ?_⟩ hbenign
    hrun
  · intro i record hrecord
    simp [hinit.processed i] at hrecord
  · intro i record hrecord
    simp [hinit.processed i] at hrecord
  · intro call transactionId hphase
    rw [hinit.phase] at hphase
    cases hphase
  · intro target config hphase
    rw [hinit.phase] at hphase
    cases hphase

/-- **A successful call**: in every benign run with fewer than 65536 requests, when
`set_ip_config` has returned success, the slave with the target's address has processed that
request exactly once, has applied exactly this configuration with success, and stores it. -/
theorem ip_config_set_exactly_once {masterMac : MacAddr} {secret : Secret} {net net' : Network ι}
    (hinit : net.Initial masterMac secret) {events : List (NetworkEvent ι)}
    (hbenign : EveryStep (step blake3) Benign net events)
    (hrun : execute (step blake3) net events = some net') (hfew : net'.issued.length < 65536)
    {target : MacAddr} {config : IpConfig}
    (hreturn : net'.phase = .returned (.setIpConfig target config) .ipConfigSet) :
    ∃ i request record, (net'.slaves i).interfaceMac = target ∧
      net'.issued.getLast? = some request ∧ request.call = .setIpConfig target config ∧
      (net'.processed i).countP (fun other =>
        other.message.parsed.signedBytes = request.message.parsed.signedBytes) = 1 ∧
      record ∈ net'.processed i ∧ record.message = request.message ∧
      (∃ info response, record.effects
        = [.applyIpConfig config true, .writeDeviceInfo info true, .sendTo response]) ∧
      (net'.slaves i).deviceInfo.Holds config := by
  have hinv := configuring_of_run hinit hbenign hrun
  have hwell := hinv.wellformed
  obtain ⟨i, record, request, haddress, hlast, hcall, hrecord, hmessage, hconfigures⟩ :=
    hinv.applied target config hreturn hfew
  have hlast' := hlast
  rw [List.getLast?_eq_getElem?] at hlast'
  have hissued := hwell.issued _ request hlast'
  obtain ⟨info, response, -, heffects⟩ := hconfigures.effects
  refine ⟨i, request, record, haddress, hlast, hcall, ?_, hrecord, hmessage,
    ⟨info, response, heffects⟩, ?_⟩
  -- at most once: two records with these bytes would carry one number of the master
  · apply le_antisymm
    · refine @History.countP_le_one _ _ _ (hwell.history i) masterMac
        request.message.parsed.sequenceNumber.toNat _ (fun other hother hbytes => ?_)
      obtain ⟨hheader, -, hnumber⟩ := signedBytes_injective (of_decide_eq_true hbytes)
      refine ⟨?_, congrArg UInt64.toNat hnumber⟩
      obtain ⟨origin, horigin, heq⟩ := hwell.issued_of_sent (hinv.faithful i other hother)
        (.inl (hheader ▸ hwell.isRequest_of_issued (List.mem_of_getLast? hlast)))
      obtain ⟨k, hk⟩ := List.mem_iff_getElem?.mp horigin
      rw [← heq, (hwell.issued k origin hk).source]
    -- at least once
    · exact List.countP_pos_iff.mpr ⟨record, hrecord, by simp [hmessage]⟩
  -- no number from the master exceeds that of its last request
  · refine hinv.stored i record hrecord config hconfigures (hmessage ▸ hissued.source) ?_
    intro other hother hsource
    obtain ⟨origin, horigin, heq⟩ :=
      hwell.issued_of_sent (hinv.faithful i other hother) (.inr hsource)
    obtain ⟨k, hk⟩ := List.mem_iff_getElem?.mp horigin
    have hklt : k < net'.issued.length := (List.getElem?_eq_some_iff.mp hk).1
    rw [← heq, hmessage, (hwell.issued k origin hk).number, hissued.number]
    omega

/-! ### One call -/

/-- The frame of the master's first request, a SetIpReq. -/
def firstSetIpRequest : Frame :=
  DiscoveryMaster.requestFrame checksumHash segmentMaster.authHandler
    ⟨0xAA, 0xBB, 0xCC, 0xDD, 0xEE, 1⟩ segmentCall.targetMac .setIpReq 1 segmentCall.requestTlv

/-- The slave's response to it. -/
def firstSetIpResponse : Frame :=
  (pairNetwork.slaves ()).nextResponse checksumHash ⟨0xAA, 0xBB, 0xCC, 0xDD, 0xEE, 1⟩ .setIpRes 1
    (.statusReport .noError)

/-- The slave configures itself and its response arrives. -/
def configuredOnce : List (NetworkEvent Unit) :=
  [.call segmentCall true, .checkState (),
    .slaveReceive () firstSetIpRequest workingHardware, .masterReceive firstSetIpResponse]

/-- The slave of the pair stores the configuration of the call. -/
theorem ip_config_set_exactly_once_pair :
    ∃ net' : Network Unit, execute (step checksumHash) pairNetwork configuredOnce = some net' ∧
      net'.phase = .returned segmentCall .ipConfigSet ∧
      ∃ i, (net'.slaves i).interfaceMac = segmentCall.targetMac ∧
        (net'.slaves i).deviceInfo.Holds segmentConfig := by
  obtain ⟨net', hrun, hphase, hlength⟩ : ∃ net' : Network Unit,
      execute (step checksumHash) pairNetwork configuredOnce = some net' ∧
      net'.phase = .returned segmentCall .ipConfigSet ∧ net'.issued.length = 1 :=
    ⟨_, rfl, by decide +kernel, by decide +kernel⟩
  obtain ⟨i, request, record, haddress, -, -, -, -, -, -, hholds⟩ :=
    ip_config_set_exactly_once initial_pairNetwork (by decide +kernel) hrun (by omega) hphase
  exact ⟨net', hrun, hphase, i, haddress, hholds⟩

end Network

end TsnFieldbus
