import TsnFieldbus.Protocol.DiscoveryNetwork

/-!
# Invariants of the Discovery Network

What relates the parties to the record in every run, whatever the environment delivers:
every request carries its place in the sequence of requests, every slave's record is a
`History`, and every message that was ever sent is a request or a response.

- `wellformed_of_run`: these hold after every run.
- `faithful_step`: while deliveries are `Benign`, what a slave accepted is what a party sent.
-/

namespace TsnFieldbus

open Foundations

/-! ## Requests of the master -/

/-- The request number `k`, counted from zero. The sequence number saturates, the transaction
id wraps around. -/
structure IssuedRequest.IssuedAs (request : IssuedRequest) (masterMac : MacAddr) (k : ℕ) :
    Prop where
  source : request.message.source = masterMac
  header : request.message.parsed.header
    = .new request.call.requestCode (UInt16.ofNat (k + 1))
  tlvPayload : request.message.parsed.tlvPayload = DiscoveryMaster.tlvBytes request.call.requestTlv
  number : request.message.parsed.sequenceNumber.toNat = min (k + 1) (2 ^ 64 - 1)

namespace DiscoveryMaster

variable (master : DiscoveryMaster) (mac : MacAddr) (call : MasterCall) (transmitted : Bool)

@[simp] theorem sharedSecret_afterRequest :
    (master.afterRequest mac call transmitted).authHandler.sharedSecret
      = master.authHandler.sharedSecret := by
  unfold afterRequest
  split <;> simp

theorem nextNumber_afterRequest :
    (master.afterRequest mac call transmitted).authHandler.nextNumber mac
      = min (master.authHandler.nextNumber mac + 1) (2 ^ 64 - 1) := by
  unfold afterRequest
  split <;> simp [DiscoveryAuthHandler.nextNumber_afterSend]

@[simp] theorem mark_afterRequest (other : MacAddr) :
    (master.afterRequest mac call transmitted).authHandler.mark other
      = master.authHandler.mark other := by
  unfold afterRequest
  split <;> simp

end DiscoveryMaster

namespace Network

variable {ι : Type*} {blake3 : KeyedHash}

/-! ## The invariant -/

/-- A slave has sent this message with this record. -/
structure RespondedWith (net : Network ι) (i : ι) (record : ProcessedMessage)
    (message : SdcpMessage) : Prop where
  processed : record ∈ net.processed i
  sent : ∃ frame, SlaveEffect.sendTo frame ∈ record.effects ∧
    Frame.sdcpMessage frame = some message

theorem RespondedWith.mono {net net' : Network ι} {i : ι} {record : ProcessedMessage}
    {message : SdcpMessage} (h : net.RespondedWith i record message)
    (hrecords : net.processed i ⊆ net'.processed i) : net'.RespondedWith i record message :=
  ⟨hrecords h.processed, h.sent⟩

/-- A network before its first move: a new master, and slaves that have accepted nothing. -/
structure Initial (masterMac : MacAddr) (secret : Secret) (net : Network ι) : Prop where
  master : ∃ manager, net.master = DiscoveryMaster.new (some masterMac) manager secret
  phase : net.phase = .idle
  secret : ∀ i, (net.slaves i).authHandler.sharedSecret = secret
  contexts : ∀ i mac, (net.slaves i).authHandler.sendContext mac = .default
  addresses : Function.Injective (fun i => (net.slaves i).interfaceMac)
  masterAddress : ∀ i, (net.slaves i).interfaceMac ≠ masterMac
  wire : net.wire = []
  issued : net.issued = []
  processed : ∀ i, net.processed i = []

/-- What holds of a network in every run. -/
structure Wellformed (blake3 : KeyedHash) (masterMac : MacAddr) (net : Network ι) : Prop where
  masterInterface : net.master.interfaceMac = some masterMac
  secret : ∀ i, (net.slaves i).authHandler.sharedSecret = net.master.authHandler.sharedSecret
  addresses : Function.Injective (fun i => (net.slaves i).interfaceMac)
  masterAddress : ∀ i, (net.slaves i).interfaceMac ≠ masterMac
  counter : net.master.transactionCounter = UInt16.ofNat (net.issued.length + 1)
  nextNumber : net.master.authHandler.nextNumber masterMac
    = min (net.issued.length + 1) (2 ^ 64 - 1)
  issued : ∀ k (request : IssuedRequest), net.issued[k]? = some request →
    request.IssuedAs masterMac k
  history : ∀ i, History blake3 (net.slaves i) (net.processed i)
  origin : ∀ message, net.Sent message →
    (∃ request ∈ net.issued, request.message = message) ∨
      ∃ i record, net.RespondedWith i record message

theorem Initial.wellformed {masterMac : MacAddr} {secret : Secret} {net : Network ι}
    (h : net.Initial masterMac secret) : Wellformed blake3 masterMac net := by
  obtain ⟨manager, hmaster⟩ := h.master
  refine ⟨?_, ?_, h.addresses, h.masterAddress, ?_, ?_, ?_, ?_, ?_⟩
  · rw [hmaster]
    rfl
  · intro i
    rw [h.secret i, hmaster]
    simp [DiscoveryMaster.new, DiscoveryAuthHandler.new]
  · rw [hmaster, h.issued]
    rfl
  · rw [hmaster, h.issued]
    simp only [DiscoveryMaster.new, DiscoveryAuthHandler.nextNumber_addNewDevice]
    rfl
  · intro k request hk
    simp [h.issued] at hk
  · intro i
    rw [h.processed i]
    exact .nil _
  · rintro message ⟨frame, hframe, -⟩
    simp [h.wire] at hframe

/-- A response comes from the slave's own address, answers the recorded request and is
authenticated. -/
theorem Wellformed.response {masterMac : MacAddr} {net : Network ι}
    (h : Wellformed blake3 masterMac net) {i : ι} {record : ProcessedMessage}
    {message : SdcpMessage} (hresponse : net.RespondedWith i record message) :
    ∃ opCode tlv, ResponseTo record opCode tlv ∧
      message.source = (net.slaves i).interfaceMac ∧
      message.parsed.header = .new opCode record.message.parsed.header.transactionId ∧
      message.parsed.tlvPayload = tlv.bytes ∧
      tagOf blake3 net.master.authHandler.sharedSecret message.parsed.signedBytes
        = message.parsed.authTag := by
  obtain ⟨hrecord, frame, hframe, hmessage⟩ := hresponse
  obtain ⟨opCode, tlv, seq, hto, heq⟩ := ((h.history i).explained record hrecord).response hframe
  rw [heq] at hmessage
  cases hmessage
  exact ⟨opCode, tlv, hto, rfl, rfl, rfl, by rw [← h.secret i]; rfl⟩

/-- A slave never sends a message with a request code. -/
theorem Wellformed.not_isRequest_of_response {masterMac : MacAddr} {net : Network ι}
    (h : Wellformed blake3 masterMac net) {i : ι} {record : ProcessedMessage}
    {message : SdcpMessage} (hresponse : net.RespondedWith i record message) :
    ¬ message.parsed.header.opCode.IsRequest := by
  obtain ⟨opCode, tlv, hto, -, hheader, -, -⟩ := h.response hresponse
  rw [hheader]
  cases hto <;> simp [SdcpHeader.new, SdcpOpCode.IsRequest]

/-- The master can read a discovery response of a slave. -/
theorem Wellformed.announced {masterMac : MacAddr} {net : Network ι}
    (h : Wellformed blake3 masterMac net) {i : ι} {record : ProcessedMessage}
    {message : SdcpMessage} (hresponse : net.RespondedWith i record message)
    (hop : message.parsed.header.opCode = .discoverRes) :
    ∃ device, announcedDevice message = some device ∧
      device.macAddress = (net.slaves i).interfaceMac := by
  obtain ⟨opCode, tlv, hto, hsource, hheader, htlv, -⟩ := h.response hresponse
  rw [hheader] at hop
  cases hto with
  | discover hreq vendorId deviceId serialNumber =>
    exact ⟨.new message.source ⟨vendorId, deviceId, serialNumber⟩,
      by simp [announcedDevice, htlv], hsource⟩
  | getIp => cases hop
  | setIp => cases hop

/-- The master only sends messages with a request code. -/
theorem Wellformed.isRequest_of_issued {masterMac : MacAddr} {net : Network ι}
    (h : Wellformed blake3 masterMac net) {request : IssuedRequest}
    (hrequest : request ∈ net.issued) : request.message.parsed.header.opCode.IsRequest := by
  obtain ⟨k, hk⟩ := List.mem_iff_getElem?.mp hrequest
  rw [(h.issued k request hk).header]
  cases request.call <;> simp [SdcpHeader.new, MasterCall.requestCode, SdcpOpCode.IsRequest]

/-- In a benign network, requests and messages from the master's address are the master's. -/
theorem Wellformed.issued_of_sent {masterMac : MacAddr} {net : Network ι}
    (h : Wellformed blake3 masterMac net) {message : SdcpMessage} (hsent : net.Sent message)
    (hrequest : message.parsed.header.opCode.IsRequest ∨ message.source = masterMac) :
    ∃ request ∈ net.issued, request.message = message := by
  rcases h.origin message hsent with hissued | ⟨i, record, hresponse⟩
  · exact hissued
  · exfalso
    obtain ⟨-, -, -, hsource, -, -, -⟩ := h.response hresponse
    rcases hrequest with hrequest | hmaster
    · exact h.not_isRequest_of_response hresponse hrequest
    · exact h.masterAddress i (hsource.symm.trans hmaster)

/-- In a benign network, messages from a slave's address are responses of that slave. -/
theorem Wellformed.responded_of_source {masterMac : MacAddr} {net : Network ι}
    (h : Wellformed blake3 masterMac net) {message : SdcpMessage} (hsent : net.Sent message)
    {i : ι} (hsource : message.source = (net.slaves i).interfaceMac) :
    ∃ record, net.RespondedWith i record message := by
  rcases h.origin message hsent with ⟨request, hrequest, rfl⟩ | ⟨j, record, hresponse⟩
  · obtain ⟨k, hk⟩ := List.mem_iff_getElem?.mp hrequest
    exact absurd (hsource.symm.trans (h.issued k request hk).source) (h.masterAddress i)
  · obtain ⟨-, -, -, hsource', -, -, -⟩ := h.response hresponse
    have hj : j = i := h.addresses (hsource'.symm.trans hsource)
    exact ⟨record, hj ▸ hresponse⟩

theorem sent_mono {net net' : Network ι} (hwire : net.wire ⊆ net'.wire) {message : SdcpMessage}
    (h : net.Sent message) : net'.Sent message := by
  obtain ⟨frame, hframe, hmessage⟩ := h
  exact ⟨frame, hwire hframe, hmessage⟩

/-! ## One step -/

theorem Wellformed.congr {masterMac : MacAddr} {net net' : Network ι}
    (h : Wellformed blake3 masterMac net) (hquiet : Quiet net net') :
    Wellformed blake3 masterMac net' := by
  refine ⟨?_, ?_, ?_, ?_, ?_, ?_, ?_, ?_, ?_⟩
  · rw [hquiet.masterMac, h.masterInterface]
  · intro i
    rw [hquiet.authHandler i, hquiet.secret, h.secret i]
  · simpa only [hquiet.address] using h.addresses
  · simpa only [hquiet.address] using h.masterAddress
  · rw [hquiet.counter, hquiet.issued, h.counter]
  · rw [hquiet.nextNumber, hquiet.issued, h.nextNumber]
  · rw [hquiet.issued]
    exact h.issued
  · intro i
    rw [hquiet.processed]
    exact (h.history i).congr (hquiet.address i) (hquiet.authHandler i)
  -- what is on the wire still comes from a request or from an answer
  · rintro message ⟨frame, hframe, hmessage⟩
    rw [hquiet.wire] at hframe
    rcases h.origin message ⟨frame, hframe, hmessage⟩ with hissued | ⟨i, record, hrecord, hsent⟩
    · rw [hquiet.issued]
      exact .inl hissued
    · exact .inr ⟨i, record, hquiet.processed ▸ hrecord, hsent⟩

theorem Wellformed.afterCall {masterMac : MacAddr} {net : Network ι}
    (h : Wellformed blake3 masterMac net) (call : MasterCall) (transmitted : Bool) :
    Wellformed blake3 masterMac (net.afterCall blake3 masterMac call transmitted) := by
  refine ⟨h.masterInterface, ?_, h.addresses, h.masterAddress, ?_, ?_, ?_, h.history, ?_⟩
  -- the call leaves the secret and both addresses alone
  · intro i
    exact (h.secret i).trans (DiscoveryMaster.sharedSecret_afterRequest _ _ _ _).symm
  -- the counters move on with the list of requests
  · show net.master.transactionCounter + 1 = _
    rw [h.counter, Network.afterCall, List.length_append, List.length_singleton]
    exact (UInt16.ofNat_add _ 1).symm
  · rw [Network.afterCall, DiscoveryMaster.nextNumber_afterRequest, h.nextNumber,
      List.length_append, List.length_singleton]
    omega
  · intro k request hk
    rw [Network.afterCall, List.getElem?_append] at hk
    split at hk
    -- requests issued before
    · exact h.issued k request hk
    -- the new request carries the counters
    · rename_i hlt
      have hzero : k - net.issued.length = 0 := by
        by_contra hne
        rw [List.getElem?_eq_none (by simp only [List.length_singleton]; omega)] at hk
        cases hk
      have hk' : k = net.issued.length := by omega
      subst hk'
      rw [hzero, List.getElem?_cons_zero] at hk
      cases hk
      exact ⟨rfl, by rw [← h.counter]; rfl, rfl, h.nextNumber⟩
  · rintro message ⟨frame, hframe, hmessage⟩
    -- the origin of a frame already on the wire
    rcases List.mem_append.mp hframe with hold | hnew
    · rcases h.origin message ⟨frame, hold, hmessage⟩ with
        ⟨request, hrequest, heq⟩ | ⟨i, record, hrecord, hsent⟩
      · exact .inl ⟨request, List.mem_append_left _ hrequest, heq⟩
      · exact .inr ⟨i, record, hrecord, hsent⟩
    -- the new frame is the new request
    · rw [List.mem_singleton.mp hnew, sdcpMessage_requestFrame] at hmessage
      cases hmessage
      exact .inl ⟨_, List.mem_append_right _ (List.mem_singleton_self _), rfl⟩

variable [DecidableEq ι]

section AfterAnswer

variable (blake3) (net : Network ι) (i : ι) (message : SdcpMessage) (hw : HardwareResponse)

@[simp] theorem slaves_afterAnswer_self :
    (net.afterAnswer blake3 i message hw).slaves i
      = ((net.slaves i).answer blake3 message hw).1 :=
  Function.update_self _ _ _

theorem slaves_afterAnswer_ne {j : ι} (h : j ≠ i) :
    (net.afterAnswer blake3 i message hw).slaves j = net.slaves j :=
  Function.update_of_ne h _ _

@[simp] theorem processed_afterAnswer_self :
    (net.afterAnswer blake3 i message hw).processed i
      = net.processed i ++ [⟨message, ((net.slaves i).answer blake3 message hw).2⟩] :=
  Function.update_self _ _ _

theorem processed_afterAnswer_ne {j : ι} (h : j ≠ i) :
    (net.afterAnswer blake3 i message hw).processed j = net.processed j :=
  Function.update_of_ne h _ _

@[simp] theorem address_afterAnswer (j : ι) :
    ((net.afterAnswer blake3 i message hw).slaves j).interfaceMac
      = (net.slaves j).interfaceMac := by
  by_cases h : j = i
  · subst h
    rw [slaves_afterAnswer_self]
    exact SlaveNode.interfaceMac_perform _ _ _ _ _
  · rw [slaves_afterAnswer_ne blake3 net i message hw h]

@[simp] theorem secret_afterAnswer (j : ι) :
    ((net.afterAnswer blake3 i message hw).slaves j).authHandler.sharedSecret
      = (net.slaves j).authHandler.sharedSecret := by
  by_cases h : j = i
  · subst h
    rw [slaves_afterAnswer_self]
    exact SlaveNode.sharedSecret_perform _ _ _ _ _
  · rw [slaves_afterAnswer_ne blake3 net i message hw h]

/-- Records are only added. -/
theorem processed_subset_afterAnswer (j : ι) :
    net.processed j ⊆ (net.afterAnswer blake3 i message hw).processed j := by
  by_cases h : j = i
  · subst h
    rw [processed_afterAnswer_self]
    exact List.subset_append_left _ _
  · rw [processed_afterAnswer_ne blake3 net i message hw h]
    exact List.Subset.refl _

end AfterAnswer

theorem Wellformed.afterAnswer {masterMac : MacAddr} {net : Network ι}
    (h : Wellformed blake3 masterMac net) {i : ι} {message : SdcpMessage}
    (haccept : (net.slaves i).Accepts blake3 message.parsed message.source)
    (hw : HardwareResponse) :
    Wellformed blake3 masterMac (net.afterAnswer blake3 i message hw) := by
  refine ⟨h.masterInterface, ?_, ?_, ?_, h.counter, h.nextNumber, h.issued, ?_, ?_⟩
  -- an answer leaves the master, the secret and the addresses alone
  · intro j
    rw [secret_afterAnswer]
    exact h.secret j
  · simpa only [address_afterAnswer] using h.addresses
  · simpa only [address_afterAnswer] using h.masterAddress
  · intro j
    -- the slave that answers extends its own history only
    by_cases hj : j = i
    · subst hj
      rw [slaves_afterAnswer_self, processed_afterAnswer_self]
      exact (h.history j).answer haccept hw
    · rw [slaves_afterAnswer_ne blake3 net i message hw hj,
        processed_afterAnswer_ne blake3 net i message hw hj]
      exact h.history j
  · rintro sent ⟨frame, hframe, hsent⟩
    -- a frame already on the wire
    rcases List.mem_append.mp hframe with hold | hnew
    · rcases h.origin sent ⟨frame, hold, hsent⟩ with hissued | ⟨j, record, hrecord, hsent⟩
      · exact .inl hissued
      · exact .inr ⟨j, record, processed_subset_afterAnswer blake3 net i message hw j hrecord,
          hsent⟩
    -- the frame just sent stems from the record just made
    · refine .inr ⟨i, ⟨message, ((net.slaves i).answer blake3 message hw).2⟩, ?_,
        ⟨frame, mem_sentFrames.mp hnew, hsent⟩⟩
      rw [processed_afterAnswer_self]
      exact List.mem_append_right _ (List.mem_singleton_self _)

theorem wellformed_step {masterMac : MacAddr} (net : Network ι) (event : NetworkEvent ι)
    (net' : Network ι) (h : Wellformed blake3 masterMac net)
    (hstep : net.step blake3 event = some net') : Wellformed blake3 masterMac net' := by
  rcases step_cases blake3 h.masterInterface hstep with
    ⟨call, transmitted, -, -, rfl⟩ | ⟨i, frame, hw, message, -, -, haccept, rfl⟩ | hquiet
  · exact h.afterCall call transmitted
  · exact h.afterAnswer haccept hw
  · exact h.congr hquiet

/-- The invariant holds after every run. -/
theorem wellformed_of_run {masterMac : MacAddr} {secret : Secret} {net net' : Network ι}
    (hinit : net.Initial masterMac secret) {events : List (NetworkEvent ι)}
    (hrun : execute (step blake3) net events = some net') : Wellformed blake3 masterMac net' :=
  execute_invariant wellformed_step hinit.wellformed hrun

/-! ## What steps keep -/

/-- No step changes an address or takes back a record. -/
theorem records_step {masterMac : MacAddr} {net net' : Network ι} {event : NetworkEvent ι}
    (hmaster : net.master.interfaceMac = some masterMac)
    (hstep : net.step blake3 event = some net') (i : ι) :
    (net'.slaves i).interfaceMac = (net.slaves i).interfaceMac ∧
      net.processed i ⊆ net'.processed i := by
  rcases step_cases blake3 hmaster hstep with
    ⟨call, transmitted, -, -, rfl⟩ | ⟨j, frame, hw, message, -, -, -, rfl⟩ | hquiet
  · exact ⟨rfl, List.Subset.refl _⟩
  · exact ⟨address_afterAnswer blake3 net j message hw i,
      processed_subset_afterAnswer blake3 net j message hw i⟩
  · exact ⟨hquiet.address i, hquiet.processed ▸ List.Subset.refl _⟩

/-- Addresses are fixed for the whole run. -/
theorem address_of_run {masterMac : MacAddr} {net net' : Network ι}
    (hwell : Wellformed blake3 masterMac net) {events : List (NetworkEvent ι)}
    (hrun : execute (step blake3) net events = some net') (i : ι) :
    (net'.slaves i).interfaceMac = (net.slaves i).interfaceMac := by
  refine (execute_invariant (I := fun u => Wellformed blake3 masterMac u ∧
    (u.slaves i).interfaceMac = (net.slaves i).interfaceMac) ?_ ⟨hwell, rfl⟩ hrun).2
  rintro u event v ⟨huwell, haddress⟩ hstep
  exact ⟨wellformed_step u event v huwell hstep,
    (records_step huwell.masterInterface hstep i).1.trans haddress⟩

/-- The cache of discovered devices changes with an accepted discovery response, is cleared
between calls, or stays. -/
theorem discoveredDevices_step {masterMac : MacAddr} {net net' : Network ι}
    {event : NetworkEvent ι} (hmaster : net.master.interfaceMac = some masterMac)
    (hstep : net.step blake3 event = some net') :
    net'.master.discoveredDevices = net.master.discoveredDevices ∨
    (net.phase.busy = false ∧ net'.master.discoveredDevices = ∅) ∨
    (∃ frame message, event = .masterReceive frame ∧ Frame.sdcpMessage frame = some message ∧
      message.parsed.header.opCode = .discoverRes ∧
      AcceptsDiscovery blake3 net.master.authHandler message ∧
      net'.master = net.master.afterDiscovery message) := by
  cases event with
  | call call transmitted =>
    -- no call takes a device in or drops one
    obtain ⟨-, ⟨-, rfl⟩ | ⟨-, rfl⟩⟩ := step_call blake3 hmaster hstep
    · exact .inl rfl
    · exact .inl rfl
  | masterReceive frame =>
    rcases step_masterReceive blake3 hstep with
      ⟨-, rfl⟩ | ⟨_, _, _, message, -, hmessage, hanswers, haccepts, rfl⟩ |
        ⟨_, _, _, -, -, -, -, -, rfl⟩
    · exact .inl rfl
    -- taken in by an open discovery
    · exact .inr (.inr ⟨frame, message, rfl, hmessage, hanswers.1, haccepts, rfl⟩)
    -- an answer to another call
    · exact .inl rfl
  | clearDiscoveredDevices =>
    simp only [step] at hstep
    split at hstep
    · cases hstep
    -- cleared, which a running call does not allow
    · rename_i hbusy
      cases hstep
      exact .inr (.inl ⟨Bool.eq_false_iff.mpr hbusy, rfl⟩)
  | slaveReceive i frame hw =>
    rcases step_slaveReceive blake3 hstep with ⟨-, rfl⟩ | ⟨message, -, -, rfl⟩
    · exact .inl rfl
    · exact .inl rfl
  | masterTimeout | masterSetState | startListener | checkState | slaveSetState =>
    left
    simp only [step] at hstep
    repeat' split at hstep
    all_goals cases hstep
    all_goals rfl

/-! ## Benign runs -/

/-- What a slave has accepted is what a party has sent. -/
def Faithful (net : Network ι) : Prop :=
  ∀ i, ∀ record ∈ net.processed i, net.Sent record.message

theorem faithful_step {masterMac : MacAddr} (net : Network ι) (event : NetworkEvent ι)
    (net' : Network ι) (h : Wellformed blake3 masterMac net ∧ net.Faithful)
    (hbenign : net.Benign event) (hstep : net.step blake3 event = some net') :
    Wellformed blake3 masterMac net' ∧ net'.Faithful := by
  obtain ⟨hwell, hfaithful⟩ := h
  refine ⟨wellformed_step net event net' hwell hstep, ?_⟩
  rcases step_cases blake3 hwell.masterInterface hstep with
    ⟨call, transmitted, -, -, rfl⟩ | ⟨i, frame, hw, message, rfl, hmessage, -, rfl⟩ | hquiet
  -- a call: the wire only grows
  · intro j record hrecord
    exact sent_mono (List.subset_append_left _ _) (hfaithful j record hrecord)
  · intro j record hrecord
    refine sent_mono (List.subset_append_left _ _) ?_
    by_cases hj : j = i
    · subst hj
      rw [processed_afterAnswer_self] at hrecord
      rcases List.mem_append.mp hrecord with hold | hnew
      · exact hfaithful j record hold
      -- a record just made is of a delivered message
      · rw [List.mem_singleton.mp hnew]
        exact hbenign message hmessage
    · rw [processed_afterAnswer_ne blake3 net i message hw hj] at hrecord
      exact hfaithful j record hrecord
  -- quiet steps
  · intro j record hrecord
    rw [hquiet.processed] at hrecord
    exact sent_mono (hquiet.wire ▸ List.Subset.refl _) (hfaithful j record hrecord)

end Network

end TsnFieldbus
