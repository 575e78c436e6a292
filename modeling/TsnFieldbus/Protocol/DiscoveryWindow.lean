import TsnFieldbus.Protocol.DiscoveredIdentities

/-!
# Discovery after Lost Responses

A slave numbers its answers from one; the master takes in an unknown device only with number
one and a known device only with a number above its mark. Which earlier messages were lost
therefore decides what becomes of a response that arrives in time.

- `MarksBehind`: the master's mark for a slave stays below the slave's next number.
- `AwaitingResponse`: what holds in a window from the slave's answer to its arrival.
- `answered_slave_is_discovered`: the response counts when the slave is known or it is the
  slave's first.
- `answered_slave_is_not_discovered`: after a lost first response the second one is refused.
-/

namespace TsnFieldbus

open Foundations

namespace Network

variable {ι : Type*} {blake3 : KeyedHash}

theorem ne_masterTimeout_of_notMem {events : List (NetworkEvent ι)}
    (hopen : .masterTimeout ∉ events) : ∀ event ∈ events, event ≠ .masterTimeout :=
  fun _ hmem heq => hopen (heq ▸ hmem)

/-! ## Marks of the master -/

/-- The master's mark for a slave lies below the slave's next number, until that saturates. -/
def MarksBehind (net : Network ι) : Prop :=
  ∀ i, net.master.authHandler.mark (net.slaves i).interfaceMac
      < (net.slaves i).authHandler.nextNumber (net.slaves i).interfaceMac ∨
    (net.slaves i).authHandler.nextNumber (net.slaves i).interfaceMac = 2 ^ 64 - 1

theorem Initial.marksBehind {masterMac : MacAddr} {secret : Secret} {net : Network ι}
    (h : net.Initial masterMac secret) : net.MarksBehind := by
  obtain ⟨manager, hmaster⟩ := h.master
  intro i
  left
  rw [hmaster, DiscoveryMaster.new, DiscoveryAuthHandler.mark_addNewDevice,
    DiscoveryAuthHandler.nextNumber, h.contexts i]
  exact Nat.zero_lt_one

variable [DecidableEq ι]

/-- The master's mark for an address only changes to the number of a message received from
there. -/
theorem masterMark_step {masterMac : MacAddr} {net net' : Network ι} {event : NetworkEvent ι}
    (hmaster : net.master.interfaceMac = some masterMac)
    (hstep : net.step blake3 event = some net') (mac : MacAddr) :
    net'.master.authHandler.mark mac = net.master.authHandler.mark mac ∨
    ∃ message ∈ delivered event, message.source = mac ∧
      net'.master.authHandler.mark mac = message.parsed.sequenceNumber.toNat := by
  cases event with
  | call call transmitted =>
    -- sending a request raises no mark
    obtain ⟨-, ⟨-, rfl⟩ | ⟨-, rfl⟩⟩ := step_call blake3 hmaster hstep
    · exact .inl rfl
    · exact .inl (DiscoveryMaster.mark_afterRequest _ _ _ _ _)
  | masterReceive frame =>
    rcases step_masterReceive blake3 hstep with
      ⟨-, rfl⟩ | ⟨_, _, _, message, -, hmessage, -, -, rfl⟩ |
        ⟨call, _, message, -, hmessage, hanswers, -, -, rfl⟩
    · exact .inl rfl
    -- an answer to a discovery raises the mark of its source
    · by_cases hmac : mac = message.source
      · subst hmac
        exact .inr ⟨message, hmessage, rfl, DiscoveryAuthHandler.mark_raiseMark _ _ _⟩
      · exact .inl (DiscoveryAuthHandler.mark_raiseMark_ne hmac)
    -- an answer to a call raises the mark of the target, which is its source
    · by_cases hmac : mac = call.targetMac
      · subst hmac
        exact .inr ⟨message, hmessage, hanswers.1, DiscoveryAuthHandler.mark_raiseMark _ _ _⟩
      · exact .inl (DiscoveryAuthHandler.mark_raiseMark_ne hmac)
  | clearDiscoveredDevices =>
    simp only [step] at hstep
    split at hstep <;> cases hstep
    exact .inl rfl
  | slaveReceive i frame hw =>
    -- slaves do not touch the master
    rcases step_slaveReceive blake3 hstep with ⟨-, rfl⟩ | ⟨message, -, -, rfl⟩
    · exact .inl rfl
    · exact .inl rfl
  | masterTimeout | masterSetState | startListener | checkState | slaveSetState =>
    left
    simp only [step] at hstep
    repeat' split at hstep
    all_goals cases hstep
    all_goals rfl

/-- No step takes a slave's counter back. -/
theorem nextNumber_step {masterMac : MacAddr} {net net' : Network ι} {event : NetworkEvent ι}
    (hmaster : net.master.interfaceMac = some masterMac)
    (hstep : net.step blake3 event = some net') (i : ι) :
    (net.slaves i).authHandler.nextNumber (net.slaves i).interfaceMac ≤
      (net'.slaves i).authHandler.nextNumber (net'.slaves i).interfaceMac := by
  rw [(records_step hmaster hstep i).1]
  rcases step_cases blake3 hmaster hstep with
    ⟨call, transmitted, -, -, rfl⟩ | ⟨j, frame, hw, message, -, -, -, rfl⟩ | hquiet
  · exact le_refl _
  · by_cases hj : i = j
    · subst hj
      rw [slaves_afterAnswer_self]
      exact SlaveNode.nextNumber_le_answer blake3 _ _ _
    · rw [slaves_afterAnswer_ne blake3 net j message hw hj]
  · rw [hquiet.authHandler i]

theorem marksBehind_step {masterMac : MacAddr} (net : Network ι) (event : NetworkEvent ι)
    (net' : Network ι) (h : Wellformed blake3 masterMac net ∧ net.MarksBehind)
    (hbenign : net.Benign event) (hstep : net.step blake3 event = some net') :
    Wellformed blake3 masterMac net' ∧ net'.MarksBehind := by
  obtain ⟨hwell, hmarks⟩ := h
  refine ⟨wellformed_step net event net' hwell hstep, fun i => ?_⟩
  have hle := nextNumber_step hwell.masterInterface hstep i
  have hmax := DiscoveryAuthHandler.nextNumber_le (net'.slaves i).authHandler
    (net'.slaves i).interfaceMac
  have haddress := (records_step hwell.masterInterface hstep i).1
  rcases masterMark_step hwell.masterInterface hstep (net'.slaves i).interfaceMac with
    hsame | ⟨message, hmessage, hsource, hmark⟩
  · rw [hsame, haddress]
    rw [haddress] at hle hmax
    rcases hmarks i with hlt | hsat
    · exact .inl (by omega)
    · exact .inr (by omega)
  -- the message is an earlier answer of the slave
  · obtain ⟨record, hrecord, frame, hframe, hparsed⟩ :=
      hwell.responded_of_source (hbenign message hmessage) (hsource.trans haddress)
    rw [hmark]
    rcases (hwell.history i).numbered record hrecord frame hframe message hparsed with hlt | hsat
    · exact .inl (by omega)
    · exact .inr (by omega)

theorem marksBehind_of_run {masterMac : MacAddr} {secret : Secret} {net net' : Network ι}
    (hinit : net.Initial masterMac secret) {events : List (NetworkEvent ι)}
    (hbenign : EveryStep (step blake3) Benign net events)
    (hrun : execute (step blake3) net events = some net') :
    Wellformed blake3 masterMac net' ∧ net'.MarksBehind :=
  execute_invariant_of_guarded marksBehind_step ⟨hinit.wellformed, hinit.marksBehind⟩ hbenign hrun

/-! ## Inside a window -/

/-- Until the window closes, the master stays in its loop, issues nothing, and at most takes
in discovery responses of its transaction. -/
theorem discovering_cases {masterMac : MacAddr} {net net' : Network ι} {event : NetworkEvent ι}
    {transactionId : UInt16} {newlyDiscovered : List DiscoveredDevice}
    (hmaster : net.master.interfaceMac = some masterMac)
    (hphase : net.phase = .discovering transactionId newlyDiscovered)
    (hopen : event ≠ .masterTimeout) (hstep : net.step blake3 event = some net') :
    net'.issued = net.issued ∧
    ((net'.phase = net.phase ∧ net'.master.authHandler = net.master.authHandler ∧
        net'.master.discoveredDevices = net.master.discoveredDevices) ∨
      (∃ message newlyDiscovered', message ∈ delivered event ∧
        AnswersDiscovery message transactionId ∧
        net'.phase = .discovering transactionId newlyDiscovered' ∧
        net'.master = net.master.afterDiscovery message)) := by
  cases event with
  | call call transmitted =>
    -- a window is open, so no call can begin
    obtain ⟨hbusy, -⟩ := step_call blake3 hmaster hstep
    rw [hphase] at hbusy
    cases hbusy
  | masterReceive frame =>
    rcases step_masterReceive blake3 hstep with
      ⟨-, rfl⟩ | ⟨tid, _, newly', message, hphase', hmessage, hanswers, -, rfl⟩ |
        ⟨_, _, _, hphase', -, -, -, -, rfl⟩
    · exact ⟨rfl, .inl ⟨rfl, rfl, rfl⟩⟩
    -- the answer belongs to the open window
    · rw [hphase] at hphase'
      cases hphase'
      exact ⟨rfl, .inr ⟨message, newly', hmessage, hanswers, rfl, rfl⟩⟩
    -- no other call waits while the window is open
    · rw [hphase] at hphase'
      cases hphase'
  | masterTimeout => exact absurd rfl hopen
  | clearDiscoveredDevices =>
    -- the cache cannot be cleared inside the window
    simp only [step, hphase, MasterPhase.busy, if_true] at hstep
    cases hstep
  | slaveReceive i frame hw =>
    rcases step_slaveReceive blake3 hstep with ⟨-, rfl⟩ | ⟨message, -, -, rfl⟩
    · exact ⟨rfl, .inl ⟨rfl, rfl, rfl⟩⟩
    · exact ⟨rfl, .inl ⟨rfl, rfl, rfl⟩⟩
  | masterSetState | startListener | checkState | slaveSetState =>
    refine ⟨?_, .inl ?_⟩ <;>
    · simp only [step] at hstep
      repeat' split at hstep
      all_goals cases hstep
      all_goals simp [withListener, withSlave]

/-- The phase and the requests in a window that stays open. -/
theorem discovering_of_run {masterMac : MacAddr} {net net' : Network ι}
    {events : List (NetworkEvent ι)} {transactionId : UInt16}
    (hwell : Wellformed blake3 masterMac net)
    (hphase : ∃ newlyDiscovered, net.phase = .discovering transactionId newlyDiscovered)
    (hopen : .masterTimeout ∉ events) (hrun : execute (step blake3) net events = some net') :
    (∃ newlyDiscovered, net'.phase = .discovering transactionId newlyDiscovered) ∧
      net'.issued = net.issued ∧
      ∀ mac, (net.master.discoveredDevices.lookup mac).isSome = true →
        (net'.master.discoveredDevices.lookup mac).isSome = true := by
  refine (execute_invariant_of_guarded (G := fun _ event => event ≠ .masterTimeout)
    (I := fun u => Wellformed blake3 masterMac u ∧
      (∃ newlyDiscovered, u.phase = .discovering transactionId newlyDiscovered) ∧
      u.issued = net.issued ∧
      ∀ mac, (net.master.discoveredDevices.lookup mac).isSome = true →
        (u.master.discoveredDevices.lookup mac).isSome = true)
    ?_ ⟨hwell, hphase, rfl, fun _ h => h⟩
    (EveryStep.of_forall_mem (ne_masterTimeout_of_notMem hopen)) hrun).2
  -- one step inside the window keeps it open and drops nobody from the cache
  rintro u event v ⟨huwell, ⟨newly, huphase⟩, huissued, hukeep⟩ hevent hstep
  obtain ⟨hissued, hrest⟩ := discovering_cases huwell.masterInterface huphase hevent hstep
  refine ⟨wellformed_step u event v huwell hstep, ?_, hissued.trans huissued, ?_⟩
  · rcases hrest with ⟨hsame, -, -⟩ | ⟨-, newly', -, -, hvphase, -⟩
    · exact ⟨newly, hsame.trans huphase⟩
    · exact ⟨newly', hvphase⟩
  · intro mac hmac
    rcases hrest with ⟨-, -, hsame⟩ | ⟨message, -, -, -, -, hmaster⟩
    · rw [hsame]
      exact hukeep mac hmac
    · rw [hmaster]
      exact DiscoveryMaster.isSome_lookup_afterDiscovery _ _ (hukeep mac hmac)

/-- What holds after slave `i` has answered the window's request with `message`: the slave
answers nothing more, and the response is still new to the master or has arrived. -/
structure AwaitingResponse (masterMac : MacAddr) (i : ι) (transactionId : UInt16)
    (message : SdcpMessage) (net : Network ι) : Prop where
  phase : ∃ newlyDiscovered, net.phase = .discovering transactionId newlyDiscovered
  responded : ∃ record, net.RespondedWith i record message
  answers : AnswersDiscovery message transactionId
  masterMark : ∀ request ∈ net.issued, request.message.parsed.sequenceNumber.toNat
    ≤ (net.slaves i).authHandler.mark masterMac
  last : ∀ record earlier, net.RespondedWith i record earlier →
    earlier.parsed.sequenceNumber.toNat ≤ message.parsed.sequenceNumber.toNat
  discovered : net.master.authHandler.mark (net.slaves i).interfaceMac
      < message.parsed.sequenceNumber.toNat ∨
    (net.master.discoveredDevices.lookup (net.slaves i).interfaceMac).isSome = true

/-- A slave whose mark for the master has reached every issued number answers nothing. -/
theorem awaitingResponse_slave {masterMac : MacAddr} {i : ι} {transactionId : UInt16}
    {message : SdcpMessage} {net net' : Network ι} {event : NetworkEvent ι}
    (hwell : Wellformed blake3 masterMac net) (hbenign : net.Benign event)
    (hawait : net.AwaitingResponse masterMac i transactionId message)
    (hissued : net'.issued = net.issued) (hstep : net.step blake3 event = some net') :
    (∀ request ∈ net'.issued, request.message.parsed.sequenceNumber.toNat
      ≤ (net'.slaves i).authHandler.mark masterMac) ∧
    ∀ record earlier, net'.RespondedWith i record earlier →
      earlier.parsed.sequenceNumber.toNat ≤ message.parsed.sequenceNumber.toNat := by
  rw [hissued]
  rcases step_cases blake3 hwell.masterInterface hstep with
    ⟨call, transmitted, -, -, rfl⟩ | ⟨j, frame, hw, accepted, rfl, hframe, haccept, rfl⟩ | hquiet
  -- a call touches no slave and no record
  · exact ⟨hawait.masterMark, fun record earlier h => hawait.last record earlier ⟨h.1, h.2⟩⟩
  · by_cases hj : i = j
    -- a packet for another slave
    swap
    · rw [slaves_afterAnswer_ne blake3 net j accepted hw hj]
      refine ⟨hawait.masterMark, fun record earlier h => hawait.last record earlier ⟨?_, h.2⟩⟩
      have hprocessed := h.1
      rwa [processed_afterAnswer_ne blake3 net j accepted hw hj] at hprocessed
    subst hj
    -- a packet for this slave is accepted only above its mark
    have hfresh := (DiscoveryAuthHandler.fresh_iff.mp haccept.1).2
    refine ⟨?_, ?_⟩
    · intro request hrequest
      have hle := hawait.masterMark request hrequest
      rw [slaves_afterAnswer_self, SlaveNode.answer, SlaveNode.mark_perform,
        SlaveNode.authHandler_raiseMark]
      by_cases hsource : masterMac = accepted.source
      · subst hsource
        rw [DiscoveryAuthHandler.mark_raiseMark]
        omega
      · rwa [DiscoveryAuthHandler.mark_raiseMark_ne hsource]
    · rintro record earlier ⟨hprocessed, sentFrame, hsent, hparsed⟩
      rw [processed_afterAnswer_self] at hprocessed
      rcases List.mem_append.mp hprocessed with hold | hnew
      · exact hawait.last record earlier ⟨hold, sentFrame, hsent, hparsed⟩
      -- only a request is answered, and every request lies at or below the mark
      · exfalso
        rw [List.mem_singleton.mp hnew] at hsent
        obtain ⟨opCode, tlv, hresponse, -, -⟩ := SlaveNode.sendTo_mem_answer blake3 hsent
        have hreq : accepted.parsed.header.opCode.IsRequest :=
          (SlaveNode.responseTo_of_response blake3 hresponse).isRequest
        obtain ⟨request, hrequest, heq⟩ :=
          hwell.issued_of_sent (hbenign accepted hframe) (.inl hreq)
        obtain ⟨k, hk⟩ := List.mem_iff_getElem?.mp hrequest
        have hle := hawait.masterMark request hrequest
        have hmaster := (hwell.issued k request hk).source
        rw [heq] at hle hmaster
        rw [hmaster] at hfresh
        omega
  -- quiet steps
  · refine ⟨?_, ?_⟩
    · rw [hquiet.authHandler i]
      exact hawait.masterMark
    · intro record earlier h
      exact hawait.last record earlier ⟨hquiet.processed ▸ h.1, h.2⟩

theorem awaitingResponse_step {masterMac : MacAddr} {i : ι} {transactionId : UInt16}
    {message : SdcpMessage} (net : Network ι) (event : NetworkEvent ι) (net' : Network ι)
    (h : Wellformed blake3 masterMac net ∧
      net.AwaitingResponse masterMac i transactionId message)
    (hguard : net.Benign event ∧ event ≠ .masterTimeout)
    (hstep : net.step blake3 event = some net') :
    Wellformed blake3 masterMac net' ∧
      net'.AwaitingResponse masterMac i transactionId message := by
  obtain ⟨hwell, hawait⟩ := h
  obtain ⟨hbenign, hopen⟩ := hguard
  refine ⟨wellformed_step net event net' hwell hstep, ?_⟩
  obtain ⟨newly, hphase⟩ := hawait.phase
  obtain ⟨hissued, hrest⟩ := discovering_cases hwell.masterInterface hphase hopen hstep
  obtain ⟨hmark, hlast⟩ := awaitingResponse_slave hwell hbenign hawait hissued hstep
  obtain ⟨record, hresponded⟩ := hawait.responded
  have hkeep := hresponded.mono (records_step hwell.masterInterface hstep i).2
  refine ⟨?_, ⟨record, hkeep⟩, hawait.answers, hmark, hlast, ?_⟩
  -- the window stays open
  · rcases hrest with ⟨hsame, -, -⟩ | ⟨-, newly', -, -, hphase', -⟩
    · exact ⟨newly, hsame.trans hphase⟩
    · exact ⟨newly', hphase'⟩
  -- the slave is in the cache, or its response can still be taken in
  · rw [(records_step hwell.masterInterface hstep i).1]
    rcases hrest with ⟨-, hauth, hdevices⟩ | ⟨received, -, hreceived, hanswers, -, hmaster⟩
    · rw [hauth, hdevices]
      exact hawait.discovered
    · rw [hmaster]
      by_cases hsource : received.source = (net.slaves i).interfaceMac
      -- any response of the slave puts it into the cache
      · right
        obtain ⟨record, hresponse⟩ :=
          hwell.responded_of_source (hbenign received hreceived) hsource
        obtain ⟨device, hdevice, haddress⟩ := hwell.announced hresponse hanswers.1
        exact DiscoveryMaster.isSome_lookup_of_announced _ hdevice haddress
      -- a response of another slave raises another mark
      · rcases hawait.discovered with hlt | hsome
        · left
          rwa [DiscoveryMaster.afterDiscovery,
            DiscoveryAuthHandler.mark_raiseMark_ne (Ne.symm hsource)]
        · exact .inr (DiscoveryMaster.isSome_lookup_afterDiscovery _ _ hsome)

/-- The response, when it arrives in the window of a master that can take it in, is taken in
unless the slave has been discovered already. -/
theorem discovered_of_arrival {masterMac : MacAddr} {i : ι} {transactionId : UInt16}
    {message : SdcpMessage} {net net' : Network ι} (hwell : Wellformed blake3 masterMac net)
    (hawait : net.AwaitingResponse masterMac i transactionId message)
    (hknown : net.master.authHandler.hasDevice (net.slaves i).interfaceMac = true ∨
      message.parsed.sequenceNumber = 1)
    {frame : Frame} (hframe : Frame.sdcpMessage frame = some message)
    (hstep : net.step blake3 (.masterReceive frame) = some net') :
    (net'.master.discoveredDevices.lookup (net.slaves i).interfaceMac).isSome = true := by
  obtain ⟨newly, hphase⟩ := hawait.phase
  obtain ⟨record, hresponse⟩ := hawait.responded
  obtain ⟨-, -, -, hsource, -, -, hauth⟩ := hwell.response hresponse
  obtain ⟨device, hdevice, haddress⟩ := hwell.announced hresponse hawait.answers.1
  rcases step_masterReceive blake3 hstep with
    ⟨hno, rfl⟩ | ⟨_, _, _, received, -, hreceived, -, -, rfl⟩ | ⟨_, _, _, hphase', -, -, -, -, -⟩
  -- refused although it can be taken in: then the slave is in the cache
  · rcases hawait.discovered with hlt | hsome
    swap
    · exact hsome
    exfalso
    refine hno _ _ message hphase hframe hawait.answers ⟨?_, hauth⟩
    rw [hsource]
    -- the response would have been fresh, or is admitted with number one
    by_cases hdev : net'.master.authHandler.hasDevice (net'.slaves i).interfaceMac = true
    · exact .inl (DiscoveryAuthHandler.fresh_iff.mpr ⟨hdev, hlt⟩)
    · refine .inr ⟨?_, hknown.resolve_left hdev⟩
      rwa [DiscoveryAuthHandler.hasDevice, Option.not_isSome_iff_eq_none] at hdev
  -- taken in: the slave is in the cache now
  · rw [hframe] at hreceived
    cases hreceived
    exact DiscoveryMaster.isSome_lookup_of_announced _ hdevice haddress
  · rw [hphase] at hphase'
    cases hphase'

/-- Right after the slave has answered the window's request, the window awaits the response. -/
theorem awaitingResponse_of_answer {masterMac : MacAddr} {i : ι} {transactionId : UInt16}
    {net net' : Network ι} (hwell : Wellformed blake3 masterMac net) (hmarks : net.MarksBehind)
    (hphase : ∃ newlyDiscovered, net.phase = .discovering transactionId newlyDiscovered)
    {earlier : List IssuedRequest} {request : IssuedRequest}
    (hissued : net.issued = earlier ++ [request]) (hcall : request.call = .discoverDevices)
    (hid : request.message.parsed.header.transactionId = transactionId)
    {frame response : Frame} {hw : HardwareResponse}
    (hframe : Frame.sdcpMessage frame = some request.message)
    (hstep : net.step blake3 (.slaveReceive i frame hw) = some net')
    (hwire : net'.wire = net.wire ++ [response])
    (hcounter : (net.slaves i).authHandler.nextNumber (net.slaves i).interfaceMac < 2 ^ 64 - 1) :
    ∃ message, Frame.sdcpMessage response = some message ∧
      net'.AwaitingResponse masterMac i transactionId message := by
  have hwell' := wellformed_step net _ net' hwell hstep
  have hrequestAt : request.IssuedAs masterMac earlier.length :=
    hwell.issued _ request (by rw [hissued, List.getElem?_concat_length])
  rcases step_slaveReceive blake3 hstep with ⟨-, rfl⟩ | ⟨message, hmessage, haccept, rfl⟩
  -- no response was sent
  · simp [withListener] at hwire
  rw [hframe] at hmessage
  cases hmessage
  have hsent : sentFrames ((net.slaves i).answer blake3 request.message hw).2 = [response] :=
    List.append_cancel_left hwire
  have hmem : SlaveEffect.sendTo response ∈
      ((net.slaves i).answer blake3 request.message hw).2 := by
    rw [← mem_sentFrames, hsent]
    exact List.mem_singleton_self _
  -- the response carries the slave's next number
  obtain ⟨opCode, tlv, -, hresponse, -⟩ := SlaveNode.sendTo_mem_answer blake3 hmem
  obtain ⟨seq, hseq, hparsed⟩ := SlaveNode.sdcpMessage_nextResponse blake3
    ((net.slaves i).raiseMark request.message.source request.message.parsed.sequenceNumber)
    request.message.source opCode request.message.parsed.header.transactionId tlv
  rw [← hresponse] at hparsed
  rw [SlaveNode.interfaceMac_raiseMark, SlaveNode.authHandler_raiseMark,
    DiscoveryAuthHandler.nextNumber_raiseMark] at hseq
  have hresponded : (net.afterAnswer blake3 i request.message hw).RespondedWith i
      ⟨request.message, ((net.slaves i).answer blake3 request.message hw).2⟩ _ :=
    ⟨by rw [processed_afterAnswer_self]; exact List.mem_append_right _ (List.mem_singleton_self _),
      response, hmem, hparsed⟩
  refine ⟨_, hparsed, hphase, ⟨_, hresponded⟩, ?_, ?_, ?_, ?_⟩
  -- the response answers the request of this window
  · obtain ⟨opCode', tlv', hto, -, hheader, -, -⟩ := hwell'.response hresponded
    have hop : request.message.parsed.header.opCode = .discoverReq := by
      rw [hrequestAt.header, hcall]
      rfl
    refine ⟨?_, hid⟩
    rw [hheader]
    cases hto with
    | discover => rfl
    | getIp hother => rw [hop] at hother; cases hother
    | setIp hother => rw [hop] at hother; cases hother
  -- the request is the last one issued, and the slave's mark has reached it
  · intro other hother
    obtain ⟨k, hk⟩ := List.mem_iff_getElem?.mp hother
    have hlt : k < earlier.length + 1 := by
      obtain ⟨hlt, -⟩ := List.getElem?_eq_some_iff.mp hk
      have hlen : (net.afterAnswer blake3 i request.message hw).issued.length
          = earlier.length + 1 := by
        show net.issued.length = _
        rw [hissued, List.length_append, List.length_singleton]
      omega
    rw [(hwell'.issued k other hk).number, slaves_afterAnswer_self, SlaveNode.answer,
      SlaveNode.mark_perform, SlaveNode.authHandler_raiseMark, hrequestAt.source,
      DiscoveryAuthHandler.mark_raiseMark, hrequestAt.number]
    omega
  -- no earlier response of the slave has a larger number
  · rintro record old ⟨hprocessed, oldFrame, holdFrame, hold⟩
    show old.parsed.sequenceNumber.toNat ≤ seq.toNat
    rw [processed_afterAnswer_self] at hprocessed
    rcases List.mem_append.mp hprocessed with hbefore | hnew
    · rcases (hwell.history i).numbered record hbefore oldFrame holdFrame old hold with hlt | hsat
      · omega
      · omega
    · rw [List.mem_singleton.mp hnew, ← mem_sentFrames, hsent] at holdFrame
      rw [List.mem_singleton.mp holdFrame, hparsed] at hold
      cases hold
      exact le_refl _
  -- the master's mark lies behind the slave's counter
  · left
    rw [address_afterAnswer]
    show net.master.authHandler.mark _ < seq.toNat
    rcases hmarks i with hlt | hsat
    · omega
    · omega

/-! ## Whole runs -/

/-- **Discovery in a window**: after any benign history, let a `discover_devices` call's
request reach a slave, let the slave answer it and let the response reach the master before
the call returns. If the master then holds a context for the slave's address, or the response
is the slave's first, the slave is in the cache when the call returns. -/
theorem answered_slave_is_discovered {masterMac : MacAddr} {secret : Secret} {i : ι}
    {net start opened waiting answered arriving received closing net' : Network ι}
    (hinit : net.Initial masterMac secret)
    {history during₁ during₂ during₃ : List (NetworkEvent ι)}
    (hbenign : EveryStep (step blake3) Benign net history)
    (hhistory : execute (step blake3) net history = some start)
    (hcall : start.step blake3 (.call .discoverDevices true) = some opened)
    {request : IssuedRequest} (hrequest : opened.issued = start.issued ++ [request])
    (hbenign₁ : EveryStep (step blake3) Benign opened during₁)
    (hrun₁ : execute (step blake3) opened during₁ = some waiting)
    (hopen₁ : .masterTimeout ∉ during₁) {frame response : Frame} {hw : HardwareResponse}
    (hframe : Frame.sdcpMessage frame = some request.message)
    (hanswer : waiting.step blake3 (.slaveReceive i frame hw) = some answered)
    (hresponse : answered.wire = waiting.wire ++ [response])
    (hbenign₂ : EveryStep (step blake3) Benign answered during₂)
    (hrun₂ : execute (step blake3) answered during₂ = some arriving)
    (hopen₂ : .masterTimeout ∉ during₂)
    (harrival : arriving.step blake3 (.masterReceive response) = some received)
    (hrun₃ : execute (step blake3) received during₃ = some closing)
    (hopen₃ : .masterTimeout ∉ during₃)
    (hreturn : closing.step blake3 .masterTimeout = some net')
    (hcounter : (waiting.slaves i).authHandler.nextNumber (net.slaves i).interfaceMac < 2 ^ 64 - 1)
    (hknown : arriving.master.authHandler.hasDevice (net.slaves i).interfaceMac = true ∨
      ∃ message, Frame.sdcpMessage response = some message ∧ message.parsed.sequenceNumber = 1) :
    (∃ newlyDiscovered, net'.phase = .returned .discoverDevices (.discovered newlyDiscovered)) ∧
      (net'.master.discoveredDevices.lookup (net.slaves i).interfaceMac).isSome = true := by
  obtain ⟨hwellStart, hmarksStart⟩ := marksBehind_of_run hinit hbenign hhistory
  obtain ⟨hwellOpened, hmarksOpened⟩ :=
    marksBehind_step start _ opened ⟨hwellStart, hmarksStart⟩ (by rintro _ ⟨⟩) hcall
  -- the call has opened its window
  obtain ⟨-, ⟨-, rfl⟩ | ⟨-, rfl⟩⟩ := step_call blake3 hwellStart.masterInterface hcall
  · simp at hrequest
  have hrequest' : request = ⟨.discoverDevices,
      MasterCall.requestMessage blake3 .discoverDevices start.master masterMac⟩ :=
    (List.singleton_inj.mp (List.append_cancel_left hrequest)).symm
  have hphase : ∃ newlyDiscovered, (start.afterCall blake3 masterMac .discoverDevices true).phase
      = .discovering start.master.transactionCounter newlyDiscovered := ⟨[], rfl⟩
  obtain ⟨hphase₁, hissued₁, -⟩ := discovering_of_run hwellOpened hphase hopen₁ hrun₁
  obtain ⟨hwellWaiting, hmarksWaiting⟩ :=
    execute_invariant_of_guarded marksBehind_step ⟨hwellOpened, hmarksOpened⟩ hbenign₁ hrun₁
  have haddress : (waiting.slaves i).interfaceMac = (net.slaves i).interfaceMac :=
    (address_of_run hwellOpened hrun₁ i).trans (address_of_run hinit.wellformed hhistory i)
  -- the slave answers
  obtain ⟨message, hmessage, hawait⟩ := awaitingResponse_of_answer hwellWaiting hmarksWaiting
    hphase₁ (hissued₁.trans hrequest) (by rw [hrequest']) (by rw [hrequest']; rfl) hframe hanswer
    hresponse (by rwa [haddress])
  have hwellAnswered := wellformed_step waiting _ answered hwellWaiting hanswer
  have haddress₁ : (answered.slaves i).interfaceMac = (net.slaves i).interfaceMac :=
    (records_step hwellWaiting.masterInterface hanswer i).1.trans haddress
  -- the response arrives
  obtain ⟨hwellArriving, hawaitArriving⟩ :=
    execute_invariant_of_guarded awaitingResponse_step ⟨hwellAnswered, hawait⟩
      (hbenign₂.and (EveryStep.of_forall_mem (ne_masterTimeout_of_notMem hopen₂))) hrun₂
  have haddress₂ : (arriving.slaves i).interfaceMac = (net.slaves i).interfaceMac :=
    (address_of_run hwellAnswered hrun₂ i).trans haddress₁
  have hknown' : arriving.master.authHandler.hasDevice (arriving.slaves i).interfaceMac = true ∨
      message.parsed.sequenceNumber = 1 := by
    rw [haddress₂]
    refine hknown.imp_right ?_
    rintro ⟨m, hm, hone⟩
    rw [hmessage] at hm
    cases hm
    exact hone
  have hin := discovered_of_arrival hwellArriving hawaitArriving hknown' hmessage harrival
  rw [haddress₂] at hin
  -- the call returns
  have hphaseReceived : ∃ newlyDiscovered,
      received.phase = .discovering start.master.transactionCounter newlyDiscovered := by
    obtain ⟨newly, hphase₂⟩ := hawaitArriving.phase
    obtain ⟨-, ⟨hsame, -, -⟩ | ⟨-, newly', -, -, hphase', -⟩⟩ := discovering_cases
      hwellArriving.masterInterface hphase₂ (by rintro ⟨⟩) harrival
    · exact ⟨newly, hsame.trans hphase₂⟩
    · exact ⟨newly', hphase'⟩
  obtain ⟨⟨newly, hphase₃⟩, -, hkeep⟩ := discovering_of_run
    (wellformed_step arriving _ received hwellArriving harrival) hphaseReceived hopen₃ hrun₃
  simp only [step, hphase₃, MasterPhase.timeout, Option.some.injEq] at hreturn
  subst hreturn
  exact ⟨⟨newly, rfl⟩, hkeep _ hin⟩

/-! ### The second window -/

/-- The first DiscoverReq is lost: the window closes without an answer. -/
def lostFirstRequest : List (NetworkEvent Unit) := [.call .discoverDevices true, .masterTimeout]

/-- The frame of the second DiscoverReq. -/
def secondDiscoverRequest : Frame :=
  DiscoveryMaster.requestFrame checksumHash
    (segmentMaster.authHandler.afterSend ⟨0xAA, 0xBB, 0xCC, 0xDD, 0xEE, 1⟩)
    ⟨0xAA, 0xBB, 0xCC, 0xDD, 0xEE, 1⟩ broadcastMac .discoverReq 2 none

/-- The response of a slave that has sent nothing before. -/
def firstResponseToSecondRequest : Frame :=
  (pairNetwork.slaves ()).nextResponse checksumHash ⟨0xAA, 0xBB, 0xCC, 0xDD, 0xEE, 1⟩ .discoverRes 2
    (.deviceInfo 0 0 0)

/-- After a lost request the slave's first response arrives in the second window. -/
theorem answered_slave_is_discovered_first_response :
    ∃ net' : Network Unit, execute (step checksumHash) pairNetwork
        (lostFirstRequest ++ [.call .discoverDevices true, .checkState (),
          .slaveReceive () secondDiscoverRequest workingHardware,
          .masterReceive firstResponseToSecondRequest, .masterTimeout]) = some net' ∧
      (net'.master.discoveredDevices.lookup
        (pairNetwork.slaves ()).interfaceMac).isSome = true := by
  -- after the lost request, the run step by step
  obtain ⟨start, opened, waiting, answered, received, net', request, hhistory, hcall, hcheck,
      hanswer, harrival, hreturn, hrequest, hframe, hwire, hcounter, hrun⟩ :
      ∃ (start opened waiting answered received net' : Network Unit) (request : IssuedRequest),
      execute (step checksumHash) pairNetwork lostFirstRequest = some start ∧
      start.step checksumHash (.call .discoverDevices true) = some opened ∧
      execute (step checksumHash) opened [.checkState ()] = some waiting ∧
      waiting.step checksumHash (.slaveReceive () secondDiscoverRequest workingHardware)
        = some answered ∧
      answered.step checksumHash (.masterReceive firstResponseToSecondRequest) = some received ∧
      received.step checksumHash .masterTimeout = some net' ∧
      opened.issued = start.issued ++ [request] ∧
      Frame.sdcpMessage secondDiscoverRequest = some request.message ∧
      answered.wire = waiting.wire ++ [firstResponseToSecondRequest] ∧
      (waiting.slaves ()).authHandler.nextNumber (pairNetwork.slaves ()).interfaceMac
        < 2 ^ 64 - 1 ∧
      execute (step checksumHash) pairNetwork
        (lostFirstRequest ++ [.call .discoverDevices true, .checkState (),
          .slaveReceive () secondDiscoverRequest workingHardware,
          .masterReceive firstResponseToSecondRequest, .masterTimeout]) = some net' :=
    ⟨_, _, _, _, _, _, _, rfl, rfl, rfl, rfl, rfl, rfl, rfl, by decide +kernel,
      by decide +kernel, by decide +kernel, rfl⟩
  refine ⟨net', hrun, ?_⟩
  exact (@answered_slave_is_discovered Unit checksumHash _ ⟨0xAA, 0xBB, 0xCC, 0xDD, 0xEE, 1⟩
    zeroSecret () pairNetwork start opened waiting answered answered received received net'
    initial_pairNetwork lostFirstRequest [.checkState ()] [] [] (by decide +kernel) hhistory hcall
    request hrequest ⟨by rintro _ ⟨⟩, fun _ _ => trivial⟩ hcheck (by simp) secondDiscoverRequest
    firstResponseToSecondRequest workingHardware hframe hanswer hwire trivial rfl (by simp)
    harrival rfl (by simp) hreturn hcounter (.inr ⟨_, rfl, by decide +kernel⟩)).2

/-- The first response is lost: the window closes without a delivery. -/
def lostFirstResponse : List (NetworkEvent Unit) :=
  [.call .discoverDevices true, .checkState (),
    .slaveReceive () firstDiscoverRequest workingHardware, .masterTimeout]

/-- The slave's response to the second request carries number two then. -/
def secondDiscoverResponse : Frame :=
  DiscoveryAuthHandler.nextFrame checksumHash
    ((pairNetwork.slaves ()).authHandler.afterSend ⟨0x11, 0x22, 0x33, 0x44, 0x55, 0x66⟩)
    ⟨0x11, 0x22, 0x33, 0x44, 0x55, 0x66⟩ ⟨0xAA, 0xBB, 0xCC, 0xDD, 0xEE, 1⟩ (.new .discoverRes 2)
    (Tlv.deviceInfo 0 0 0).bytes

/-- After the first response was lost, the slave answers the second call and the response
arrives unaltered in its window, yet the call returns without the slave. -/
theorem answered_slave_is_not_discovered :
    ∃ (net start opened waiting answered received net' : Network Unit)
        (history : List (NetworkEvent Unit)) (request : IssuedRequest) (frame response : Frame),
      net.Initial ⟨0xAA, 0xBB, 0xCC, 0xDD, 0xEE, 1⟩ zeroSecret ∧
      (net.slaves ()).authHandler.hasDevice ⟨0xAA, 0xBB, 0xCC, 0xDD, 0xEE, 1⟩ = true ∧
      EveryStep (step checksumHash) Benign net history ∧
      execute (step checksumHash) net history = some start ∧
      start.step checksumHash (.call .discoverDevices true) = some opened ∧
      opened.issued = start.issued ++ [request] ∧
      opened.step checksumHash (.checkState ()) = some waiting ∧
      Frame.sdcpMessage frame = some request.message ∧
      waiting.step checksumHash (.slaveReceive () frame workingHardware) = some answered ∧
      answered.wire = waiting.wire ++ [response] ∧
      answered.step checksumHash (.masterReceive response) = some received ∧
      received.step checksumHash .masterTimeout = some net' ∧
      net'.phase = .returned .discoverDevices (.discovered []) ∧
      net'.master.discoveredDevices.lookup (net.slaves ()).interfaceMac = none :=
  ⟨pairNetwork, _, _, _, _, _, _, lostFirstResponse, _, secondDiscoverRequest,
    secondDiscoverResponse, initial_pairNetwork, rfl, by decide +kernel, rfl, rfl, rfl, rfl,
    by decide +kernel, rfl, by decide +kernel, rfl, rfl, by decide +kernel, by decide +kernel⟩

end Network

end TsnFieldbus
