import TsnFieldbus.Slave.DiscoveryHistory

/-!
# Which Requests Are Answered

`handle_packet` has three handlers, each with its own early returns.

- `sentFrames_handlePacket`: the frames an authenticated message is answered with.
- `answeredOnce_iff`: every authenticated request gets exactly one response, except a
  SetIpReq whose payload holds no configuration.
-/

namespace TsnFieldbus

theorem sentFrames_append (effects later : List SlaveEffect) :
    sentFrames (effects ++ later) = sentFrames effects ++ sentFrames later :=
  List.filterMap_append ..

/-- The operation code of the response to a request. -/
def SdcpOpCode.response : SdcpOpCode → Option SdcpOpCode
  | .discoverReq => some .discoverRes
  | .setIpReq => some .setIpRes
  | .getIpReq => some .getIpRes
  | _ => none

theorem SdcpOpCode.isRequest_iff {opCode : SdcpOpCode} :
    opCode.IsRequest ↔ opCode.response.isSome = true := by
  cases opCode <;> decide

/-- The frame is addressed to `targetMac`, with the response code of the request's operation
code and the request's transaction id. -/
structure RespondsTo (frame : Frame) (request : SdcpHeader) (targetMac : MacAddr) : Prop where
  destination : ∃ eth, EthernetPacket.new frame = some eth ∧ eth.getDestination = targetMac
  message : ∃ response, Frame.sdcpMessage frame = some response ∧
    request.opCode.response = some response.parsed.header.opCode ∧
    response.parsed.header.transactionId = request.transactionId

namespace SlaveNode

variable (blake3 : KeyedHash)

/-- The handlers send nothing before their response. -/
theorem sentFrames_requestAction (node : SlaveNode) (parsed : ParsedSdcpPayload)
    (hw : HardwareResponse) : sentFrames (node.requestAction parsed hw).effects = [] := by
  rw [List.eq_nil_iff_forall_not_mem]
  intro frame hmem
  exact sendTo_notMem_requestAction node parsed hw frame (mem_sentFrames.mp hmem)

/-- An authenticated message is answered with the response of its action, if it has one. -/
theorem sentFrames_handlePacket {node : SlaveNode} {parsed : ParsedSdcpPayload}
    {sourceMac : MacAddr} (h : node.Accepts blake3 parsed sourceMac) (hw : HardwareResponse) :
    sentFrames (node.handlePacket blake3 parsed sourceMac hw).2 =
      ((node.requestAction parsed hw).response.map fun response =>
        (node.raiseMark sourceMac parsed.sequenceNumber).nextResponse blake3 sourceMac
          response.1 parsed.header.transactionId response.2).toList := by
  rw [handlePacket_accepted blake3 h hw]
  unfold perform
  cases hresponse : (node.requestAction parsed hw).response with
  | none => exact sentFrames_requestAction node parsed hw
  | some response =>
    simp only [sentFrames_append, sentFrames_requestAction]
    rfl

/-- The response frame of a request's operation code responds to the request. -/
theorem respondsTo_nextResponse (node : SlaveNode) (request : SdcpHeader) (targetMac : MacAddr)
    {opCode : SdcpOpCode} (hop : request.opCode.response = some opCode) (tlv : Tlv) :
    RespondsTo (node.nextResponse blake3 targetMac opCode request.transactionId tlv) request
      targetMac := by
  obtain ⟨eth, hnew, hdestination, -⟩ := EthernetPacket.new_ethernetFrame targetMac
    node.interfaceMac ethertypeSdcp _
  obtain ⟨seq, -, hmessage⟩ := sdcpMessage_nextResponse blake3 node targetMac opCode
    request.transactionId tlv
  exact ⟨⟨eth, hnew, hdestination⟩, ⟨_, hmessage, hop, rfl⟩⟩

/-- An action answers under the response code of the request. -/
theorem response_opCode {node : SlaveNode} {parsed : ParsedSdcpPayload} {hw : HardwareResponse}
    {response : SdcpOpCode × Tlv} (h : (node.requestAction parsed hw).response = some response) :
    parsed.header.opCode.response = some response.1 := by
  obtain ⟨opCode, tlv⟩ := response
  rcases (requestAction_response h).2 with ⟨hreq, hres, -⟩ | ⟨hreq, hres⟩ | ⟨hreq, hres⟩ <;>
    rw [hreq, hres] <;> rfl

/-- Only a SetIpReq without a configuration has an action without a response. -/
theorem response_eq_none_iff {node : SlaveNode} {parsed : ParsedSdcpPayload}
    {hw : HardwareResponse} (hrequest : parsed.header.opCode.IsRequest) :
    (node.requestAction parsed hw).response = none ↔
      parsed.header.opCode = .setIpReq ∧ requestedConfig parsed.tlvPayload = none := by
  unfold requestAction
  rcases hrequest with hop | hop | hop
  · simp [hop]
  · simp [hop]
  · simp only [hop, true_and]
    cases hconfig : requestedConfig parsed.tlvPayload with
    | none => simp
    | some config =>
      simp only [reduceCtorEq, iff_false, setIpAction]
      split <;> simp

/-- The definite answer: an authenticated request causes exactly one frame, which responds to
it, and any other message causes none. -/
structure AnsweredOnce (node : SlaveNode) (parsed : ParsedSdcpPayload) (sourceMac : MacAddr)
    (hw : HardwareResponse) : Prop where
  request : node.Accepts blake3 parsed sourceMac → parsed.header.opCode.IsRequest →
    ∃ frame, sentFrames (node.handlePacket blake3 parsed sourceMac hw).2 = [frame] ∧
      RespondsTo frame parsed.header sourceMac
  other : ¬ (node.Accepts blake3 parsed sourceMac ∧ parsed.header.opCode.IsRequest) →
    sentFrames (node.handlePacket blake3 parsed sourceMac hw).2 = []

/-- Messages that are not authentic, or are not requests, cause no frame. -/
theorem sentFrames_eq_nil {node : SlaveNode} {parsed : ParsedSdcpPayload} {sourceMac : MacAddr}
    (h : ¬ (node.Accepts blake3 parsed sourceMac ∧ parsed.header.opCode.IsRequest))
    (hw : HardwareResponse) :
    sentFrames (node.handlePacket blake3 parsed sourceMac hw).2 = [] := by
  by_cases haccepts : node.Accepts blake3 parsed sourceMac
  · rw [sentFrames_handlePacket blake3 haccepts hw]
    cases hresponse : (node.requestAction parsed hw).response with
    | none => rfl
    | some response =>
      -- a response would make the message a request
      refine absurd ⟨haccepts, SdcpOpCode.isRequest_iff.mpr ?_⟩ h
      rw [response_opCode hresponse]
      rfl
  · rw [handlePacket_rejected blake3 haccepts hw]
    rfl

/-- **When a message gets its definite answer**: unless it is an authenticated SetIpReq whose
payload is empty, cut short or of another type. Such a request is dropped without a word. -/
theorem answeredOnce_iff (node : SlaveNode) (parsed : ParsedSdcpPayload) (sourceMac : MacAddr)
    (hw : HardwareResponse) :
    node.AnsweredOnce blake3 parsed sourceMac hw ↔
      ¬ (node.Accepts blake3 parsed sourceMac ∧ parsed.header.opCode = .setIpReq ∧
        requestedConfig parsed.tlvPayload = none) := by
  constructor
  · rintro hanswered ⟨haccepts, hop, hconfig⟩
    have hrequest : parsed.header.opCode.IsRequest := .inr (.inr hop)
    obtain ⟨frame, hsent, -⟩ := hanswered.request haccepts hrequest
    -- a SetIp request that cannot be read gets no response
    have hnone : (node.requestAction parsed hw).response = none :=
      (response_eq_none_iff hrequest).mpr ⟨hop, hconfig⟩
    rw [sentFrames_handlePacket blake3 haccepts hw, hnone] at hsent
    cases hsent
  · intro hcondition
    refine ⟨?_, fun hother => sentFrames_eq_nil blake3 hother hw⟩
    intro haccepts hrequest
    rw [sentFrames_handlePacket blake3 haccepts hw]
    cases hresponse : (node.requestAction parsed hw).response with
    | none => exact absurd ⟨haccepts, (response_eq_none_iff hrequest).mp hresponse⟩ hcondition
    | some response =>
      refine ⟨_, rfl, ?_⟩
      exact respondsTo_nextResponse blake3 _ _ _ (response_opCode hresponse) _

/-- A SetIpReq of a trusted master with an empty payload. -/
def emptySetIpRequest : ParsedSdcpPayload :=
  { header := .new .setIpReq 1
    tlvPayload := []
    sequenceNumber := 1
    authTag := tagOf checksumHash zeroSecret (signedBytes (.new .setIpReq 1) [] 1) }

/-- A slave that trusts the master. -/
def trustingSlave : SlaveNode :=
  { interfaceMac := ⟨0x11, 0x22, 0x33, 0x44, 0x55, 0x66⟩
    stateManager := ⟨.discoverySync⟩
    deviceInfo := defaultDeviceInfo
    authHandler := (DiscoveryAuthHandler.new zeroSecret).addNewDevice
      ⟨0xAA, 0xBB, 0xCC, 0xDD, 0xEE, 1⟩ }

/-- The slave has accepted the request and sends nothing. -/
theorem empty_setIp_request_unanswered :
    trustingSlave.Accepts checksumHash emptySetIpRequest ⟨0xAA, 0xBB, 0xCC, 0xDD, 0xEE, 1⟩ ∧
    ∀ hw, (trustingSlave.handlePacket checksumHash emptySetIpRequest
        ⟨0xAA, 0xBB, 0xCC, 0xDD, 0xEE, 1⟩ hw).2 = [] ∧
      ¬ trustingSlave.AnsweredOnce checksumHash emptySetIpRequest
        ⟨0xAA, 0xBB, 0xCC, 0xDD, 0xEE, 1⟩ hw := by
  have haccepts : trustingSlave.Accepts checksumHash emptySetIpRequest
      ⟨0xAA, 0xBB, 0xCC, 0xDD, 0xEE, 1⟩ := by decide
  refine ⟨haccepts, fun hw => ?_⟩
  have hsilent : (trustingSlave.handlePacket checksumHash emptySetIpRequest
      ⟨0xAA, 0xBB, 0xCC, 0xDD, 0xEE, 1⟩ hw).2 = [] := by
    rw [handlePacket_accepted checksumHash haccepts hw]
    rfl
  refine ⟨hsilent, fun hanswered => ?_⟩
  obtain ⟨frame, hsent, -⟩ := hanswered.request haccepts (.inr (.inr rfl))
  rw [hsilent] at hsent
  cases hsent

end SlaveNode

end TsnFieldbus
