import TsnFieldbus.Protocol.DiscoveredIdentities
import TsnFieldbus.Protocol.StreamReplay
import TsnFieldbus.Slave.L2Handler

/-!
# Ethernet Padding

A sender's network card fills a frame up with zeros to 60 bytes. Both parsers look for the
security footer in the last 16 bytes of what they receive, so the fill becomes part of the
footer. `handle_input_packet` tolerates a longer payload, but it only sees the payload after
the footer has been split off and the tag has been checked.

- `padding_harmless_iff_minimum_size`: a frame that its receiver accepts is received in the
  same way after padding exactly when there was nothing to pad.
- `acceptedMessage_padToMinimum_short`, `receiveL2Frame_padToMinimum_short`: up to 44 bytes the
  padded frame has the sequence number zero and is refused whatever the hash does.
- `padding_changes_reception`: a DiscoverReq and a one-byte stream frame that are lost so.
-/

namespace TsnFieldbus

/-! ## Padding -/

/-- Length of the smallest Ethernet frame, without its checksum. -/
abbrev minimumFrameSize : ℕ := 60

/-- The frame as a receiver gets it when the sender's side pads short frames. -/
def padToMinimum (frame : Frame) : Frame :=
  frame ++ List.replicate (minimumFrameSize - frame.length) 0

@[simp] theorem length_padToMinimum (frame : Frame) :
    (padToMinimum frame).length = max minimumFrameSize frame.length := by
  rw [padToMinimum, List.length_append, List.length_replicate]
  omega

/-- Long enough frames are left alone. -/
theorem padToMinimum_of_le {frame : Frame} (h : minimumFrameSize ≤ frame.length) :
    padToMinimum frame = frame := by
  rw [padToMinimum, Nat.sub_eq_zero_of_le h, List.replicate_zero, List.append_nil]

/-! ## SDCP messages -/

section Sdcp

variable (blake3 : KeyedHash)

namespace DiscoveryAuthHandler

/-- `validate_auth_tag` on a parsed message under its claimed source. -/
def validates (handler : DiscoveryAuthHandler) (message : SdcpMessage) : Bool :=
  (handler.validateAuthTag blake3 message.source message.parsed.header message.parsed.tlvPayload
    message.parsed.sequenceNumber message.parsed.authTag).1

/-- The tag validation of the master, which checks an unknown source with
`validate_discovery_response`. -/
def validatesResponse (handler : DiscoveryAuthHandler) (message : SdcpMessage) : Bool :=
  if handler.hasDevice message.source then handler.validates blake3 message
  else handler.validateDiscoveryResponse blake3 message.parsed.header message.parsed.tlvPayload
    message.parsed.sequenceNumber message.parsed.authTag

/-- Number zero is below every mark and is not the first number of a response. -/
theorem validatesResponse_zero (handler : DiscoveryAuthHandler) {message : SdcpMessage}
    (hzero : message.parsed.sequenceNumber = 0) :
    handler.validates blake3 message = false ∧
      handler.validatesResponse blake3 message = false := by
  have hstale : handler.validates blake3 message = false := by
    rw [Bool.eq_false_iff, validates, Ne, validateAuthTag_eq_true_iff, hzero]
    rintro ⟨⟨ctx, -, hlt⟩, -⟩
    exact UInt64.not_lt_zero hlt
  refine ⟨hstale, ?_⟩
  unfold validatesResponse
  split
  · exact hstale
  · rw [Bool.eq_false_iff, Ne, validateDiscoveryResponse_iff, hzero]
    rintro ⟨hone, -⟩
    cases hone

end DiscoveryAuthHandler

/-- The message a slave's parser and tag validation let through. -/
def SlaveNode.acceptedMessage (node : SlaveNode) (frame : Frame) : Option SdcpMessage :=
  (Frame.sdcpMessage frame).filter (node.authHandler.validates blake3)

/-- The message the master's parser and tag validation let through. -/
def DiscoveryMaster.acceptedMessage (master : DiscoveryMaster) (frame : Frame) :
    Option SdcpMessage :=
  (Frame.sdcpMessage frame).filter (master.authHandler.validatesResponse blake3)

/-- Padding keeps a message exactly when there is nothing to pad: the parsed TLV payload grows
with the frame. -/
theorem sdcpMessage_padToMinimum_iff {frame : Frame} {message : SdcpMessage}
    (h : Frame.sdcpMessage frame = some message) :
    Frame.sdcpMessage (padToMinimum frame) = some message ↔ minimumFrameSize ≤ frame.length := by
  constructor
  · intro hpadded
    have hlength := Frame.length_of_sdcpMessage hpadded
    rw [← Frame.length_of_sdcpMessage h, length_padToMinimum] at hlength
    omega
  · intro hle
    rw [padToMinimum_of_le hle, h]

/-- The same for what a tag validation lets through. -/
theorem filter_padToMinimum_iff {frame : Frame} {message : SdcpMessage}
    {validates : SdcpMessage → Bool}
    (h : (Frame.sdcpMessage frame).filter validates = some message) :
    (Frame.sdcpMessage (padToMinimum frame)).filter validates = some message ↔
      minimumFrameSize ≤ frame.length := by
  obtain ⟨hmessage, hvalid⟩ := Option.filter_eq_some_iff.mp h
  rw [Option.filter_eq_some_iff, sdcpMessage_padToMinimum_iff hmessage]
  exact and_iff_left hvalid

/-- A padded frame of at most 44 bytes has the number zero. -/
theorem sequenceNumber_padToMinimum_short {frame : Frame} (hshort : frame.length ≤ 44)
    {message : SdcpMessage} (h : Frame.sdcpMessage (padToMinimum frame) = some message)
    (hmin : 14 ≤ frame.length) : message.parsed.sequenceNumber = 0 := by
  obtain ⟨-, hparse⟩ := Frame.sdcpMessage_eq_some h
  rw [padToMinimum, List.drop_append_of_le_length hmin] at hparse
  have hzeros : securityFooterSize ≤ minimumFrameSize - frame.length := by
    rw [show securityFooterSize = 16 from rfl, show minimumFrameSize = 60 from rfl]
    omega
  exact sequenceNumber_of_parseSdcpPayload_zeros hzeros hparse

/-- Neither party accepts a padded frame that had at most 44 bytes, as every request without
TLV has. -/
theorem acceptedMessage_padToMinimum_short {frame : Frame} (hmin : 14 ≤ frame.length)
    (hshort : frame.length ≤ 44) (node : SlaveNode) (master : DiscoveryMaster) :
    node.acceptedMessage blake3 (padToMinimum frame) = none ∧
      master.acceptedMessage blake3 (padToMinimum frame) = none := by
  unfold SlaveNode.acceptedMessage DiscoveryMaster.acceptedMessage
  cases hmessage : Frame.sdcpMessage (padToMinimum frame) with
  | none => exact ⟨rfl, rfl⟩
  | some message =>
    have hzero := sequenceNumber_padToMinimum_short hshort hmessage hmin
    constructor
    · simp [(node.authHandler.validatesResponse_zero blake3 hzero).1]
    · simp [(master.authHandler.validatesResponse_zero blake3 hzero).2]

/-! ### Built frames are short -/

/-- Every frame of `build_request_frame` stays below the minimum. -/
theorem length_of_buildRequestFrame {master : DiscoveryMaster} {destination : MacAddr}
    {opCode : SdcpOpCode} {transactionId : UInt16} {payloadTlv : Option Tlv}
    (htlv : ∀ tlv ∈ payloadTlv, BuiltTlv tlv) {frame : Frame}
    (hbuilt : (master.buildRequestFrame blake3 destination opCode transactionId payloadTlv).1
      = .ok frame) : frame.length < minimumFrameSize := by
  have hsize : minimumFrameSize = 60 := rfl
  cases hmac : master.interfaceMac with
  | none => simp [DiscoveryMaster.buildRequestFrame, hmac] at hbuilt
  | some mac =>
    rw [DiscoveryMaster.buildRequestFrame_eq blake3 hmac destination opCode transactionId htlv,
      Except.ok.injEq] at hbuilt
    rw [← hbuilt, DiscoveryMaster.requestFrame, DiscoveryAuthHandler.nextFrame, length_sdcpFrame]
    cases payloadTlv with
    | none =>
      rw [DiscoveryMaster.tlvBytes, List.length_nil]
      omega
    | some tlv =>
      obtain ⟨-, -, hvalue⟩ := (htlv tlv rfl).length_spec
      rw [DiscoveryMaster.tlvBytes, Tlv.writeTo_nil, Tlv.length_bytes]
      omega

/-- Every frame of `send_response` stays below the minimum. -/
theorem length_of_sendResponse {node : SlaveNode} {targetMac : MacAddr} {opCode : SdcpOpCode}
    {transactionId : UInt16} {tlv : Tlv} (htlv : BuiltTlv tlv) {frame : Frame}
    (hsent : (node.sendResponse blake3 targetMac opCode transactionId tlv).2 = [.sendTo frame]) :
    frame.length < minimumFrameSize := by
  rw [SlaveNode.sendResponse_eq blake3 node targetMac opCode transactionId htlv] at hsent
  cases hsent
  obtain ⟨-, -, hvalue⟩ := htlv.length_spec
  have hsize : minimumFrameSize = 60 := rfl
  rw [SlaveNode.nextResponse, DiscoveryAuthHandler.nextFrame, length_sdcpFrame, Tlv.length_bytes]
  omega

end Sdcp

/-! ## Stream frames -/

section Stream

variable {blake3 : KeyedHash}

/-- The stream message a frame carries. -/
def Frame.streamFrame (frame : Frame) : Option StreamFrame :=
  match parseL2Frame frame with
  | .error _ => none
  | .ok parsed => some
      { header := parsed.header
        payload := parsed.payload
        sequenceNumber := parsed.sequenceNumber
        authTag := parsed.authTag }

@[simp] theorem length_buildL2Frame (src dst : MacAddr) (vlan : UInt16) (header : L2Header)
    (payload : List UInt8) (footer : SecurityFooter) :
    (buildL2Frame src dst vlan header payload footer).length = 41 + payload.length := by
  simp [buildL2Frame_eq, l2HeaderSize, securityFooterSize, authTagSize]
  omega

/-- The padded frame of a stream parses with the same header, and its payload has grown by the
padding. -/
theorem parseL2Frame_padToMinimum (src dst : MacAddr) (vlan : UInt16) (header : L2Header)
    (payload : List UInt8) (footer : SecurityFooter) :
    ∃ longPayload lateFooter,
      splitPayloadAndFooter (payload ++ footer.bytes
        ++ List.replicate (minimumFrameSize - (41 + payload.length)) 0)
        = .ok (longPayload, lateFooter) ∧
      longPayload.length = payload.length + (minimumFrameSize - (41 + payload.length)) ∧
      parseL2Frame (padToMinimum (buildL2Frame src dst vlan header payload footer)) =
        .ok ⟨dst, src, vlan, header, longPayload, lateFooter.sequenceNumber,
          lateFooter.authTag⟩ := by
  -- the footer is cut from the end, and so out of the padding
  obtain ⟨longPayload, lateFooter, hsplit⟩ := @exists_splitPayloadAndFooter (payload
    ++ footer.bytes ++ List.replicate (minimumFrameSize - (41 + payload.length)) 0) (by simp; omega)
  refine ⟨longPayload, lateFooter, hsplit, ?_, ?_⟩
  · have hlength := congrArg List.length (splitPayloadAndFooter_eq_ok hsplit)
    simp only [List.length_append, SecurityFooter.length_bytes, List.length_replicate] at hlength
    omega
  · rw [padToMinimum, length_buildL2Frame, buildL2Frame_eq]
    have hassoc : l2FramePrefix src dst vlan ++ (header.bytes ++ (payload ++ footer.bytes))
          ++ List.replicate (minimumFrameSize - (41 + payload.length)) 0
        = l2FramePrefix src dst vlan ++ (header.bytes ++ (payload ++ footer.bytes
          ++ List.replicate (minimumFrameSize - (41 + payload.length)) 0)) := by
      simp only [List.append_assoc]
    rw [hassoc]
    exact parseL2Frame_prefix src dst vlan header _ longPayload lateFooter hsplit

/-- A padded frame with at most three payload bytes has the number zero and is not validated. -/
theorem receiveL2Frame_padToMinimum_short (streamMap : HashMap UInt16 StreamConfig)
    (receiver : StreamStore) (src dst : MacAddr) (vlan : UInt16) (header : L2Header)
    {payload : List UInt8} (footer : SecurityFooter) (hshort : payload.length ≤ 3) :
    (receiveL2Frame blake3 streamMap receiver
      (padToMinimum (buildL2Frame src dst vlan header payload footer))).1.validated = false := by
  obtain ⟨longPayload, lateFooter, hsplit, -, hparse⟩ :=
    parseL2Frame_padToMinimum src dst vlan header payload footer
  rcases receiveL2Frame_cases blake3 streamMap receiver
    (padToMinimum (buildL2Frame src dst vlan header payload footer)) with
    ⟨hfalse, -⟩ | ⟨parsed, e, hparse', -, -, hlt, -, -⟩
  · exact hfalse
  · rw [hparse, Except.ok.injEq] at hparse'
    subst hparse'
    have hzeros : securityFooterSize ≤ minimumFrameSize - (41 + payload.length) := by
      rw [show securityFooterSize = 16 from rfl, show minimumFrameSize = 60 from rfl]
      omega
    rw [sequenceNumber_of_zeros hzeros hsplit] at hlt
    exact absurd hlt UInt64.not_lt_zero

variable {sender receiver : StreamStore} {header : L2Header}
variable {messages : List (L2Header × List UInt8)}

/-- A receiver that treats a frame and its padded form alike gives both the same number, and the
sender uses a number once. -/
theorem receiveL2Frame_padToMinimum_iff (streamMap : HashMap UInt16 StreamConfig)
    (src dst : MacAddr) (vlan : UInt16) (payload : List UInt8) (footer : SecurityFooter)
    (houtput : sender.FreshlyAdded header.streamId .output)
    (hbound : messages.length < 2 ^ 64 - 1) {frame : Frame}
    (hframe : frame = buildL2Frame src dst vlan header payload footer)
    (hforge : UnforgeableStream blake3 sender receiver header.streamId messages
      ([frame, padToMinimum frame].filterMap Frame.streamFrame))
    (hvalid : (receiveL2Frame blake3 streamMap receiver frame).1.validated = true) :
    receiveL2Frame blake3 streamMap receiver (padToMinimum frame) =
        receiveL2Frame blake3 streamMap receiver frame ↔
      minimumFrameSize ≤ frame.length := by
  constructor
  swap
  · intro hle
    rw [padToMinimum_of_le hle]
  intro hsame
  have hlength : frame.length = 41 + payload.length := by rw [hframe, length_buildL2Frame]
  have hparse : parseL2Frame frame = .ok ⟨dst, src, vlan, header, payload,
      footer.sequenceNumber, footer.authTag⟩ := by
    rw [hframe]
    exact parseL2Frame_build src dst vlan header payload footer
  obtain ⟨longPayload, lateFooter, -, hlong, hparsePadded⟩ :=
    parseL2Frame_padToMinimum src dst vlan header payload footer
  rw [← hframe] at hparsePadded
  -- both frames are validated against the same entry
  rcases receiveL2Frame_cases blake3 streamMap receiver frame with
    ⟨hfalse, -⟩ | ⟨parsed, e, hparsed, -, hentry, -, hauth, hstore⟩
  · rw [hvalid] at hfalse
    cases hfalse
  rcases receiveL2Frame_cases blake3 streamMap receiver (padToMinimum frame) with
    ⟨hfalse, -⟩ | ⟨parsed', e', hparsed', -, hentry', -, hauth', hstore'⟩
  · rw [hsame, hvalid] at hfalse
    cases hfalse
  rw [hparse, Except.ok.injEq] at hparsed
  rw [hparsePadded, Except.ok.injEq] at hparsed'
  subst hparsed hparsed'
  -- the stores agree, so the two numbers do
  have hnumber : footer.sequenceNumber = lateFooter.sequenceNumber := by
    have hentries := congrArg (fun store => StreamStore.entry store header.streamId)
      ((hstore'.symm.trans (congrArg Prod.snd hsame)).trans hstore)
    simp only [StreamStore.entry_withEntry, Option.some.injEq, StreamEntry.mk.injEq] at hentries
    exact hentries.2.symm
  -- both messages are genuine, and equal numbers make them one
  have hmem : ∀ f ∈ [frame, padToMinimum frame].filterMap Frame.streamFrame,
      f.header = header → receiver.Authentic blake3 f.header f.payload f.sequenceNumber f.authTag →
      f ∈ genuineFrames blake3 sender header.streamId messages :=
    fun f hf hheader hgenuine => hforge f hf (congrArg L2Header.streamId hheader) hgenuine
  have hfirst := hmem ⟨header, payload, footer.sequenceNumber, footer.authTag⟩
    (by simp [Frame.streamFrame, hparse]) rfl hauth
  have hsecond := hmem ⟨header, longPayload, lateFooter.sequenceNumber, lateFooter.authTag⟩
    (by simp [Frame.streamFrame, hparsePadded]) rfl hauth'
  have heq := genuineFrames_eq_of_sequenceNumber houtput hbound hfirst hsecond hnumber
  have hpayload : payload = longPayload := congrArg StreamFrame.payload heq
  rw [← hpayload] at hlong
  omega

end Stream

/-! ## All built frames -/

/-- **Padding**: let its receiver accept a frame as it was built. For a stream frame, the
receiver does the same with the padded frame if and only if the frame had the minimum size
already; for a request or a response, the receiver accepts the same message if and only if it
had, and no request and no response has. -/
theorem padding_harmless_iff_minimum_size (blake3 : KeyedHash) :
    (∀ (sender receiver : StreamStore) (messages : List (L2Header × List UInt8))
        (streamMap : HashMap UInt16 StreamConfig) (src dst : MacAddr) (vlan : UInt16)
        (header : L2Header) (payload : List UInt8) (footer : SecurityFooter) (frame : Frame),
      frame = buildL2Frame src dst vlan header payload footer →
      sender.FreshlyAdded header.streamId .output → messages.length < 2 ^ 64 - 1 →
      UnforgeableStream blake3 sender receiver header.streamId messages
        ([frame, padToMinimum frame].filterMap Frame.streamFrame) →
      (receiveL2Frame blake3 streamMap receiver frame).1.validated = true →
      (receiveL2Frame blake3 streamMap receiver (padToMinimum frame) =
          receiveL2Frame blake3 streamMap receiver frame ↔
        minimumFrameSize ≤ frame.length)) ∧
    (∀ (master : DiscoveryMaster) (destination : MacAddr) (opCode : SdcpOpCode)
        (transactionId : UInt16) (payloadTlv : Option Tlv) (frame : Frame),
      (∀ tlv ∈ payloadTlv, BuiltTlv tlv) →
      (master.buildRequestFrame blake3 destination opCode transactionId payloadTlv).1
        = .ok frame →
      frame.length < minimumFrameSize ∧
      ∀ (node : SlaveNode) (message : SdcpMessage),
        node.acceptedMessage blake3 frame = some message →
        (node.acceptedMessage blake3 (padToMinimum frame) = some message ↔
          minimumFrameSize ≤ frame.length)) ∧
    (∀ (node : SlaveNode) (targetMac : MacAddr) (opCode : SdcpOpCode) (transactionId : UInt16)
        (tlv : Tlv) (frame : Frame), BuiltTlv tlv →
      (node.sendResponse blake3 targetMac opCode transactionId tlv).2 = [.sendTo frame] →
      frame.length < minimumFrameSize ∧
      ∀ (master : DiscoveryMaster) (message : SdcpMessage),
        master.acceptedMessage blake3 frame = some message →
        (master.acceptedMessage blake3 (padToMinimum frame) = some message ↔
          minimumFrameSize ≤ frame.length)) := by
  refine ⟨?_, ?_, ?_⟩
  -- layer-2 frames: the footer is read from the end, so padding displaces it
  · intro sender receiver messages streamMap src dst vlan header payload footer frame hframe
      houtput hbound hforge hvalid
    exact receiveL2Frame_padToMinimum_iff streamMap src dst vlan payload footer houtput hbound
      hframe hforge hvalid
  -- requests: the length is fixed by the TLV
  · intro master destination opCode transactionId payloadTlv frame htlv hbuilt
    refine ⟨length_of_buildRequestFrame blake3 htlv hbuilt, fun node message haccept => ?_⟩
    exact filter_padToMinimum_iff haccept
  -- responses likewise
  · intro node targetMac opCode transactionId tlv frame htlv hsent
    refine ⟨length_of_sendResponse blake3 htlv hsent, fun master message haccept => ?_⟩
    exact filter_padToMinimum_iff haccept

/-! ### Lost frames -/

/-- The frame of stream 5 with number `seq`, as the sender thread builds it. -/
def singleStreamBytes (payload : List UInt8) (seq : UInt64) : Frame :=
  buildL2Frame ⟨0xAA, 0xBB, 0xCC, 0xDD, 0xEE, 1⟩ ⟨0, 1, 2, 3, 4, 5⟩ 0 (.new 5 0 0) payload
    ⟨seq, tagOf checksumHash zeroSecret (signedL2Bytes (.new 5 0 0) payload seq)⟩

/-- The receiver's map with stream 5 of one byte. -/
def singleStreamMap : HashMap UInt16 StreamConfig :=
  receiverStreamMap ((singleStreamStore .input).getStreamsByDirection .input)

open Network (firstDiscoverRequest firstDiscoverResponse)

/-- A one-byte stream frame, a DiscoverReq and the response to it are accepted as built, and
padding changes each of them. -/
theorem padding_harmless_iff_minimum_size_short_frames :
    receiveL2Frame checksumHash singleStreamMap (singleStreamStore .input)
        (padToMinimum (singleStreamBytes [7] 1)) ≠
      receiveL2Frame checksumHash singleStreamMap (singleStreamStore .input)
        (singleStreamBytes [7] 1) ∧
    (∃ message, (pairNetwork.slaves ()).acceptedMessage checksumHash firstDiscoverRequest
        = some message ∧
      (pairNetwork.slaves ()).acceptedMessage checksumHash (padToMinimum firstDiscoverRequest)
        ≠ some message) ∧
    (∃ message, segmentMaster.acceptedMessage checksumHash firstDiscoverResponse = some message ∧
      segmentMaster.acceptedMessage checksumHash (padToMinimum firstDiscoverResponse)
        ≠ some message) := by
  obtain ⟨hstream, hrequest, hresponse⟩ := padding_harmless_iff_minimum_size checksumHash
  refine ⟨?_, ?_, ?_⟩
  · have hiff := hstream (singleStreamStore .output) (singleStreamStore .input)
      [(.new 5 0 0, [7])] singleStreamMap _ _ _ _ [7] _ (singleStreamBytes [7] 1) rfl (by decide)
      (by decide) (by decide +kernel) (by decide +kernel)
    rw [Ne, hiff]
    decide
  · obtain ⟨hlength, hiff⟩ := hrequest segmentMaster broadcastMac .discoverReq 1 none
      firstDiscoverRequest (by simp) rfl
    refine ⟨_, rfl, ?_⟩
    rw [Ne, hiff (pairNetwork.slaves ()) _ rfl]
    exact not_le.mpr hlength
  · obtain ⟨hlength, hiff⟩ := hresponse (pairNetwork.slaves ())
      ⟨0xAA, 0xBB, 0xCC, 0xDD, 0xEE, 1⟩ .discoverRes 1 (.deviceInfo 0 0 0) firstDiscoverResponse
      (.deviceInfo 0 0 0) rfl
    refine ⟨_, rfl, ?_⟩
    rw [Ne, hiff segmentMaster _ rfl]
    exact not_le.mpr hlength

/-- Padded to 60 bytes, the one-byte stream frame is refused and not written, the slave ignores
the DiscoverReq it would have answered, and the master ignores the answer. -/
theorem padding_changes_reception :
    ((receiveL2Frame checksumHash singleStreamMap (singleStreamStore .input)
        (singleStreamBytes [7] 1)).1 = .delivered (.ok ⟨[7], ⟨0, 0, 8⟩⟩) ∧
      (receiveL2Frame checksumHash singleStreamMap (singleStreamStore .input)
        (padToMinimum (singleStreamBytes [7] 1))).1 = .refused .errAuthFailed) ∧
    ((segmentMaster.begin checksumHash true .discoverDevices).2.1 = some firstDiscoverRequest ∧
      ((pairNetwork.slaves ()).receiveFrame checksumHash firstDiscoverRequest
        workingHardware).2 = [.sendTo firstDiscoverResponse] ∧
      ((pairNetwork.slaves ()).receiveFrame checksumHash (padToMinimum firstDiscoverRequest)
        workingHardware).2 = []) ∧
    ((segmentMaster.acceptedMessage checksumHash firstDiscoverResponse).isSome = true ∧
      segmentMaster.acceptedMessage checksumHash (padToMinimum firstDiscoverResponse) = none) := by
  decide +kernel

end TsnFieldbus
