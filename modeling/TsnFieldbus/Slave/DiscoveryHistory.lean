import TsnFieldbus.Foundations.HighWaterMark
import TsnFieldbus.Slave.Discovery

/-!
# What a Slave Has Accepted

The messages a slave accepted, oldest first, beside what its handlers did with each. The
record is not part of the source; it is what statements about whole runs speak of.

- `receiveFrame_cases`: a received frame is dropped, or its message is accepted and answered.
- `ResponseTo`: which response belongs to which request.
- `History`: the invariant that ties the record to the marks and counters of the node.
-/

namespace TsnFieldbus

open Foundations

/-- A message a slave has accepted and what its handler did. -/
structure ProcessedMessage where
  message : SdcpMessage
  effects : List SlaveEffect
deriving DecidableEq

/-- The frames among the effects of a handler. -/
def sentFrames (effects : List SlaveEffect) : List Frame :=
  effects.filterMap fun
    | .sendTo frame => some frame
    | _ => none

theorem mem_sentFrames {effects : List SlaveEffect} {frame : Frame} :
    frame ∈ sentFrames effects ↔ SlaveEffect.sendTo frame ∈ effects := by
  unfold sentFrames
  rw [List.mem_filterMap]
  constructor
  · rintro ⟨effect, hmem, heq⟩
    cases effect <;> cases heq
    exact hmem
  · intro hmem
    exact ⟨_, hmem, rfl⟩

/-- The stored addresses are those of the configuration. -/
def DeviceInfo.Holds (info : DeviceInfo) (config : IpConfig) : Prop :=
  info.ipAddress = config.ip.toList ∧ info.netmask = config.netmask.toList ∧
    info.gateway = config.gateway.toList

/-- The operation codes that `handle_packet` acts on. -/
def SdcpOpCode.IsRequest (opCode : SdcpOpCode) : Prop :=
  opCode = .discoverReq ∨ opCode = .getIpReq ∨ opCode = .setIpReq

instance (opCode : SdcpOpCode) : Decidable opCode.IsRequest :=
  inferInstanceAs (Decidable (_ ∨ _ ∨ _))

namespace SlaveNode

variable (blake3 : KeyedHash)

/-! ## One accepted message -/

/-- The node accepts a message and performs what it requests. -/
def answer (node : SlaveNode) (message : SdcpMessage) (hw : HardwareResponse) :
    SlaveNode × List SlaveEffect :=
  (node.raiseMark message.source message.parsed.sequenceNumber).perform blake3 message.parsed
    message.source (node.requestAction message.parsed hw)

/-- A received frame is dropped, or its message is accepted and answered. -/
theorem receiveFrame_cases (node : SlaveNode) (frame : Frame) (hw : HardwareResponse) :
    ((∀ message, frame.sdcpMessage = some message →
        ¬ node.Accepts blake3 message.parsed message.source) ∧
      node.receiveFrame blake3 frame hw = (node, [])) ∨
    (∃ message, frame.sdcpMessage = some message ∧
      node.Accepts blake3 message.parsed message.source ∧
      node.receiveFrame blake3 frame hw = node.answer blake3 message hw) := by
  unfold receiveFrame
  cases hmessage : frame.sdcpMessage with
  | none => exact .inl ⟨by simp, rfl⟩
  | some message =>
    by_cases haccept : node.Accepts blake3 message.parsed message.source
    · exact .inr ⟨message, rfl, haccept, handlePacket_accepted blake3 haccept hw⟩
    · refine .inl ⟨?_, handlePacket_rejected blake3 haccept hw⟩
      rintro m ⟨⟩
      exact haccept

section Perform

variable (node : SlaveNode) (parsed : ParsedSdcpPayload) (sourceMac : MacAddr)
  (action : RequestAction)

@[simp] theorem interfaceMac_perform :
    (node.perform blake3 parsed sourceMac action).1.interfaceMac = node.interfaceMac := by
  unfold perform
  cases action.response <;> rfl

@[simp] theorem deviceInfo_perform :
    (node.perform blake3 parsed sourceMac action).1.deviceInfo = action.deviceInfo := by
  unfold perform
  cases action.response <;> rfl

/-- Apart from the node's own counter, an action leaves the contexts alone. -/
theorem authHandler_perform :
    (action.response = none ∧
      (node.perform blake3 parsed sourceMac action).1.authHandler = node.authHandler) ∨
    (action.response.isSome ∧
      (node.perform blake3 parsed sourceMac action).1.authHandler =
        node.authHandler.afterSend node.interfaceMac) := by
  unfold perform
  cases action.response with
  | none => exact .inl ⟨rfl, rfl⟩
  | some response => exact .inr ⟨rfl, rfl⟩

@[simp] theorem sharedSecret_perform :
    (node.perform blake3 parsed sourceMac action).1.authHandler.sharedSecret
      = node.authHandler.sharedSecret := by
  rcases authHandler_perform blake3 node parsed sourceMac action with ⟨-, h⟩ | ⟨-, h⟩ <;> simp [h]

@[simp] theorem mark_perform (mac : MacAddr) :
    (node.perform blake3 parsed sourceMac action).1.authHandler.mark mac
      = node.authHandler.mark mac := by
  rcases authHandler_perform blake3 node parsed sourceMac action with ⟨-, h⟩ | ⟨-, h⟩ <;> simp [h]

end Perform

/-- An answer never takes the node's counter back. -/
theorem nextNumber_le_answer (node : SlaveNode) (message : SdcpMessage) (hw : HardwareResponse) :
    node.authHandler.nextNumber node.interfaceMac ≤
      (node.answer blake3 message hw).1.authHandler.nextNumber node.interfaceMac := by
  have hle := DiscoveryAuthHandler.nextNumber_le node.authHandler node.interfaceMac
  rcases authHandler_perform blake3 (node.raiseMark message.source message.parsed.sequenceNumber)
    message.parsed message.source (node.requestAction message.parsed hw) with ⟨-, h⟩ | ⟨-, h⟩
  · rw [answer, h, authHandler_raiseMark, DiscoveryAuthHandler.nextNumber_raiseMark]
  · rw [answer, h, interfaceMac_raiseMark, authHandler_raiseMark,
      DiscoveryAuthHandler.nextNumber_afterSend, DiscoveryAuthHandler.nextNumber_raiseMark]
    omega

/-- The handlers send nothing before their response. -/
theorem sendTo_notMem_requestAction (node : SlaveNode) (parsed : ParsedSdcpPayload)
    (hw : HardwareResponse) (frame : Frame) :
    SlaveEffect.sendTo frame ∉ (node.requestAction parsed hw).effects := by
  unfold requestAction
  split
  · simp
  · simp
  · split
    · simp
    · unfold setIpAction
      split <;> simp
  · simp

/-- A frame sent with an answer is the node's next frame, and its counter advances. -/
theorem sendTo_mem_answer {node : SlaveNode} {message : SdcpMessage} {hw : HardwareResponse}
    {frame : Frame} (h : SlaveEffect.sendTo frame ∈ (node.answer blake3 message hw).2) :
    ∃ opCode tlv, (node.requestAction message.parsed hw).response = some (opCode, tlv) ∧
      frame = (node.raiseMark message.source message.parsed.sequenceNumber).nextResponse blake3
        message.source opCode message.parsed.header.transactionId tlv ∧
      (node.answer blake3 message hw).1.authHandler =
        (node.raiseMark message.source message.parsed.sequenceNumber).authHandler.afterSend
          node.interfaceMac := by
  unfold answer perform at h ⊢
  cases hresponse : (node.requestAction message.parsed hw).response with
  | none =>
    simp only [hresponse] at h
    exact absurd h (sendTo_notMem_requestAction node message.parsed hw frame)
  | some response =>
    obtain ⟨opCode, tlv⟩ := response
    simp only [hresponse, List.mem_append, List.mem_singleton] at h
    -- the accesses of the handler send nothing themselves
    rcases h with h | h
    · exact absurd h (sendTo_notMem_requestAction node message.parsed hw frame)
    · cases h
      exact ⟨opCode, tlv, rfl, rfl, rfl⟩

/-- The message of the node's next response. -/
theorem sdcpMessage_nextResponse (node : SlaveNode) (targetMac : MacAddr) (opCode : SdcpOpCode)
    (transactionId : UInt16) (tlv : Tlv) :
    ∃ seq : UInt64, seq.toNat = node.authHandler.nextNumber node.interfaceMac ∧
      Frame.sdcpMessage (node.nextResponse blake3 targetMac opCode transactionId tlv) =
        some ⟨node.interfaceMac, ⟨.new opCode transactionId, tlv.bytes, seq,
          tagOf blake3 node.authHandler.sharedSecret
            (signedBytes (.new opCode transactionId) tlv.bytes seq)⟩⟩ :=
  ⟨_, rfl, sdcpMessage_sdcpFrame _ _ _ _ _⟩

end SlaveNode

/-! ## Responses -/

/-- The record shows that this configuration was applied and stored, and nothing else. -/
structure ProcessedMessage.Configures (record : ProcessedMessage) (config : IpConfig) : Prop where
  requested : SlaveNode.requestedConfig record.message.parsed.tlvPayload = some config
  effects : ∃ (info : DeviceInfo) (response : Frame), info.Holds config ∧
    record.effects = [.applyIpConfig config true, .writeDeviceInfo info true, .sendTo response]

/-- Operation code and TLV of a response to the recorded request. -/
inductive ResponseTo (record : ProcessedMessage) : SdcpOpCode → Tlv → Prop where
  | discover (h : record.message.parsed.header.opCode = .discoverReq) (vendorId deviceId : UInt16)
      (serialNumber : UInt32) :
      ResponseTo record .discoverRes (.deviceInfo vendorId deviceId serialNumber)
  | getIp (h : record.message.parsed.header.opCode = .getIpReq) (tlv : Tlv) :
      ResponseTo record .getIpRes tlv
  | setIp (h : record.message.parsed.header.opCode = .setIpReq) (code : StatusCode)
      (hok : code = .noError → ∃ config, record.Configures config) :
      ResponseTo record .setIpRes (.statusReport code)

/-- Only requests are answered. -/
theorem ResponseTo.isRequest {record : ProcessedMessage} {opCode : SdcpOpCode} {tlv : Tlv}
    (h : ResponseTo record opCode tlv) : record.message.parsed.header.opCode.IsRequest := by
  cases h with
  | discover hop => exact .inl hop
  | getIp hop => exact .inr (.inl hop)
  | setIp hop => exact .inr (.inr hop)

/-- A record is explained by an address and a secret when the handlers of some node with
them have these effects. -/
def ProcessedMessage.Explained (blake3 : KeyedHash) (mac : MacAddr) (secret : Secret)
    (record : ProcessedMessage) : Prop :=
  ∃ (node : SlaveNode) (hw : HardwareResponse), node.interfaceMac = mac ∧
    node.authHandler.sharedSecret = secret ∧
    record.effects = (node.answer blake3 record.message hw).2

namespace SlaveNode

variable (blake3 : KeyedHash)

/-- The actions on a SetIpReq: a success status stands for an applied and stored
configuration, since a failing access never reports success. -/
theorem setIpAction_cases (node : SlaveNode) (hw : HardwareResponse) (config : IpConfig) :
    (∃ code : StatusCode, code ≠ .noError ∧
      (node.setIpAction hw config).response = some (.setIpRes, .statusReport code)) ∨
    ((node.setIpAction hw config).response = some (.setIpRes, .statusReport .noError) ∧
      (node.setIpAction hw config).effects = [.applyIpConfig config true,
        .writeDeviceInfo (node.configuredInfo config) true] ∧
      (node.setIpAction hw config).deviceInfo = node.configuredInfo config) := by
  unfold setIpAction
  split
  · exact .inl ⟨.errHardwareAccess, by decide, rfl⟩
  · rename_i code _ _
    exact .inl ⟨code.val, code.property, rfl⟩
  · rename_i code _ _ _ _
    exact .inl ⟨code.val, code.property, rfl⟩
  · exact .inr ⟨rfl, rfl, rfl⟩

theorem configuredInfo_holds (node : SlaveNode) (config : IpConfig) :
    (node.configuredInfo config).Holds config := ⟨rfl, rfl, rfl⟩

/-- An answer with a response ends with the response. -/
theorem effects_answer {node : SlaveNode} {message : SdcpMessage} {hw : HardwareResponse}
    {opCode : SdcpOpCode} {tlv : Tlv}
    (h : (node.requestAction message.parsed hw).response = some (opCode, tlv)) :
    ∃ response, (node.answer blake3 message hw).2 =
      (node.requestAction message.parsed hw).effects ++ [.sendTo response] := by
  unfold answer perform
  rw [h]
  exact ⟨_, rfl⟩

/-- The response of an action belongs to the request. -/
theorem responseTo_of_response {node : SlaveNode} {message : SdcpMessage} {hw : HardwareResponse}
    {opCode : SdcpOpCode} {tlv : Tlv}
    (h : (node.requestAction message.parsed hw).response = some (opCode, tlv)) :
    ResponseTo ⟨message, (node.answer blake3 message hw).2⟩ opCode tlv := by
  obtain ⟨response, heffects⟩ := effects_answer blake3 h
  unfold requestAction at h heffects
  split at h <;> rename_i hop
  · cases h
    exact .discover hop _ _ _
  · cases h
    exact .getIp hop _
  -- SetIp answers with an error code, or with success after all three calls
  · simp only [hop] at heffects
    split at h
    · cases h
    · rename_i config hconfig
      simp only [hconfig] at heffects
      rcases setIpAction_cases node hw config with ⟨code, hcode, hresponse⟩ | ⟨hresponse, heff, -⟩
      · rw [hresponse] at h
        cases h
        exact .setIp hop code (fun hok => absurd hok hcode)
      · rw [hresponse] at h
        cases h
        rw [heff] at heffects
        exact .setIp hop .noError (fun _ => ⟨config, hconfig, node.configuredInfo config, response,
          configuredInfo_holds node config, heffects⟩)
  · cases h

/-- Hardware accesses of an answer are those of its action. -/
theorem mem_requestAction_of_mem_answer {node : SlaveNode} {message : SdcpMessage}
    {hw : HardwareResponse} {info : DeviceInfo} {succeeded : Bool}
    (h : SlaveEffect.writeDeviceInfo info succeeded ∈ (node.answer blake3 message hw).2) :
    SlaveEffect.writeDeviceInfo info succeeded
      ∈ (node.requestAction message.parsed hw).effects := by
  unfold answer perform at h
  cases hresponse : (node.requestAction message.parsed hw).response with
  | none => simpa only [hresponse] using h
  | some response => simpa [hresponse] using h

/-- After an answer that applied and stored a configuration, the node holds it. -/
theorem deviceInfo_answer_holds {node : SlaveNode} {message : SdcpMessage} {hw : HardwareResponse}
    {config : IpConfig}
    (h : ProcessedMessage.Configures ⟨message, (node.answer blake3 message hw).2⟩ config) :
    (node.answer blake3 message hw).1.deviceInfo.Holds config := by
  obtain ⟨hrequested, info, response, -, heffects⟩ := h
  simp only at hrequested heffects
  -- the record has been written, so the request came that far
  have hwrite : SlaveEffect.writeDeviceInfo info true ∈ (node.answer blake3 message hw).2 := by
    rw [heffects]
    simp
  replace hwrite := mem_requestAction_of_mem_answer blake3 hwrite
  rw [answer, deviceInfo_perform]
  unfold requestAction at hwrite ⊢
  split at hwrite
  · simp at hwrite
  · simp at hwrite
  · simp only [hrequested] at hwrite ⊢
    -- only the last of its four ends writes it
    unfold setIpAction at hwrite ⊢
    split at hwrite
    · simp at hwrite
    · simp at hwrite
    · simp at hwrite
    · exact configuredInfo_holds node config
  · simp at hwrite

/-- Messages that request nothing leave the stored info alone. -/
theorem deviceInfo_answer_of_not_isRequest {node : SlaveNode} {message : SdcpMessage}
    (h : ¬ message.parsed.header.opCode.IsRequest) (hw : HardwareResponse) :
    (node.answer blake3 message hw).1.deviceInfo = node.deviceInfo := by
  rw [answer, deviceInfo_perform]
  unfold requestAction
  split <;> rename_i hop
  · exact absurd (.inl hop) h
  · exact absurd (.inr (.inl hop)) h
  · exact absurd (.inr (.inr hop)) h
  · rfl

end SlaveNode

/-- Every frame sent with an explained record is an authentic response under the device's own
address and with the request's transaction id. -/
theorem ProcessedMessage.Explained.response {blake3 : KeyedHash} {mac : MacAddr} {secret : Secret}
    {record : ProcessedMessage} (h : record.Explained blake3 mac secret) {frame : Frame}
    (hsent : SlaveEffect.sendTo frame ∈ record.effects) :
    ∃ opCode tlv seq, ResponseTo record opCode tlv ∧
      frame.sdcpMessage = some ⟨mac,
        ⟨.new opCode record.message.parsed.header.transactionId, tlv.bytes, seq,
          tagOf blake3 secret
            (signedBytes (.new opCode record.message.parsed.header.transactionId) tlv.bytes
              seq)⟩⟩ := by
  obtain ⟨node, hw, rfl, rfl, heffects⟩ := h
  rw [heffects] at hsent
  obtain ⟨opCode, tlv, hresponse, hframe, -⟩ := SlaveNode.sendTo_mem_answer blake3 hsent
  obtain ⟨seq, -, hmessage⟩ := SlaveNode.sdcpMessage_nextResponse blake3
    (node.raiseMark record.message.source record.message.parsed.sequenceNumber)
    record.message.source opCode record.message.parsed.header.transactionId tlv
  have hto := SlaveNode.responseTo_of_response blake3 hresponse
  rw [← heffects] at hto
  exact ⟨opCode, tlv, seq, hto, hframe ▸ hmessage⟩

/-! ## The record of a node -/

/-- The numbers accepted from one source, oldest first. -/
def numbersFrom (source : MacAddr) (records : List ProcessedMessage) : List ℕ :=
  (records.filter (fun record => record.message.source = source)).map
    (fun record => record.message.parsed.sequenceNumber.toNat)

/-- What relates a node to the record of the messages it has accepted. -/
structure History (blake3 : KeyedHash) (node : SlaveNode) (records : List ProcessedMessage) :
    Prop where
  explained : ∀ record ∈ records,
    record.Explained blake3 node.interfaceMac node.authHandler.sharedSecret
  tracks : ∀ source,
    HighWaterMark.Tracks (node.authHandler.mark source) (numbersFrom source records)
  numbered : ∀ record ∈ records, ∀ frame, SlaveEffect.sendTo frame ∈ record.effects →
    ∀ message, frame.sdcpMessage = some message →
      message.parsed.sequenceNumber.toNat < node.authHandler.nextNumber node.interfaceMac ∨
        node.authHandler.nextNumber node.interfaceMac = 2 ^ 64 - 1

namespace History

variable {blake3 : KeyedHash}

theorem nil (node : SlaveNode) : History blake3 node [] :=
  ⟨by simp, fun source => HighWaterMark.Tracks.nil _, by simp⟩

/-- Only the address and the contexts of the node matter. -/
theorem congr {node node' : SlaveNode} {records : List ProcessedMessage}
    (h : History blake3 node records) (hmac : node'.interfaceMac = node.interfaceMac)
    (hauth : node'.authHandler = node.authHandler) : History blake3 node' records := by
  refine ⟨?_, ?_, ?_⟩
  · rw [hmac, hauth]
    exact h.explained
  · rw [hauth]
    exact h.tracks
  · rw [hmac, hauth]
    exact h.numbered

/-- Accepting a message extends the record. -/
theorem answer {node : SlaveNode} {records : List ProcessedMessage}
    (h : History blake3 node records) {message : SdcpMessage}
    (haccept : node.Accepts blake3 message.parsed message.source) (hw : HardwareResponse) :
    History blake3 (node.answer blake3 message hw).1
      (records ++ [⟨message, (node.answer blake3 message hw).2⟩]) := by
  have hmac : (node.answer blake3 message hw).1.interfaceMac = node.interfaceMac :=
    SlaveNode.interfaceMac_perform _ _ _ _ _
  have hsecret : (node.answer blake3 message hw).1.authHandler.sharedSecret
      = node.authHandler.sharedSecret := SlaveNode.sharedSecret_perform _ _ _ _ _
  refine ⟨?_, ?_, ?_⟩
  -- the new record is explained by the node before the request
  · intro record hrecord
    rw [hmac, hsecret]
    rcases List.mem_append.mp hrecord with hold | hnew
    · exact h.explained record hold
    · rw [List.mem_singleton.mp hnew]
      exact ⟨node, hw, rfl, rfl, rfl⟩
  -- its number joins those of its source
  · intro source
    have hmark : (node.answer blake3 message hw).1.authHandler.mark source =
        (node.authHandler.raiseMark message.source message.parsed.sequenceNumber).mark source :=
      SlaveNode.mark_perform _ _ _ _ _ _
    rw [hmark, numbersFrom, List.filter_append, List.map_append]
    by_cases hsource : message.source = source
    -- the number lies above the mark, so it extends the increasing record
    · subst hsource
      have hlt := (DiscoveryAuthHandler.fresh_iff.mp haccept.1).2
      simpa [numbersFrom] using (h.tracks message.source).take hlt
    · rw [DiscoveryAuthHandler.mark_raiseMark_ne (Ne.symm hsource)]
      simpa [hsource, numbersFrom] using h.tracks source
  -- answers are numbered below the counter, which only rises
  · intro record hrecord frame hframe m hm
    rw [hmac]
    rcases List.mem_append.mp hrecord with hold | hnew
    · have hle := SlaveNode.nextNumber_le_answer blake3 node message hw
      have hmax := DiscoveryAuthHandler.nextNumber_le
        (node.answer blake3 message hw).1.authHandler node.interfaceMac
      rcases h.numbered record hold frame hframe m hm with hlt | hsat
      · exact .inl (hlt.trans_le hle)
      · exact .inr (le_antisymm hmax (hsat ▸ hle))
    · rw [List.mem_singleton.mp hnew] at hframe
      obtain ⟨opCode, tlv, -, rfl, hauth⟩ := SlaveNode.sendTo_mem_answer blake3 hframe
      obtain ⟨seq, hseq, hmessage⟩ := SlaveNode.sdcpMessage_nextResponse blake3
        (node.raiseMark message.source message.parsed.sequenceNumber) message.source opCode
        message.parsed.header.transactionId tlv
      rw [hmessage] at hm
      cases hm
      rw [hauth, DiscoveryAuthHandler.nextNumber_afterSend]
      rw [SlaveNode.interfaceMac_raiseMark] at hseq
      have hmax := DiscoveryAuthHandler.nextNumber_le
        (node.raiseMark message.source message.parsed.sequenceNumber).authHandler
        node.interfaceMac
      show seq.toNat < _ ∨ _
      omega

/-- At most one record matches a condition that fixes source and number. -/
theorem countP_le_one {node : SlaveNode} {records : List ProcessedMessage}
    (h : History blake3 node records) {source : MacAddr} {number : ℕ}
    {matches' : ProcessedMessage → Bool}
    (hmatch : ∀ record ∈ records, matches' record = true → record.message.source = source ∧
      record.message.parsed.sequenceNumber.toNat = number) :
    records.countP matches' ≤ 1 := by
  have hcount : (numbersFrom source records).count number ≤ 1 :=
    List.nodup_iff_count_le_one.mp (h.tracks source).nodup number
  refine le_trans ?_ hcount
  rw [numbersFrom, List.count, List.countP_map, List.countP_filter]
  refine List.countP_mono_left (fun record hrecord hm => ?_)
  obtain ⟨hsource, hnumber⟩ := hmatch record hrecord hm
  simp [hsource, hnumber]

end History

end TsnFieldbus
