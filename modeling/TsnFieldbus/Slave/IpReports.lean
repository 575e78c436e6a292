import TsnFieldbus.Foundations.TransitionSystem
import TsnFieldbus.Slave.RequestAnswers

/-!
# Reading Back the IP Configuration

Authenticated SetIpReq and GetIpReq requests in any order, on a device whose hardware
accesses succeed. A GetIpRes names four values, of which a SetIpReq stores three: where the
address comes from stays as it was.

- `expectedReport`: what a GetIpRes should report after a sequence of requests.
- `reportsLatest_iff`: in which sequences every GetIpRes reports it.
-/

namespace TsnFieldbus

open Foundations

/-- The SDCP messages that can be read from the frames sent. -/
def sentMessages (effects : List SlaveEffect) : List SdcpMessage :=
  (sentFrames effects).filterMap Frame.sdcpMessage

/-- The values a GetIpRes reports of a device info; an address that is not four bytes long and
a source with an unknown number read as the defaults of `handle_get_ip_request`. -/
def DeviceInfo.reportedValues (info : DeviceInfo) : IpReport :=
  { ip := .ofSliceOr info.ipAddress (.new 0 0 0 0)
    netmask := .ofSliceOr info.netmask (.new 255 255 255 0)
    gateway := .ofSliceOr info.gateway (.new 0 0 0 0)
    ipSource := (IpSource.tryFrom info.ipSource).getD .unspecified }

/-- Every access succeeds. -/
def HardwareResponse.success : HardwareResponse :=
  { readDeviceInfo := .ok ()
    applyIpConfig := .ok ()
    writeDeviceInfo := .ok () }

/-- The message is a SetIpReq or a GetIpReq. -/
def SdcpOpCode.IsIpRequest (opCode : SdcpOpCode) : Prop :=
  opCode = .setIpReq ∨ opCode = .getIpReq

instance (opCode : SdcpOpCode) : Decidable opCode.IsIpRequest :=
  inferInstanceAs (Decidable (_ ∨ _))

/-- The configuration in a SetIpReq. -/
def SdcpMessage.setConfig (message : SdcpMessage) : Option IpConfig :=
  if message.parsed.header.opCode = .setIpReq then
    SlaveNode.requestedConfig message.parsed.tlvPayload
  else none

/-! ## What should be reported -/

namespace ProcessedMessage

/-- The request was answered with a SetIpRes of status `NoError`. -/
def Acknowledged (record : ProcessedMessage) : Prop :=
  ∃ response ∈ sentMessages record.effects, response.parsed.header.opCode = .setIpRes ∧
    (Tlv.readFrom response.parsed.tlvPayload).bind Tlv.parseStatusReport = some .noError

instance (record : ProcessedMessage) : Decidable record.Acknowledged :=
  inferInstanceAs (Decidable (∃ response ∈ sentMessages record.effects, _))

/-- The configuration of a SetIpReq that was answered `NoError`. -/
def acknowledgedConfig (record : ProcessedMessage) : Option IpConfig :=
  if record.Acknowledged then record.message.setConfig else none

/-- Every GetIpRes to the request carries this report. -/
def Reports (record : ProcessedMessage) (report : IpReport) : Prop :=
  ∀ response ∈ sentMessages record.effects, response.parsed.header.opCode = .getIpRes →
    (Tlv.readFrom response.parsed.tlvPayload).bind Tlv.parseIpReport = some report

instance (record : ProcessedMessage) (report : IpReport) : Decidable (record.Reports report) :=
  inferInstanceAs (Decidable (∀ response ∈ sentMessages record.effects, _))

end ProcessedMessage

/-- The configuration of the latest SetIpReq that was answered `NoError`. -/
def latestConfig (records : List ProcessedMessage) : Option IpConfig :=
  records.foldl (fun latest record => record.acknowledgedConfig <|> latest) none

/-- The report after some requests: the latest configuration, assigned by SDCP, or the values
the device started with. -/
def expectedReport (info : DeviceInfo) (records : List ProcessedMessage) : IpReport :=
  match latestConfig records with
  | some config => ⟨config.ip, config.netmask, config.gateway, .sdcp⟩
  | none => info.reportedValues

/-- Every GetIpRes is the expected report at its time. -/
def ReportsLatest (info : DeviceInfo) (records : List ProcessedMessage) : Prop :=
  ∀ earlier record, earlier ++ [record] <+: records →
    record.message.parsed.header.opCode = .getIpReq →
    record.Reports (expectedReport info earlier)

/-- The device info after some requests, as the device stores it. -/
def storedInfo (info : DeviceInfo) (records : List ProcessedMessage) : DeviceInfo :=
  match latestConfig records with
  | some config =>
    { info with
      ipAddress := config.ip.toList
      netmask := config.netmask.toList
      gateway := config.gateway.toList }
  | none => info

theorem latestConfig_concat (records : List ProcessedMessage) (record : ProcessedMessage) :
    latestConfig (records ++ [record]) =
      (record.acknowledgedConfig <|> latestConfig records) := by
  simp only [latestConfig, List.foldl_append, List.foldl_cons, List.foldl_nil]

/-- There is a latest configuration as soon as one was acknowledged. -/
theorem latestConfig_eq_none_iff {records : List ProcessedMessage} :
    latestConfig records = none ↔ ∀ record ∈ records, record.acknowledgedConfig = none := by
  induction records using List.reverseRecOn with
  | nil => simp [latestConfig]
  | append_singleton records record ih =>
    rw [latestConfig_concat, Option.orElse_eq_orElse, Option.orElse_eq_or, Option.or_eq_none_iff,
      ih]
    simp only [List.mem_append, List.mem_singleton, or_imp, forall_and, forall_eq]
    exact and_comm

theorem storedInfo_concat (info : DeviceInfo) (records : List ProcessedMessage)
    (record : ProcessedMessage) :
    storedInfo info (records ++ [record]) =
      match record.acknowledgedConfig with
      | some config =>
        { storedInfo info records with
          ipAddress := config.ip.toList
          netmask := config.netmask.toList
          gateway := config.gateway.toList }
      | none => storedInfo info records := by
  unfold storedInfo
  rw [latestConfig_concat]
  cases record.acknowledgedConfig with
  | none => rfl
  | some config => cases latestConfig records <;> rfl

/-- Four bytes are read as they are stored. -/
theorem Ipv4.ofSliceOr_toList (addr default : Ipv4) :
    Ipv4.ofSliceOr addr.toList default = addr := by
  obtain ⟨bytes, h⟩ := addr
  exact dif_pos h

theorem IpSource.getD_tryFrom_eq_sdcp_iff (value : Int32) :
    (IpSource.tryFrom value).getD .unspecified = .sdcp ↔ value = IpSource.sdcp.toI32 := by
  constructor
  · unfold IpSource.tryFrom
    split <;> rename_i hvalue <;> simp only [Option.getD_some, Option.getD_none, reduceCtorEq,
      false_imp_iff]
    intro
    exact Int32.toInt_inj.mp hvalue
  · rintro rfl
    rfl

/-- What the device reports is expected before the first configuration, and afterwards only if
it believed all along that SDCP had assigned its address. -/
theorem reportedValues_storedInfo_eq_iff (info : DeviceInfo) (records : List ProcessedMessage) :
    (storedInfo info records).reportedValues = expectedReport info records ↔
      info.ipSource = IpSource.sdcp.toI32 ∨ latestConfig records = none := by
  unfold storedInfo expectedReport
  cases latestConfig records with
  | none => simp
  | some config =>
    simp only [DeviceInfo.reportedValues, IpReport.mk.injEq, reduceCtorEq, or_false]
    rw [IpSource.getD_tryFrom_eq_sdcp_iff]
    refine ⟨fun h => h.2.2.2, fun hsource => ⟨?_, ?_, ?_, hsource⟩⟩
    all_goals exact Ipv4.ofSliceOr_toList _ _

/-! ## A device that serves requests -/

/-- A slave and what it has done so far. -/
structure RecordingSlave where
  node : SlaveNode
  records : List ProcessedMessage

namespace RecordingSlave

variable (blake3 : KeyedHash)

/-- An authenticated SetIpReq or GetIpReq with accesses that succeed. -/
def step (s : RecordingSlave) (message : SdcpMessage) : Option RecordingSlave :=
  if s.node.Accepts blake3 message.parsed message.source ∧
      message.parsed.header.opCode.IsIpRequest then
    let response := s.node.handlePacket blake3 message.parsed message.source .success
    some { node := response.1, records := s.records ++ [⟨message, response.2⟩] }
  else none

theorem step_eq_some {s t : RecordingSlave} {message : SdcpMessage}
    (h : s.step blake3 message = some t) :
    s.node.Accepts blake3 message.parsed message.source ∧
      message.parsed.header.opCode.IsIpRequest ∧
      t = ⟨(s.node.handlePacket blake3 message.parsed message.source .success).1, s.records ++
        [⟨message, (s.node.handlePacket blake3 message.parsed message.source .success).2⟩]⟩ := by
  unfold step at h
  split at h
  · rename_i hcond
    cases h
    exact ⟨hcond.1, hcond.2, rfl⟩
  · cases h

/-! ### One request -/

section Request

variable {node : SlaveNode} {message : SdcpMessage} (hw : HardwareResponse)

/-- The one message that answers a request carries the TLV of its action. -/
theorem sentMessages_of_response (h : node.Accepts blake3 message.parsed message.source)
    {opCode : SdcpOpCode} {tlv : Tlv}
    (hresponse : (node.requestAction message.parsed hw).response = some (opCode, tlv)) :
    ∃ response,
      sentMessages (node.handlePacket blake3 message.parsed message.source hw).2 = [response] ∧
      response.parsed.header.opCode = opCode ∧ response.parsed.tlvPayload = tlv.bytes := by
  obtain ⟨seq, -, hsent⟩ := SlaveNode.sdcpMessage_nextResponse blake3
    (node.raiseMark message.source message.parsed.sequenceNumber) message.source opCode
    message.parsed.header.transactionId tlv
  unfold sentMessages
  rw [SlaveNode.sentFrames_handlePacket blake3 h hw, hresponse]
  exact ⟨_, List.filterMap_cons_some hsent, rfl, rfl⟩

/-- A SetIpReq is acknowledged exactly when it holds a configuration. -/
theorem acknowledgedConfig_handlePacket
    (h : node.Accepts blake3 message.parsed message.source) :
    ProcessedMessage.acknowledgedConfig ⟨message,
      (node.handlePacket blake3 message.parsed message.source .success).2⟩ =
      message.setConfig := by
  unfold ProcessedMessage.acknowledgedConfig
  split
  · rfl
  · rename_i hrefused
    by_cases hop : message.parsed.header.opCode = .setIpReq
    · cases hconfig : SlaveNode.requestedConfig message.parsed.tlvPayload with
      | none => simp only [SdcpMessage.setConfig, hop, if_true, hconfig]
      | some config =>
        -- all three accesses succeed, and the status says so
        have hresponse : (node.requestAction message.parsed .success).response =
            some (.setIpRes, .statusReport .noError) := by
          simp only [SlaveNode.requestAction, hop, hconfig]
          rfl
        obtain ⟨response, hsent, hcode, htlv⟩ :=
          sentMessages_of_response blake3 .success h hresponse
        refine absurd ⟨response, ?_, hcode, ?_⟩ hrefused
        · rw [hsent]
          exact List.mem_singleton_self _
        · rw [htlv, Tlv.readFrom_statusReport]
          exact Tlv.parseStatusReport_statusReport _
    · simp only [SdcpMessage.setConfig, hop, if_false]

/-- A GetIpReq is answered with the values of the stored device info. -/
theorem reports_handlePacket_iff (h : node.Accepts blake3 message.parsed message.source)
    (hop : message.parsed.header.opCode = .getIpReq) (report : IpReport) :
    ProcessedMessage.Reports ⟨message,
      (node.handlePacket blake3 message.parsed message.source .success).2⟩ report ↔
      node.deviceInfo.reportedValues = report := by
  have hresponse : (node.requestAction message.parsed .success).response =
      some (.getIpRes, .ipReport node.deviceInfo.reportedValues.ip
        node.deviceInfo.reportedValues.netmask node.deviceInfo.reportedValues.gateway
        node.deviceInfo.reportedValues.ipSource) := by
    simp only [SlaveNode.requestAction, hop]
    rfl
  obtain ⟨response, hsent, hcode, htlv⟩ := sentMessages_of_response blake3 .success h hresponse
  unfold ProcessedMessage.Reports
  simp only [hsent, List.mem_singleton, forall_eq, hcode, true_imp_iff, htlv,
    Tlv.readFrom_ipReport, Option.bind_some, Tlv.parseIpReport_ipReport, Option.some.injEq]

/-- A SetIpReq stores the three addresses of its configuration. -/
theorem deviceInfo_handlePacket (h : node.Accepts blake3 message.parsed message.source)
    (hop : message.parsed.header.opCode.IsIpRequest) :
    (node.handlePacket blake3 message.parsed message.source .success).1.deviceInfo =
      match message.setConfig with
      | some config =>
        { node.deviceInfo with
          ipAddress := config.ip.toList
          netmask := config.netmask.toList
          gateway := config.gateway.toList }
      | none => node.deviceInfo := by
  rw [SlaveNode.handlePacket_accepted blake3 h, SlaveNode.deviceInfo_perform]
  rcases hop with hop | hop
  · cases hconfig : SlaveNode.requestedConfig message.parsed.tlvPayload with
    | none => simp only [SlaveNode.requestAction, SdcpMessage.setConfig, hop, hconfig, if_true]
    | some config =>
      simp only [SlaveNode.requestAction, SdcpMessage.setConfig, hop, hconfig, if_true]
      rfl
  · simp only [SlaveNode.requestAction, SdcpMessage.setConfig, hop, reduceCtorEq, if_false]

end Request

/-! ### Whole runs -/

/-- What ties the record to the device: it stores what was acknowledged, and it has answered
every GetIpReq with what it had stored. -/
structure Follows (info : DeviceInfo) (s : RecordingSlave) : Prop where
  stored : s.node.deviceInfo = storedInfo info s.records
  acknowledged : ∀ record ∈ s.records, record.acknowledgedConfig = record.message.setConfig
  reported : ∀ earlier record, earlier ++ [record] <+: s.records →
    record.message.parsed.header.opCode = .getIpReq → ∀ report,
    (record.Reports report ↔ (storedInfo info earlier).reportedValues = report)

theorem follows_step {info : DeviceInfo} (s : RecordingSlave) (message : SdcpMessage)
    (t : RecordingSlave) (hs : Follows info s) (hstep : s.step blake3 message = some t) :
    Follows info t := by
  obtain ⟨haccepts, hop, rfl⟩ := step_eq_some blake3 hstep
  have hacknowledged := acknowledgedConfig_handlePacket blake3 haccepts
  constructor
  · rw [storedInfo_concat, hacknowledged, deviceInfo_handlePacket blake3 haccepts hop, hs.stored]
  · intro record hmem
    rcases List.mem_append.mp hmem with hold | hnew
    · exact hs.acknowledged record hold
    · cases List.mem_singleton.mp hnew
      exact hacknowledged
  · intro earlier record hbefore hget report
    rcases List.prefix_concat_iff.mp hbefore with hall | hold
    -- the request that was answered last
    · obtain ⟨rfl, hrecord⟩ := List.append_inj' hall rfl
      cases hrecord
      rw [reports_handlePacket_iff blake3 haccepts hget, hs.stored]
    · exact hs.reported earlier record hold hget report

/-- The record of a run lists its messages. -/
theorem messages_of_run {s t : RecordingSlave} {messages : List SdcpMessage}
    (hrun : execute (step blake3) s messages = some t) :
    t.records.map (·.message) = s.records.map (·.message) ++ messages := by
  induction messages generalizing s with
  | nil =>
    cases hrun
    exact (List.append_nil _).symm
  | cons message messages ih =>
    obtain ⟨u, hstep, hrest⟩ := execute_cons_eq_some.mp hrun
    obtain ⟨-, -, rfl⟩ := step_eq_some blake3 hstep
    rw [ih hrest, List.map_append, List.append_assoc]
    rfl

/-- **When a SetIpReq is read back**: when the device took its address for one assigned by
SDCP from the start, or no GetIpReq comes after a SetIpReq with a configuration. -/
theorem reportsLatest_iff {node : SlaveNode} {messages : List SdcpMessage} {t : RecordingSlave}
    (hrun : execute (step blake3) ⟨node, []⟩ messages = some t) :
    ReportsLatest node.deviceInfo t.records ↔
      node.deviceInfo.ipSource = IpSource.sdcp.toI32 ∨
      ∀ earlier get, earlier ++ [get] <+: messages → get.parsed.header.opCode = .getIpReq →
        ∀ set ∈ earlier, set.setConfig = none := by
  have hfollows : Follows node.deviceInfo t :=
    execute_invariant (follows_step blake3) ⟨rfl, by simp, by simp⟩ hrun
  have hmessages : t.records.map (·.message) = messages := messages_of_run blake3 hrun
  -- a report is the expected one when nothing was acknowledged before
  have hreport : ∀ earlier record, earlier ++ [record] <+: t.records →
      record.message.parsed.header.opCode = .getIpReq →
      (record.Reports (expectedReport node.deviceInfo earlier) ↔
        node.deviceInfo.ipSource = IpSource.sdcp.toI32 ∨
        ∀ set ∈ earlier, set.message.setConfig = none) := by
    intro earlier record hbefore hget
    rw [hfollows.reported earlier record hbefore hget, reportedValues_storedInfo_eq_iff,
      latestConfig_eq_none_iff]
    refine or_congr_right (forall₂_congr fun set hset => ?_)
    rw [hfollows.acknowledged set (hbefore.subset (List.mem_append_left _ hset))]
  subst hmessages
  unfold ReportsLatest
  by_cases hsource : node.deviceInfo.ipSource = IpSource.sdcp.toI32
  · refine ⟨fun _ => .inl hsource, fun _ earlier record hbefore hget => ?_⟩
    exact (hreport earlier record hbefore hget).mpr (.inl hsource)
  constructor
  · intro hall
    refine .inr fun earlier get hbefore hget set hset => ?_
    obtain ⟨records, hrecords, hsplit⟩ := List.prefix_map_iff.mp hbefore
    obtain ⟨before, last, rfl, rfl, hlast⟩ := List.append_eq_map_iff.mp hsplit
    obtain ⟨record, rfl, rfl⟩ := List.map_eq_singleton_iff.mp hlast
    obtain ⟨earlierSet, hmem, rfl⟩ := List.mem_map.mp hset
    have hnone := (hreport before record hrecords hget).mp (hall before record hrecords hget)
    exact hnone.resolve_left hsource earlierSet hmem
  · intro hcondition earlier record hbefore hget
    refine (hreport earlier record hbefore hget).mpr (.inr fun set hset => ?_)
    refine hcondition.resolve_left hsource (earlier.map (·.message)) record.message ?_ hget
      set.message (List.mem_map_of_mem hset)
    simpa using hbefore.map (·.message)

/-! ### A configuration read back -/

/-- The master's SetIpReq, then its GetIpReq. -/
def setThenGet : List SdcpMessage :=
  [⟨⟨0xAA, 0xBB, 0xCC, 0xDD, 0xEE, 1⟩,
      { header := .new .setIpReq 1
        tlvPayload := (Tlv.ipConfig (.new 10 0 0 50) (.new 255 255 255 0) (.new 10 0 0 1)).bytes
        sequenceNumber := 1
        authTag := tagOf checksumHash zeroSecret (signedBytes (.new .setIpReq 1)
          (Tlv.ipConfig (.new 10 0 0 50) (.new 255 255 255 0) (.new 10 0 0 1)).bytes 1) }⟩,
    ⟨⟨0xAA, 0xBB, 0xCC, 0xDD, 0xEE, 1⟩,
      { header := .new .getIpReq 2
        tlvPayload := []
        sequenceNumber := 2
        authTag := tagOf checksumHash zeroSecret (signedBytes (.new .getIpReq 2) [] 2) }⟩]

/-- A device that has its address from SDCP already. -/
def readdressedSlave : SlaveNode :=
  { SlaveNode.trustingSlave with
    deviceInfo := { defaultDeviceInfo with ipSource := IpSource.sdcp.toI32 } }

theorem reportsLatest_iff_readdressed :
    ∃ t, execute (step checksumHash) ⟨readdressedSlave, []⟩ setThenGet = some t ∧
      ReportsLatest readdressedSlave.deviceInfo t.records := by
  obtain ⟨t, hrun⟩ : ∃ t, execute (step checksumHash) ⟨readdressedSlave, []⟩ setThenGet = some t :=
    Option.isSome_iff_exists.mp (by decide)
  exact ⟨t, hrun, (reportsLatest_iff checksumHash hrun).mpr (.inl rfl)⟩

/-- A new device is configured, acknowledges it, and reports the new addresses with the
source `Unspecified`. -/
theorem configured_address_reported_unspecified :
    ∃ set get,
      (execute (step checksumHash) ⟨SlaveNode.trustingSlave, []⟩ setThenGet).map (·.records) =
        some [set, get] ∧
      set.Acknowledged ∧ get.message.parsed.header.opCode = .getIpReq ∧
      get.Reports ⟨.new 10 0 0 50, .new 255 255 255 0, .new 10 0 0 1, .unspecified⟩ ∧
      ¬ ReportsLatest SlaveNode.trustingSlave.deviceInfo [set, get] := by
  obtain ⟨set, get, hrun, hset, hget, hreport, hother⟩ : ∃ set get,
      (execute (step checksumHash) ⟨SlaveNode.trustingSlave, []⟩ setThenGet).map (·.records) =
        some [set, get] ∧
      set.Acknowledged ∧ get.message.parsed.header.opCode = .getIpReq ∧
      get.Reports ⟨.new 10 0 0 50, .new 255 255 255 0, .new 10 0 0 1, .unspecified⟩ ∧
      ¬ get.Reports (expectedReport SlaveNode.trustingSlave.deviceInfo [set]) :=
    ⟨_, _, rfl, by decide +kernel, rfl, by decide +kernel, by decide +kernel⟩
  refine ⟨set, get, hrun, hset, hget, hreport, fun hlatest => ?_⟩
  exact hother (hlatest [set] get (List.prefix_refl _) hget)

end RecordingSlave

end TsnFieldbus
