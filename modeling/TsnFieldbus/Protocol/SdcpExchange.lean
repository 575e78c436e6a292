import TsnFieldbus.Master.Discovery
import TsnFieldbus.Slave.Discovery

/-!
# The Meaning of an SDCP Message

Master and slave build their frames by different code and share the reader. What a sender
puts into a frame, a TLV and the header it travels under, is what any receiver takes out.

- `readings_toTlv`: the four TLV parsers on the four TLV constructors.
- `understoodAs_nextFrame`: a laid out frame, read field by field.
- `messages_mean_the_same`: the frames of both senders, read by a holder of the secret.
-/

namespace TsnFieldbus

/-! ## TLVs and their contents -/

/-- The arguments of a TLV constructor. -/
inductive TlvContent where
  | deviceInfo (info : SdcpDeviceInfo)
  | ipConfig (config : IpConfig)
  | statusReport (code : StatusCode)
  | ipReport (report : IpReport)
deriving DecidableEq

/-- The answers of `parse_device_info`, `parse_ip_config`, `parse_status_report` and
`parse_ip_report`. -/
structure TlvReadings where
  deviceInfo : Option SdcpDeviceInfo
  ipConfig : Option IpConfig
  statusReport : Option StatusCode
  ipReport : Option IpReport
deriving DecidableEq

/-- What the four parsers answer on a TLV. -/
def Tlv.readings (tlv : Tlv) : TlvReadings :=
  { deviceInfo := tlv.parseDeviceInfo
    ipConfig := tlv.parseIpConfig
    statusReport := tlv.parseStatusReport
    ipReport := tlv.parseIpReport }

namespace TlvContent

/-- The TLV made by the constructor of these arguments. -/
def toTlv : TlvContent → Tlv
  | .deviceInfo info => .deviceInfo info.vendorId info.deviceId info.serialNumber
  | .ipConfig config => .ipConfig config.ip config.netmask config.gateway
  | .statusReport code => .statusReport code
  | .ipReport report => .ipReport report.ip report.netmask report.gateway report.ipSource

/-- The arguments for the matching parser, nothing for the three others. -/
def readings : TlvContent → TlvReadings
  | .deviceInfo info => ⟨some info, none, none, none⟩
  | .ipConfig config => ⟨none, some config, none, none⟩
  | .statusReport code => ⟨none, none, some code, none⟩
  | .ipReport report => ⟨none, none, none, some report⟩

theorem builtTlv (content : TlvContent) : BuiltTlv content.toTlv := by
  cases content with
  | deviceInfo info => exact .deviceInfo _ _ _
  | ipConfig config => exact .ipConfig _ _ _
  | statusReport code => exact .statusReport _
  | ipReport report => exact .ipReport _ _ _ _

/-- The four parsers find the constructor and its arguments. -/
theorem readings_toTlv (content : TlvContent) : content.toTlv.readings = content.readings := by
  cases content with
  | deviceInfo info =>
    simp only [Tlv.readings, toTlv, readings, TlvReadings.mk.injEq]
    refine ⟨Tlv.parseDeviceInfo_deviceInfo _ _ _, ?_, ?_, ?_⟩
    · exact Tlv.parseIpConfig_of_ne (show tlvTypeDeviceInfo ≠ _ by decide)
    · exact Tlv.parseStatusReport_of_ne (show tlvTypeDeviceInfo ≠ _ by decide)
    · exact Tlv.parseIpReport_of_ne (show tlvTypeDeviceInfo ≠ _ by decide)
  | ipConfig config =>
    simp only [Tlv.readings, toTlv, readings, TlvReadings.mk.injEq]
    refine ⟨?_, Tlv.parseIpConfig_ipConfig _ _ _, ?_, ?_⟩
    · exact Tlv.parseDeviceInfo_of_ne (show tlvTypeIpConfig ≠ _ by decide)
    · exact Tlv.parseStatusReport_of_ne (show tlvTypeIpConfig ≠ _ by decide)
    · exact Tlv.parseIpReport_of_ne (show tlvTypeIpConfig ≠ _ by decide)
  | statusReport code =>
    simp only [Tlv.readings, toTlv, readings, TlvReadings.mk.injEq]
    refine ⟨?_, ?_, Tlv.parseStatusReport_statusReport _, ?_⟩
    · exact Tlv.parseDeviceInfo_of_ne (show tlvTypeStatusReport ≠ _ by decide)
    · exact Tlv.parseIpConfig_of_ne (show tlvTypeStatusReport ≠ _ by decide)
    · exact Tlv.parseIpReport_of_ne (show tlvTypeStatusReport ≠ _ by decide)
  | ipReport report =>
    simp only [Tlv.readings, toTlv, readings, TlvReadings.mk.injEq]
    refine ⟨?_, ?_, ?_, Tlv.parseIpReport_ipReport _ _ _ _⟩
    · exact Tlv.parseDeviceInfo_of_ne (show tlvTypeIpReport ≠ _ by decide)
    · exact Tlv.parseIpConfig_of_ne (show tlvTypeIpReport ≠ _ by decide)
    · exact Tlv.parseStatusReport_of_ne (show tlvTypeIpReport ≠ _ by decide)

/-- A written TLV is read back. -/
theorem readFrom_toTlv (content : TlvContent) :
    Tlv.readFrom content.toTlv.bytes = some content.toTlv := by
  cases content <;> simp only [toTlv, Tlv.readFrom_deviceInfo, Tlv.readFrom_ipConfig,
    Tlv.readFrom_statusReport, Tlv.readFrom_ipReport]

end TlvContent

/-! ## Frames and their messages -/

/-- What a sender means by a frame. -/
structure SdcpMeaning where
  destination : MacAddr
  source : MacAddr
  opCode : SdcpOpCode
  transactionId : UInt16
  content : TlvContent
  sequenceNumber : UInt64
  authTag : AuthTag

/-- A receiver with this secret takes exactly the meaning out of the frame: through the
Ethernet fields, `parse_sdcp_payload`, `Tlv::read_from` and the four parsers, and the tag
verifies over its own serialisation of what it has parsed. -/
structure UnderstoodAs (blake3 : KeyedHash) (secret : Secret) (frame : Frame)
    (meaning : SdcpMeaning) (eth : EthernetPacket) (parsed : ParsedSdcpPayload) (tlv : Tlv) :
    Prop where
  /-- Ethernet header, SDCP header, TLV and footer, and nothing else. -/
  length : frame.length = 14 + sdcpHeaderSize + (2 + tlv.value.length) + securityFooterSize
  ethernet : EthernetPacket.new frame = some eth
  destination : eth.getDestination = meaning.destination
  source : eth.getSource = meaning.source
  ethertype : eth.getEthertype = ethertypeSdcp
  payload : parseSdcpPayload eth.payload = .ok parsed
  opCode : parsed.header.opCode = meaning.opCode
  transactionId : parsed.header.transactionId = meaning.transactionId
  sequenceNumber : parsed.sequenceNumber = meaning.sequenceNumber
  authTag : parsed.authTag = meaning.authTag
  readTlv : Tlv.readFrom parsed.tlvPayload = some tlv
  content : tlv.readings = meaning.content.readings
  verified : verifyHmac blake3 secret
    [serializeHeader parsed.header, parsed.tlvPayload, sequenceBytes parsed.sequenceNumber]
    parsed.authTag = true

/-- The next frame of a sender is understood by every holder of its secret. -/
theorem understoodAs_nextFrame (blake3 : KeyedHash) (handler : DiscoveryAuthHandler)
    (source destination : MacAddr) (opCode : SdcpOpCode) (transactionId : UInt16)
    (content : TlvContent) :
    ∃ eth parsed,
      UnderstoodAs blake3 handler.sharedSecret
        (handler.nextFrame blake3 source destination (.new opCode transactionId)
          content.toTlv.bytes)
        { destination := destination
          source := source
          opCode := opCode
          transactionId := transactionId
          content := content
          sequenceNumber :=
            (handler.nextFooter blake3 source (.new opCode transactionId)
              content.toTlv.bytes).sequenceNumber
          authTag :=
            (handler.nextFooter blake3 source (.new opCode transactionId)
              content.toTlv.bytes).authTag }
        eth parsed content.toTlv := by
  -- the footer stays a name, or the fields below unfold the hash
  obtain ⟨footer, hfooter⟩ : ∃ footer, footer =
    handler.nextFooter blake3 source (.new opCode transactionId) content.toTlv.bytes := ⟨_, rfl⟩
  -- the Ethernet layer takes off what it has put on
  obtain ⟨eth, hnew, hdst, hsrc, htype, hpayload⟩ := EthernetPacket.new_ethernetFrame destination
    source ethertypeSdcp ((SdcpHeader.new opCode transactionId).bytes ++ content.toTlv.bytes ++
      footer.bytes)
  refine ⟨eth, ⟨.new opCode transactionId, content.toTlv.bytes, footer.sequenceNumber,
    footer.authTag⟩, ?_⟩
  rw [DiscoveryAuthHandler.nextFrame, ← hfooter]
  exact
    { length := by
        rw [length_sdcpFrame, Tlv.length_bytes]
        simp only [sdcpHeaderSize, securityFooterSize, authTagSize]
        omega
      ethernet := hnew
      destination := hdst
      source := hsrc
      ethertype := htype
      -- the payload splits at the fixed sizes of header and footer
      payload := by rw [hpayload, parseSdcpPayload_layout]
      opCode := rfl
      transactionId := rfl
      sequenceNumber := rfl
      authTag := rfl
      readTlv := content.readFrom_toTlv
      content := content.readings_toTlv
      verified := by
        rw [DiscoveryAuthHandler.verifyHmac_iff_authentic, hfooter]
        rfl }

/-! ## The senders -/

/-- **A message means the same to both parties.** The frames of `build_request_frame` and
`send_response` are read as what was put into them, for every operation, transaction,
address and TLV; number and tag are those of `create_auth_tag`. -/
theorem messages_mean_the_same (blake3 : KeyedHash) (destination source : MacAddr)
    (opCode : SdcpOpCode) (transactionId : UInt16) (content : TlvContent) :
    (∀ master : DiscoveryMaster, master.interfaceMac = some source →
      ∃ frame seq tag after eth parsed,
        (master.authHandler.addNewDevice source).createAuthTag blake3 source
          (.new opCode transactionId) content.toTlv.bytes = some ((seq, tag), after) ∧
        master.buildRequestFrame blake3 destination opCode transactionId (some content.toTlv)
          = (.ok frame, { master with authHandler := after }) ∧
        UnderstoodAs blake3 master.authHandler.sharedSecret frame
          ⟨destination, source, opCode, transactionId, content, seq, tag⟩
          eth parsed content.toTlv) ∧
    (∀ slave : SlaveNode, slave.interfaceMac = source →
      ∃ frame seq tag after eth parsed,
        (slave.authHandler.addNewDevice source).createAuthTag blake3 source
          (.new opCode transactionId) content.toTlv.bytes = some ((seq, tag), after) ∧
        slave.sendResponse blake3 destination opCode transactionId content.toTlv
          = ({ slave with authHandler := after }, [.sendTo frame]) ∧
        UnderstoodAs blake3 slave.authHandler.sharedSecret frame
          ⟨destination, source, opCode, transactionId, content, seq, tag⟩
          eth parsed content.toTlv) := by
  constructor
  · intro master hmac
    obtain ⟨eth, parsed, hunderstood⟩ := understoodAs_nextFrame blake3 master.authHandler source
      destination opCode transactionId content
    -- building registers the own address first, which leaves the tag as it is
    refine ⟨_, _, _, _, eth, parsed,
      DiscoveryAuthHandler.createAuthTag_addNewDevice blake3 _ _ _ _, ?_, hunderstood⟩
    have hbuilt : ∀ tlv ∈ some content.toTlv, BuiltTlv tlv := by
      intro tlv htlv
      cases htlv
      exact content.builtTlv
    rw [DiscoveryMaster.buildRequestFrame_eq blake3 hmac destination opCode transactionId hbuilt]
    rfl
  -- the slave signs under the address of its interface
  · intro slave hmac
    subst hmac
    obtain ⟨eth, parsed, hunderstood⟩ := understoodAs_nextFrame blake3 slave.authHandler
      slave.interfaceMac destination opCode transactionId content
    refine ⟨_, _, _, _, eth, parsed,
      DiscoveryAuthHandler.createAuthTag_addNewDevice blake3 _ _ _ _, ?_, hunderstood⟩
    rw [SlaveNode.sendResponse_eq blake3 slave destination opCode transactionId content.builtTlv]
    rfl

/-- A SetIpReq, from the master's frame to the configuration. -/
theorem messages_mean_the_same_setIpReq :
    ∃ frame seq tag eth parsed,
      ((DiscoveryMaster.new (some ⟨2, 0, 0, 0, 0, 1⟩) .new zeroSecret).buildRequestFrame
        checksumHash broadcastMac .setIpReq 7 (some (Tlv.ipConfig (.new 10 0 0 5)
          (.new 255 255 255 0) (.new 10 0 0 1)))).1 = .ok frame ∧
      UnderstoodAs checksumHash zeroSecret frame
        ⟨broadcastMac, ⟨2, 0, 0, 0, 0, 1⟩, .setIpReq, 7,
          .ipConfig ⟨.new 10 0 0 5, .new 255 255 255 0, .new 10 0 0 1⟩, seq, tag⟩
        eth parsed (.ipConfig (.new 10 0 0 5) (.new 255 255 255 0) (.new 10 0 0 1)) := by
  obtain ⟨frame, seq, tag, after, eth, parsed, -, hframe, hunderstood⟩ :=
    (messages_mean_the_same checksumHash broadcastMac ⟨2, 0, 0, 0, 0, 1⟩ .setIpReq 7
      (.ipConfig ⟨.new 10 0 0 5, .new 255 255 255 0, .new 10 0 0 1⟩)).1
      (.new (some ⟨2, 0, 0, 0, 0, 1⟩) .new zeroSecret) rfl
  exact ⟨frame, seq, tag, eth, parsed, congrArg Prod.fst hframe, hunderstood⟩

end TsnFieldbus
