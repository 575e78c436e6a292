import TsnFieldbus.Common.SdcpFrames
import TsnFieldbus.Common.StateMachine

/-!
# Slave Discovery Listener

`slave/discovery.rs`: the listener loop, the packet handler and the three request handlers.
The Ethernet frame reaches the handlers for its source address only, so they take that
address. What the code does outside the node is returned as a list of `SlaveEffect`s; what
the hardware answers is an argument.

- `requestAction`: what a handler decides before it sends anything.
- `handlePacket_rejected`, `handlePacket_accepted`: the packet handler in terms of it.
-/

namespace TsnFieldbus

/-- The device behind a listener. A missing interface address panics in the source; here
the address is always there. -/
structure SlaveNode where
  interfaceMac : MacAddr
  stateManager : DeviceStateManager
  deviceInfo : DeviceInfo
  authHandler : DiscoveryAuthHandler

/-- The answers of the hardware during one packet. A failed write also says what the device
stores afterwards. -/
structure HardwareResponse where
  readDeviceInfo : Except HardwareError Unit
  applyIpConfig : Except HardwareError Unit
  writeDeviceInfo : Except (HardwareError × DeviceInfo) Unit

/-- An action of a handler outside the node. -/
inductive SlaveEffect where
  | applyIpConfig (config : IpConfig) (succeeded : Bool)
  | writeDeviceInfo (info : DeviceInfo) (succeeded : Bool)
  | sendTo (frame : Frame)
deriving DecidableEq

/-- `default_device_info`. -/
def defaultDeviceInfo : DeviceInfo :=
  { macAddress := [0, 0, 0, 0, 0, 0]
    ipAddress := [0, 0, 0, 0]
    ipSource := IpSource.unspecified.toI32
    netmask := [255, 255, 255, 0]
    gateway := [0, 0, 0, 0]
    vendorId := 0
    deviceId := 0
    serialNumber := 0
    firmwareVersion := 0
    capabilities := 0 }

/-- `as_slice().try_into().unwrap_or(default)`. -/
def Ipv4.ofSliceOr (bytes : List UInt8) (default : Ipv4) : Ipv4 :=
  if h : bytes.length = 4 then ⟨bytes, h⟩ else default

namespace SlaveNode

variable (blake3 : KeyedHash)

/-- `DeviceInfoAccess::read_device_info`. -/
def readDeviceInfo (node : SlaveNode) (hw : HardwareResponse) :
    Except HardwareError DeviceInfo :=
  match hw.readDeviceInfo with
  | .ok () => .ok node.deviceInfo
  | .error code => .error code

/-- `send_response`. -/
def sendResponse (node : SlaveNode) (targetMac : MacAddr) (opCode : SdcpOpCode)
    (transactionId : UInt16) (payloadTlv : Tlv) : SlaveNode × List SlaveEffect :=
  let requiredBufferSize := 14 + 5 + payloadTlv.length.toNat + 2 + securityFooterSize
  let buffer := List.replicate requiredBufferSize (0 : UInt8)
  let eth := MutableEthernetPacket.setDestination buffer targetMac
  let eth := MutableEthernetPacket.setSource eth node.interfaceMac
  let eth := MutableEthernetPacket.setEthertype eth ethertypeSdcp
  let header := SdcpHeader.new opCode transactionId
  let payloadBuffer := header.writeTo []
  let tlvPayload := payloadTlv.writeTo []
  let payloadBuffer := payloadBuffer ++ tlvPayload
  let sourceMac := node.interfaceMac
  let handler :=
    if node.authHandler.hasDevice sourceMac then node.authHandler
    else node.authHandler.addNewDevice sourceMac
  match handler.createAuthTag blake3 sourceMac header tlvPayload with
  | none => ({ node with authHandler := handler }, [])
  | some ((sequenceNumber, authTag), handler) =>
    let payloadBuffer := appendSdcpFooter payloadBuffer
      { sequenceNumber := sequenceNumber, authTag := authTag }
    let eth := MutableEthernetPacket.setPayload eth payloadBuffer
    ({ node with authHandler := handler }, [.sendTo eth])

/-- `send_status_response`. -/
def sendStatusResponse (node : SlaveNode) (sourceMac : MacAddr) (opCode : SdcpOpCode)
    (transactionId : UInt16) (code : StatusCode) : SlaveNode × List SlaveEffect :=
  let statusTlv := Tlv.statusReport code
  node.sendResponse blake3 sourceMac opCode transactionId statusTlv

/-- `handle_get_ip_request`. -/
def handleGetIpRequest (node : SlaveNode) (header : SdcpHeader) (sourceMac : MacAddr)
    (hw : HardwareResponse) : SlaveNode × List SlaveEffect :=
  match node.readDeviceInfo hw with
  | .error code =>
    node.sendStatusResponse blake3 sourceMac .getIpRes header.transactionId code.val
  | .ok deviceInfo =>
    let ip := Ipv4.ofSliceOr deviceInfo.ipAddress ⟨[0, 0, 0, 0], rfl⟩
    let netmask := Ipv4.ofSliceOr deviceInfo.netmask ⟨[255, 255, 255, 0], rfl⟩
    let gateway := Ipv4.ofSliceOr deviceInfo.gateway ⟨[0, 0, 0, 0], rfl⟩
    let ipSource := (IpSource.tryFrom deviceInfo.ipSource).getD .unspecified
    let tlv := Tlv.ipReport ip netmask gateway ipSource
    node.sendResponse blake3 sourceMac .getIpRes header.transactionId tlv

/-- `handle_set_ip_request`. -/
def handleSetIpRequest (node : SlaveNode) (header : SdcpHeader) (tlvPayload : List UInt8)
    (sourceMac : MacAddr) (hw : HardwareResponse) : SlaveNode × List SlaveEffect :=
  if tlvPayload.isEmpty then (node, [])
  else
    match Tlv.readFrom tlvPayload with
    | none => (node, [])
    | some tlv =>
      match tlv.parseIpConfig with
      | none => (node, [])
      | some ipConfig =>
        match hw.applyIpConfig with
        | .error _ =>
          let (node, sent) := node.sendStatusResponse blake3 sourceMac .setIpRes
            header.transactionId .errHardwareAccess
          (node, .applyIpConfig ipConfig false :: sent)
        | .ok () =>
          match node.readDeviceInfo hw with
          | .error code =>
            let (node, sent) := node.sendStatusResponse blake3 sourceMac .setIpRes
              header.transactionId code.val
            (node, .applyIpConfig ipConfig true :: sent)
          | .ok deviceInfo =>
            let deviceInfo :=
              { deviceInfo with
                ipAddress := ipConfig.ip.toList
                netmask := ipConfig.netmask.toList
                gateway := ipConfig.gateway.toList }
            match hw.writeDeviceInfo with
            | .error (code, stored) =>
              let node := { node with deviceInfo := stored }
              let (node, sent) := node.sendStatusResponse blake3 sourceMac .setIpRes
                header.transactionId code.val
              (node, .applyIpConfig ipConfig true :: .writeDeviceInfo deviceInfo false :: sent)
            | .ok () =>
              let node := { node with deviceInfo := deviceInfo }
              let (node, sent) := node.sendStatusResponse blake3 sourceMac .setIpRes
                header.transactionId .noError
              let node := { node with stateManager := node.stateManager.trySetTargetState .preOp }
              (node, .applyIpConfig ipConfig true :: .writeDeviceInfo deviceInfo true :: sent)

/-- `handle_discovery_request`. -/
def handleDiscoveryRequest (node : SlaveNode) (header : SdcpHeader) (sourceMac : MacAddr)
    (hw : HardwareResponse) : SlaveNode × List SlaveEffect :=
  let deviceInfo :=
    match node.readDeviceInfo hw with
    | .ok info => info
    | .error _ => defaultDeviceInfo
  let tlv := Tlv.deviceInfo deviceInfo.vendorId.toUInt16 deviceInfo.deviceId.toUInt16
    deviceInfo.serialNumber
  node.sendResponse blake3 sourceMac .discoverRes header.transactionId tlv

/-- The dispatch of `handle_packet` on the operation code. -/
def dispatchRequest (node : SlaveNode) (parsed : ParsedSdcpPayload) (sourceMac : MacAddr)
    (hw : HardwareResponse) : SlaveNode × List SlaveEffect :=
  match parsed.header.opCode with
  | .discoverReq => node.handleDiscoveryRequest blake3 parsed.header sourceMac hw
  | .setIpReq => node.handleSetIpRequest blake3 parsed.header parsed.tlvPayload sourceMac hw
  | .getIpReq => node.handleGetIpRequest blake3 parsed.header sourceMac hw
  | _ => (node, [])

/-- `handle_packet`. -/
def handlePacket (node : SlaveNode) (parsed : ParsedSdcpPayload) (sourceMac : MacAddr)
    (hw : HardwareResponse) : SlaveNode × List SlaveEffect :=
  match node.authHandler.validateAuthTag blake3 sourceMac parsed.header parsed.tlvPayload
    parsed.sequenceNumber parsed.authTag with
  | (false, handler) => ({ node with authHandler := handler }, [])
  | (true, handler) =>
    ({ node with authHandler := handler }).dispatchRequest blake3 parsed sourceMac hw

/-- The listener loop on a received frame. -/
def receiveFrame (node : SlaveNode) (frame : Frame) (hw : HardwareResponse) :
    SlaveNode × List SlaveEffect :=
  match frame.sdcpMessage with
  | none => (node, [])
  | some message => node.handlePacket blake3 message.parsed message.source hw

end SlaveNode

/-! ## Summary of the handlers -/

/-- What a request handler has done and decided before it sends its response. -/
structure RequestAction where
  /-- The hardware accesses, in order. -/
  effects : List SlaveEffect
  /-- The stored device info afterwards. -/
  deviceInfo : DeviceInfo
  /-- Operation code and TLV of the response. -/
  response : Option (SdcpOpCode × Tlv)
  /-- The configuration was applied and stored, and the device leaves DiscoverySync. -/
  configured : Bool

namespace SlaveNode

variable (blake3 : KeyedHash)

/-- The device info with the addresses of a configuration. -/
def configuredInfo (node : SlaveNode) (config : IpConfig) : DeviceInfo :=
  { node.deviceInfo with
    ipAddress := config.ip.toList
    netmask := config.netmask.toList
    gateway := config.gateway.toList }

/-- The action on a request for the configuration `config`. -/
def setIpAction (node : SlaveNode) (hw : HardwareResponse) (config : IpConfig) :
    RequestAction :=
  match hw.applyIpConfig, hw.readDeviceInfo, hw.writeDeviceInfo with
  | .error _, _, _ =>
    ⟨[.applyIpConfig config false], node.deviceInfo,
      some (.setIpRes, .statusReport .errHardwareAccess), false⟩
  | .ok (), .error code, _ =>
    ⟨[.applyIpConfig config true], node.deviceInfo,
      some (.setIpRes, .statusReport code.val), false⟩
  | .ok (), .ok (), .error (code, stored) =>
    ⟨[.applyIpConfig config true, .writeDeviceInfo (node.configuredInfo config) false], stored,
      some (.setIpRes, .statusReport code.val), false⟩
  | .ok (), .ok (), .ok () =>
    ⟨[.applyIpConfig config true, .writeDeviceInfo (node.configuredInfo config) true],
      node.configuredInfo config, some (.setIpRes, .statusReport .noError), true⟩

/-- The configuration a SetIpReq asks for, when its payload holds one. -/
def requestedConfig (tlvPayload : List UInt8) : Option IpConfig :=
  (Tlv.readFrom tlvPayload).bind Tlv.parseIpConfig

/-- The TLV that answers a DiscoverReq. -/
def deviceInfoTlv (node : SlaveNode) (hw : HardwareResponse) : Tlv :=
  let deviceInfo :=
    match node.readDeviceInfo hw with
    | .ok info => info
    | .error _ => defaultDeviceInfo
  .deviceInfo deviceInfo.vendorId.toUInt16 deviceInfo.deviceId.toUInt16 deviceInfo.serialNumber

/-- The TLV that answers a GetIpReq. -/
def ipReportTlv (node : SlaveNode) (hw : HardwareResponse) : Tlv :=
  match node.readDeviceInfo hw with
  | .error code => .statusReport code.val
  | .ok info =>
    .ipReport (Ipv4.ofSliceOr info.ipAddress ⟨[0, 0, 0, 0], rfl⟩)
      (Ipv4.ofSliceOr info.netmask ⟨[255, 255, 255, 0], rfl⟩)
      (Ipv4.ofSliceOr info.gateway ⟨[0, 0, 0, 0], rfl⟩)
      ((IpSource.tryFrom info.ipSource).getD .unspecified)

/-- The action on an authenticated message. -/
def requestAction (node : SlaveNode) (parsed : ParsedSdcpPayload) (hw : HardwareResponse) :
    RequestAction :=
  match parsed.header.opCode with
  | .discoverReq => ⟨[], node.deviceInfo, some (.discoverRes, node.deviceInfoTlv hw), false⟩
  | .getIpReq => ⟨[], node.deviceInfo, some (.getIpRes, node.ipReportTlv hw), false⟩
  | .setIpReq =>
    match requestedConfig parsed.tlvPayload with
    | none => ⟨[], node.deviceInfo, none, false⟩
    | some config => node.setIpAction hw config
  | _ => ⟨[], node.deviceInfo, none, false⟩

/-- The frame of the node's next response. -/
def nextResponse (node : SlaveNode) (targetMac : MacAddr) (opCode : SdcpOpCode)
    (transactionId : UInt16) (tlv : Tlv) : Frame :=
  node.authHandler.nextFrame blake3 node.interfaceMac targetMac (.new opCode transactionId)
    tlv.bytes

/-- `send_response` sends the next frame and advances the node's own counter. -/
theorem sendResponse_eq (node : SlaveNode) (targetMac : MacAddr) (opCode : SdcpOpCode)
    (transactionId : UInt16) {tlv : Tlv} (h : BuiltTlv tlv) :
    node.sendResponse blake3 targetMac opCode transactionId tlv =
      ({ node with authHandler := node.authHandler.afterSend node.interfaceMac },
        [.sendTo (node.nextResponse blake3 targetMac opCode transactionId tlv)]) := by
  obtain ⟨hlen, -, -⟩ := h.length_spec
  have hsize : 14 + 5 + tlv.length.toNat + 2 + securityFooterSize
      = 14 + 5 + tlv.bytes.length + securityFooterSize := by
    rw [hlen, Tlv.length_bytes]
    omega
  simp only [sendResponse, DiscoveryAuthHandler.ite_hasDevice_addNewDevice, SdcpHeader.writeTo_nil,
    Tlv.writeTo_nil, DiscoveryAuthHandler.createAuthTag_addNewDevice, appendSdcpFooter,
    SecurityFooter.writeTo_eq]
  exact congrArg (fun frame => (({ node with
    authHandler := node.authHandler.afterSend node.interfaceMac } : SlaveNode),
    [SlaveEffect.sendTo frame])) (fillBuffer_eq_sdcpFrame targetMac node.interfaceMac
      (.new opCode transactionId) tlv.bytes _ hsize)

/-- The node after an action, with the frames the action makes it send. -/
def perform (node : SlaveNode) (parsed : ParsedSdcpPayload) (sourceMac : MacAddr)
    (action : RequestAction) : SlaveNode × List SlaveEffect :=
  let manager :=
    if action.configured then node.stateManager.trySetTargetState .preOp else node.stateManager
  match action.response with
  | none => ({ node with deviceInfo := action.deviceInfo, stateManager := manager },
      action.effects)
  | some (opCode, tlv) =>
    ({ node with
        deviceInfo := action.deviceInfo
        stateManager := manager
        authHandler := node.authHandler.afterSend node.interfaceMac },
      action.effects ++
        [.sendTo (node.nextResponse blake3 sourceMac opCode parsed.header.transactionId tlv)])

theorem builtTlv_ipReportTlv (node : SlaveNode) (hw : HardwareResponse) :
    BuiltTlv (node.ipReportTlv hw) := by
  unfold ipReportTlv
  split
  · exact .statusReport _
  · exact .ipReport _ _ _ _

/-- Every response carries a constructed TLV and a response code. -/
theorem requestAction_response {node : SlaveNode} {parsed : ParsedSdcpPayload}
    {hw : HardwareResponse} {opCode : SdcpOpCode} {tlv : Tlv}
    (h : (node.requestAction parsed hw).response = some (opCode, tlv)) :
    BuiltTlv tlv ∧
      ((parsed.header.opCode = .discoverReq ∧ opCode = .discoverRes ∧
          tlv = node.deviceInfoTlv hw) ∨
        (parsed.header.opCode = .getIpReq ∧ opCode = .getIpRes) ∨
        (parsed.header.opCode = .setIpReq ∧ opCode = .setIpRes)) := by
  unfold requestAction at h
  split at h <;> rename_i hop
  · cases h
    exact ⟨.deviceInfo _ _ _, .inl ⟨hop, rfl, rfl⟩⟩
  · cases h
    exact ⟨builtTlv_ipReportTlv node hw, .inr (.inl ⟨hop, rfl⟩)⟩
  · split at h
    · cases h
    · unfold setIpAction at h
      split at h <;> cases h <;> exact ⟨.statusReport _, .inr (.inr ⟨hop, rfl⟩)⟩
  · cases h

/-- `handle_set_ip_request` performs its action. -/
theorem handleSetIpRequest_eq (node : SlaveNode) (parsed : ParsedSdcpPayload)
    (sourceMac : MacAddr) (hw : HardwareResponse) (hop : parsed.header.opCode = .setIpReq) :
    node.handleSetIpRequest blake3 parsed.header parsed.tlvPayload sourceMac hw =
      node.perform blake3 parsed sourceMac (node.requestAction parsed hw) := by
  unfold handleSetIpRequest requestAction requestedConfig
  rw [hop]
  cases htlv : parsed.tlvPayload with
  -- an empty payload is dropped without an answer
  | nil => rfl
  | cons b bs =>
    simp only [List.isEmpty_cons, Bool.false_eq_true, if_false]
    cases hread : Tlv.readFrom (b :: bs) with
    -- so is one that does not parse
    | none => rfl
    | some tlv =>
      simp only [Option.bind_some]
      cases hconfig : tlv.parseIpConfig with
      | none => rfl
      | some config =>
        simp only [setIpAction, readDeviceInfo, sendStatusResponse]
        -- each hardware call that fails ends the handler with a status report
        rcases hw.applyIpConfig with code | ok
        · simp only [sendResponse_eq blake3 _ _ _ _ (.statusReport _)]
          rfl
        · rcases hw.readDeviceInfo with code | ok
          · simp only [sendResponse_eq blake3 _ _ _ _ (.statusReport _)]
            rfl
          · rcases hw.writeDeviceInfo with ⟨code, stored⟩ | ok
            · simp only [sendResponse_eq blake3 _ _ _ _ (.statusReport _)]
              rfl
            · simp only [sendResponse_eq blake3 _ _ _ _ (.statusReport _)]
              rfl

/-- The dispatch performs the request's action. -/
theorem dispatchRequest_eq (node : SlaveNode) (parsed : ParsedSdcpPayload) (sourceMac : MacAddr)
    (hw : HardwareResponse) : node.dispatchRequest blake3 parsed sourceMac hw =
      node.perform blake3 parsed sourceMac (node.requestAction parsed hw) := by
  cases hop : parsed.header.opCode with
  | discoverReq =>
    simp only [dispatchRequest, requestAction, hop, handleDiscoveryRequest]
    exact sendResponse_eq blake3 node _ _ _ (.deviceInfo _ _ _)
  | setIpReq =>
    simp only [dispatchRequest, hop]
    exact handleSetIpRequest_eq blake3 node parsed sourceMac hw hop
  | getIpReq =>
    simp only [dispatchRequest, requestAction, hop, handleGetIpRequest, ipReportTlv]
    cases node.readDeviceInfo hw with
    | error code => exact sendResponse_eq blake3 node _ _ _ (.statusReport _)
    | ok info => exact sendResponse_eq blake3 node _ _ _ (.ipReport _ _ _ _)
  | discoverRes | setIpRes | getIpRes | activateDhcpReq | activateDhcpRes | unknownOperation =>
    simp only [dispatchRequest, requestAction, hop]
    rfl

/-- The message passes the node's authentication. -/
def Accepts (node : SlaveNode) (parsed : ParsedSdcpPayload) (sourceMac : MacAddr) : Prop :=
  node.authHandler.Fresh sourceMac parsed.sequenceNumber ∧
    node.authHandler.Authentic blake3 parsed.header parsed.tlvPayload parsed.sequenceNumber
      parsed.authTag

instance (node : SlaveNode) (parsed : ParsedSdcpPayload) (sourceMac : MacAddr) :
    Decidable (node.Accepts blake3 parsed sourceMac) :=
  inferInstanceAs (Decidable (_ ∧ _))

/-- The node with the mark of a source raised to the message's number. -/
def raiseMark (node : SlaveNode) (sourceMac : MacAddr) (sequenceNumber : UInt64) : SlaveNode :=
  { node with authHandler := node.authHandler.raiseMark sourceMac sequenceNumber }

@[simp] theorem interfaceMac_raiseMark (node : SlaveNode) (sourceMac : MacAddr) (seq : UInt64) :
    (node.raiseMark sourceMac seq).interfaceMac = node.interfaceMac := rfl

@[simp] theorem authHandler_raiseMark (node : SlaveNode) (sourceMac : MacAddr) (seq : UInt64) :
    (node.raiseMark sourceMac seq).authHandler = node.authHandler.raiseMark sourceMac seq := rfl

/-- A rejected packet has no effect at all. -/
theorem handlePacket_rejected {node : SlaveNode} {parsed : ParsedSdcpPayload}
    {sourceMac : MacAddr} (h : ¬ node.Accepts blake3 parsed sourceMac) (hw : HardwareResponse) :
    node.handlePacket blake3 parsed sourceMac hw = (node, []) := by
  rcases DiscoveryAuthHandler.validateAuthTag_cases blake3 node.authHandler sourceMac
    parsed.header parsed.tlvPayload parsed.sequenceNumber parsed.authTag with
    ⟨-, heq⟩ | ⟨hfresh, hauth, -⟩
  · simp only [handlePacket, heq]
  · exact absurd ⟨hfresh, hauth⟩ h

/-- An accepted packet raises the mark of its source and performs the request's action. -/
theorem handlePacket_accepted {node : SlaveNode} {parsed : ParsedSdcpPayload}
    {sourceMac : MacAddr} (h : node.Accepts blake3 parsed sourceMac) (hw : HardwareResponse) :
    node.handlePacket blake3 parsed sourceMac hw =
      (node.raiseMark sourceMac parsed.sequenceNumber).perform blake3 parsed sourceMac
        (node.requestAction parsed hw) := by
  rcases DiscoveryAuthHandler.validateAuthTag_cases blake3 node.authHandler sourceMac
    parsed.header parsed.tlvPayload parsed.sequenceNumber parsed.authTag with
    ⟨hno, -⟩ | ⟨-, -, heq⟩
  · exact absurd h hno
  · simp only [handlePacket, heq]
    exact dispatchRequest_eq blake3 (node.raiseMark sourceMac parsed.sequenceNumber) parsed
      sourceMac hw

end SlaveNode

end TsnFieldbus
