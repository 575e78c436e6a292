import TsnFieldbus.Common.SdcpFrames
import TsnFieldbus.Common.StateMachine

/-!
# Discovery Master

`master/discovery.rs`: request frames, the two receive loops and the three blocking calls.
A call is cut where the source waits: `discoverDevices`, `getIpConfig` and `setIpConfig` run
up to their loop, `discoverFrame` and `responseFrame` are the loop bodies on a received
frame, and the `MasterPhase` says in which loop the master is. Timeouts are moves of the
environment.

- `buildRequestFrame_eq`: the frame and what building it does.
- `processDiscoverFrame_cases`, `responseFrame_cases`: when a received frame counts.
-/

namespace TsnFieldbus

/-- `BROADCAST_MAC`. -/
def broadcastMac : MacAddr := ⟨0xFF, 0xFF, 0xFF, 0xFF, 0xFF, 0xFF⟩

/-- Master-side SDCP discovery controller. -/
structure DiscoveryMaster where
  interfaceMac : Option MacAddr
  stateManager : DeviceStateManager
  discoveredDevices : HashMap MacAddr DiscoveredDevice
  transactionCounter : UInt16
  authHandler : DiscoveryAuthHandler

/-- A blocking call of the master. -/
inductive MasterCall where
  | discoverDevices
  | getIpConfig (targetMac : MacAddr)
  | setIpConfig (targetMac : MacAddr) (config : IpConfig)
deriving DecidableEq

/-- What a call returns; the payload of `discovered` is the vector of new devices. -/
inductive MasterResult where
  | discovered (devices : List DiscoveredDevice)
  | ipReport (report : IpReport)
  | ipConfigSet
  | failed (code : StatusCode)
deriving DecidableEq

/-- Where the master's thread is. -/
inductive MasterPhase where
  | idle
  /-- In the loop of `discover_devices`. -/
  | discovering (transactionId : UInt16) (newlyDiscovered : List DiscoveredDevice)
  /-- In `wait_for_response`, called by `call`. -/
  | waiting (call : MasterCall) (transactionId : UInt16)
  /-- The last call has returned. -/
  | returned (call : MasterCall) (result : MasterResult)
deriving DecidableEq

namespace DiscoveryMaster

variable (blake3 : KeyedHash)

/-- `DiscoveryMaster::new` on an interface that exists. -/
def new (interfaceMac : Option MacAddr) (stateManager : DeviceStateManager)
    (sharedSecret : Secret) : DiscoveryMaster :=
  { interfaceMac := interfaceMac
    stateManager := stateManager
    discoveredDevices := ∅
    transactionCounter := 1
    authHandler := (DiscoveryAuthHandler.new sharedSecret).addNewDevice broadcastMac }

/-- `next_transaction_id`: `fetch_add` returns the old value and wraps around. -/
def nextTransactionId (master : DiscoveryMaster) : UInt16 × DiscoveryMaster :=
  (master.transactionCounter,
    { master with transactionCounter := master.transactionCounter + 1 })

/-- `clear_discovered_devices`. -/
def clearDiscoveredDevices (master : DiscoveryMaster) : DiscoveryMaster :=
  { master with discoveredDevices := ∅ }

/-- The TLV payload of a request. -/
def tlvBytes (payloadTlv : Option Tlv) : List UInt8 :=
  match payloadTlv with
  | none => []
  | some tlv => tlv.writeTo []

/-- `build_request_frame`. -/
def buildRequestFrame (master : DiscoveryMaster) (destination : MacAddr) (opCode : SdcpOpCode)
    (transactionId : UInt16) (payloadTlv : Option Tlv) :
    Except StatusCode Frame × DiscoveryMaster :=
  let tlvSize :=
    match payloadTlv with
    | none => 0
    | some tlv => 2 + tlv.length.toNat
  let bufferSize := 14 + 5 + tlvSize + securityFooterSize
  let buffer := List.replicate bufferSize (0 : UInt8)
  let ethPacket := MutableEthernetPacket.setDestination buffer destination
  match master.interfaceMac with
  | none => (.error .errSocketChannel, master)
  | some sourceMac =>
    let ethPacket := MutableEthernetPacket.setSource ethPacket sourceMac
    let ethPacket := MutableEthernetPacket.setEthertype ethPacket ethertypeSdcp
    let header := SdcpHeader.new opCode transactionId
    let payload := header.writeTo []
    let tlvPayload := tlvBytes payloadTlv
    let payload := payload ++ tlvPayload
    let handler :=
      if master.authHandler.hasDevice sourceMac then master.authHandler
      else master.authHandler.addNewDevice sourceMac
    match handler.createAuthTag blake3 sourceMac header tlvPayload with
    | none => (.error .errAuthFailed, { master with authHandler := handler })
    | some ((sequenceNumber, authTag), handler) =>
      let payload := appendSdcpFooter payload
        { sequenceNumber := sequenceNumber, authTag := authTag }
      (.ok (MutableEthernetPacket.setPayload ethPacket payload),
        { master with authHandler := handler })

/-- The common beginning of the three calls: state check, transaction id, frame, `send_frame`.
The frame counts as sent even when the transmitter reports a failure. -/
def sendRequest (master : DiscoveryMaster) (destination : MacAddr) (opCode : SdcpOpCode)
    (payloadTlv : Option Tlv) (transmitted : Bool) :
    Except StatusCode UInt16 × Option Frame × DiscoveryMaster :=
  if master.stateManager.state ≠ .discoverySync then
    (.error .errStateConflict, none, master)
  else
    let (transactionId, master) := master.nextTransactionId
    match master.buildRequestFrame blake3 destination opCode transactionId payloadTlv with
    | (.error code, master) => (.error code, none, master)
    | (.ok frame, master) =>
      if transmitted then (.ok transactionId, some frame, master)
      else (.error .errSocketChannel, some frame, master)

/-- `wait_for_response` up to its loop: the expected source gets a context. -/
def expectSource (master : DiscoveryMaster) (expectedSource : MacAddr) : DiscoveryMaster :=
  if master.authHandler.hasDevice expectedSource then master
  else { master with authHandler := master.authHandler.addNewDevice expectedSource }

/-- `discover_devices` up to its loop. -/
def discoverDevices (master : DiscoveryMaster) (transmitted : Bool) :
    MasterPhase × Option Frame × DiscoveryMaster :=
  match master.sendRequest blake3 broadcastMac .discoverReq none transmitted with
  | (.error code, frame, master) => (.returned .discoverDevices (.failed code), frame, master)
  | (.ok transactionId, frame, master) => (.discovering transactionId [], frame, master)

/-- `get_ip_config` up to its loop. -/
def getIpConfig (master : DiscoveryMaster) (targetMac : MacAddr) (transmitted : Bool) :
    MasterPhase × Option Frame × DiscoveryMaster :=
  match master.sendRequest blake3 targetMac .getIpReq none transmitted with
  | (.error code, frame, master) =>
    (.returned (.getIpConfig targetMac) (.failed code), frame, master)
  | (.ok transactionId, frame, master) =>
    (.waiting (.getIpConfig targetMac) transactionId, frame, master.expectSource targetMac)

/-- `set_ip_config` up to its loop. -/
def setIpConfig (master : DiscoveryMaster) (targetMac : MacAddr) (config : IpConfig)
    (transmitted : Bool) : MasterPhase × Option Frame × DiscoveryMaster :=
  let tlv := Tlv.ipConfig config.ip config.netmask config.gateway
  match master.sendRequest blake3 targetMac .setIpReq (some tlv) transmitted with
  | (.error code, frame, master) =>
    (.returned (.setIpConfig targetMac config) (.failed code), frame, master)
  | (.ok transactionId, frame, master) =>
    (.waiting (.setIpConfig targetMac config) transactionId, frame,
      master.expectSource targetMac)

/-- Begin a call. -/
def begin (master : DiscoveryMaster) (transmitted : Bool) :
    MasterCall → MasterPhase × Option Frame × DiscoveryMaster
  | .discoverDevices => master.discoverDevices blake3 transmitted
  | .getIpConfig targetMac => master.getIpConfig blake3 targetMac transmitted
  | .setIpConfig targetMac config => master.setIpConfig blake3 targetMac config transmitted

end DiscoveryMaster

/-! ## Received frames -/

section Receive

variable (blake3 : KeyedHash)

/-- `process_discover_frame`. -/
def processDiscoverFrame (frameData : Frame) (expectedTransactionId : UInt16)
    (handler : DiscoveryAuthHandler) : Option DiscoveredDevice × DiscoveryAuthHandler :=
  match frameData.sdcpMessage with
  | none => (none, handler)
  | some message =>
    let parsed := message.parsed
    let header := parsed.header
    if header.opCode ≠ .discoverRes ∨ header.transactionId ≠ expectedTransactionId then
      (none, handler)
    else
      let sourceMac := message.source
      let (authValid, handler) :=
        if handler.hasDevice sourceMac then
          handler.validateAuthTag blake3 sourceMac header parsed.tlvPayload
            parsed.sequenceNumber parsed.authTag
        else
          let valid := handler.validateDiscoveryResponse blake3 header parsed.tlvPayload
            parsed.sequenceNumber parsed.authTag
          if valid then
            (valid, ((handler.addNewDevice sourceMac).setLastValidReceivedSequenceNumber sourceMac
              parsed.sequenceNumber).2)
          else
            (valid, handler)
      if authValid then
        (((Tlv.readFrom parsed.tlvPayload).bind Tlv.parseDeviceInfo).map
          (DiscoveredDevice.new sourceMac), handler)
      else
        (none, handler)

/-- The loop body of `discover_devices` on a received frame. -/
def DiscoveryMaster.discoverFrame (master : DiscoveryMaster) (transactionId : UInt16)
    (newlyDiscovered : List DiscoveredDevice) (frameData : Frame) :
    List DiscoveredDevice × DiscoveryMaster :=
  match processDiscoverFrame blake3 frameData transactionId master.authHandler with
  | (none, handler) => (newlyDiscovered, { master with authHandler := handler })
  | (some device, handler) =>
    let mac := device.macAddress
    let isNew := (master.discoveredDevices.lookup mac).isNone
    (if isNew then newlyDiscovered ++ [device] else newlyDiscovered,
      { master with
        authHandler := handler
        discoveredDevices := master.discoveredDevices.insert mac device })

/-- The loop body of `wait_for_response` on a received frame: the response's TLV payload. -/
def responseFrame (handler : DiscoveryAuthHandler) (expectedSource : MacAddr)
    (expectedOpcode : SdcpOpCode) (expectedTransactionId : UInt16) (data : Frame) :
    Option (List UInt8) × DiscoveryAuthHandler :=
  match data.sdcpMessage with
  | none => (none, handler)
  | some message =>
    let parsed := message.parsed
    if message.source ≠ expectedSource then (none, handler)
    else if parsed.header.opCode = expectedOpcode ∧
        parsed.header.transactionId = expectedTransactionId then
      match handler.validateAuthTag blake3 expectedSource parsed.header parsed.tlvPayload
        parsed.sequenceNumber parsed.authTag with
      | (true, handler) => (some parsed.tlvPayload, handler)
      | (false, handler) => (none, handler)
    else (none, handler)

/-- What `get_ip_config` makes of a response. -/
def ipReportResult (tlvPayload : List UInt8) : MasterResult :=
  match (Tlv.readFrom tlvPayload).bind Tlv.parseIpReport with
  | some report => .ipReport report
  | none => .failed .errInvalidResponse

/-- What `set_ip_config` makes of a response. -/
def ipConfigResult (tlvPayload : List UInt8) : MasterResult :=
  match (Tlv.readFrom tlvPayload).bind Tlv.parseStatusReport with
  | some status => if status = .noError then .ipConfigSet else .failed .errHardwareAccess
  | none => .failed .errInvalidResponse

namespace MasterCall

/-- The source a call waits for. -/
def targetMac : MasterCall → MacAddr
  | .discoverDevices => broadcastMac
  | .getIpConfig targetMac => targetMac
  | .setIpConfig targetMac _ => targetMac

/-- The operation code a call sends. -/
def requestCode : MasterCall → SdcpOpCode
  | .discoverDevices => .discoverReq
  | .getIpConfig _ => .getIpReq
  | .setIpConfig _ _ => .setIpReq

/-- The operation code a call waits for. -/
def responseCode : MasterCall → SdcpOpCode
  | .discoverDevices => .discoverRes
  | .getIpConfig _ => .getIpRes
  | .setIpConfig _ _ => .setIpRes

/-- The TLV a call sends. -/
def requestTlv : MasterCall → Option Tlv
  | .discoverDevices | .getIpConfig _ => none
  | .setIpConfig _ config => some (.ipConfig config.ip config.netmask config.gateway)

/-- The result a call makes of its response. -/
def result : MasterCall → List UInt8 → MasterResult
  | .discoverDevices, _ => .discovered []
  | .getIpConfig _, tlvPayload => ipReportResult tlvPayload
  | .setIpConfig _ _, tlvPayload => ipConfigResult tlvPayload

end MasterCall

/-- A received frame in the phase the master is in. -/
def DiscoveryMaster.receiveFrame (master : DiscoveryMaster) (frame : Frame) :
    MasterPhase → Option (MasterPhase × DiscoveryMaster)
  | .discovering transactionId newlyDiscovered =>
    let (newlyDiscovered, master) :=
      master.discoverFrame blake3 transactionId newlyDiscovered frame
    some (.discovering transactionId newlyDiscovered, master)
  | .waiting call transactionId =>
    match responseFrame blake3 master.authHandler call.targetMac call.responseCode transactionId
      frame with
    | (none, handler) => some (.waiting call transactionId, { master with authHandler := handler })
    | (some tlvPayload, handler) =>
      some (.returned call (call.result tlvPayload), { master with authHandler := handler })
  | .idle | .returned _ _ => none

/-- The timeout of the loop the master is in. -/
def MasterPhase.timeout : MasterPhase → Option MasterPhase
  | .discovering _ newlyDiscovered =>
    some (.returned .discoverDevices (.discovered newlyDiscovered))
  | .waiting call _ => some (.returned call (.failed .errTimeout))
  | .idle | .returned _ _ => none

end Receive

/-! ## What the master does -/

namespace DiscoveryMaster

variable (blake3 : KeyedHash)

/-- The frame of a request under the master's address. -/
def requestFrame (handler : DiscoveryAuthHandler) (mac destination : MacAddr)
    (opCode : SdcpOpCode) (transactionId : UInt16) (payloadTlv : Option Tlv) : Frame :=
  handler.nextFrame blake3 mac destination (.new opCode transactionId) (tlvBytes payloadTlv)

/-- `build_request_frame` lays out the next frame and advances the master's own counter. -/
theorem buildRequestFrame_eq {master : DiscoveryMaster} {mac : MacAddr}
    (hmac : master.interfaceMac = some mac) (destination : MacAddr) (opCode : SdcpOpCode)
    (transactionId : UInt16) {payloadTlv : Option Tlv} (h : ∀ tlv ∈ payloadTlv, BuiltTlv tlv) :
    master.buildRequestFrame blake3 destination opCode transactionId payloadTlv =
      (.ok (requestFrame blake3 master.authHandler mac destination opCode transactionId payloadTlv),
        { master with authHandler := master.authHandler.afterSend mac }) := by
  -- the buffer has exactly the size of what is written into it
  have hframe : ∀ size, size = 14 + 5 + (tlvBytes payloadTlv).length + securityFooterSize →
      MutableEthernetPacket.setPayload (MutableEthernetPacket.setEthertype
        (MutableEthernetPacket.setSource (MutableEthernetPacket.setDestination
          (List.replicate size 0) destination) mac) ethertypeSdcp)
        ((SdcpHeader.new opCode transactionId).bytes ++ tlvBytes payloadTlv ++
          (master.authHandler.nextFooter blake3 mac (.new opCode transactionId)
            (tlvBytes payloadTlv)).bytes)
        = requestFrame blake3 master.authHandler mac destination opCode transactionId
            payloadTlv :=
    fun size hsize => fillBuffer_eq_sdcpFrame _ _ _ _ _ hsize
  cases payloadTlv with
  -- the code sizes the buffer by whether there is a TLV
  | none =>
    simp only [buildRequestFrame, hmac, DiscoveryAuthHandler.ite_hasDevice_addNewDevice,
      SdcpHeader.writeTo_nil, DiscoveryAuthHandler.createAuthTag_addNewDevice, appendSdcpFooter,
      SecurityFooter.writeTo_eq]
    rw [← hframe _ rfl]
    rfl
  | some tlv =>
    -- the length field of a built TLV is its length
    obtain ⟨hlen, -, -⟩ := (h tlv rfl).length_spec
    have hsize : 14 + 5 + (2 + tlv.length.toNat) + securityFooterSize
        = 14 + 5 + (tlvBytes (some tlv)).length + securityFooterSize := by
      simp only [tlvBytes, Tlv.writeTo_nil, Tlv.length_bytes, hlen]
    simp only [buildRequestFrame, hmac, DiscoveryAuthHandler.ite_hasDevice_addNewDevice,
      SdcpHeader.writeTo_nil, DiscoveryAuthHandler.createAuthTag_addNewDevice, appendSdcpFooter,
      SecurityFooter.writeTo_eq]
    rw [← hframe _ hsize]

theorem builtTlv_requestTlv (call : MasterCall) : ∀ tlv ∈ call.requestTlv, BuiltTlv tlv := by
  intro tlv htlv
  cases call with
  | discoverDevices => cases htlv
  | getIpConfig target => cases htlv
  | setIpConfig target config =>
    cases htlv
    exact .ipConfig _ _ _

/-- The master after it has sent the request of a call. -/
def afterRequest (master : DiscoveryMaster) (mac : MacAddr) (call : MasterCall)
    (transmitted : Bool) : DiscoveryMaster :=
  let handler := master.authHandler.afterSend mac
  { master with
    transactionCounter := master.transactionCounter + 1
    authHandler :=
      if transmitted ∧ call ≠ .discoverDevices then handler.addNewDevice call.targetMac
      else handler }

/-- The phase after the request of a call has been sent. -/
def phaseAfterRequest (master : DiscoveryMaster) (call : MasterCall) (transmitted : Bool) :
    MasterPhase :=
  if transmitted then
    match call with
    | .discoverDevices => .discovering master.transactionCounter []
    | call => .waiting call master.transactionCounter
  else .returned call (.failed .errSocketChannel)

theorem expectSource_eq (master : DiscoveryMaster) (mac : MacAddr) :
    master.expectSource mac =
      { master with authHandler := master.authHandler.addNewDevice mac } := by
  unfold expectSource DiscoveryAuthHandler.hasDevice DiscoveryAuthHandler.addNewDevice
  cases master.authHandler.context mac <;> rfl

/-- A call outside DiscoverySync returns the conflict and sends nothing. -/
theorem begin_of_state_ne {master : DiscoveryMaster}
    (h : master.stateManager.state ≠ .discoverySync) (transmitted : Bool) (call : MasterCall) :
    master.begin blake3 transmitted call =
      (.returned call (.failed .errStateConflict), none, master) := by
  cases call <;>
    simp only [begin, discoverDevices, getIpConfig, setIpConfig, sendRequest, if_pos h]

/-- A call in DiscoverySync sends one request with the next transaction id. -/
theorem begin_of_state_eq {master : DiscoveryMaster} {mac : MacAddr}
    (hmac : master.interfaceMac = some mac) (h : master.stateManager.state = .discoverySync)
    (transmitted : Bool) (call : MasterCall) :
    master.begin blake3 transmitted call =
      (master.phaseAfterRequest call transmitted,
        some (requestFrame blake3 master.authHandler mac call.targetMac call.requestCode
          master.transactionCounter call.requestTlv),
        master.afterRequest mac call transmitted) := by
  have hstate : ¬ master.stateManager.state ≠ .discoverySync := not_not.mpr h
  -- the transaction id is taken before the frame is built
  have hbuild := fun (destination : MacAddr) (opCode : SdcpOpCode) (transactionId : UInt16) =>
    @buildRequestFrame_eq blake3 master.nextTransactionId.2 mac hmac destination opCode
      transactionId call.requestTlv (builtTlv_requestTlv call)
  simp only [nextTransactionId] at hbuild
  cases call with
  -- three calls with the same two ends: transmitted or not
  | discoverDevices =>
    cases transmitted <;>
      simp only [begin, discoverDevices, sendRequest, if_neg hstate, nextTransactionId] <;>
      simp only [MasterCall.requestTlv] at hbuild <;>
      simp [hbuild, phaseAfterRequest, afterRequest, MasterCall.targetMac,
        MasterCall.requestCode, MasterCall.requestTlv]
  | getIpConfig target =>
    cases transmitted <;>
      simp only [begin, getIpConfig, sendRequest, if_neg hstate, nextTransactionId] <;>
      simp only [MasterCall.requestTlv] at hbuild <;>
      simp [hbuild, expectSource_eq, phaseAfterRequest, afterRequest, MasterCall.targetMac,
        MasterCall.requestCode, MasterCall.requestTlv]
  | setIpConfig target config =>
    cases transmitted <;>
      simp only [begin, setIpConfig, sendRequest, if_neg hstate, nextTransactionId] <;>
      simp only [MasterCall.requestTlv] at hbuild <;>
      simp [hbuild, expectSource_eq, phaseAfterRequest, afterRequest, MasterCall.targetMac,
        MasterCall.requestCode, MasterCall.requestTlv]

end DiscoveryMaster

/-- The message of the request that a call sends. -/
def MasterCall.requestMessage (blake3 : KeyedHash) (call : MasterCall) (master : DiscoveryMaster)
    (mac : MacAddr) : SdcpMessage :=
  let header := SdcpHeader.new call.requestCode master.transactionCounter
  let tlvPayload := DiscoveryMaster.tlvBytes call.requestTlv
  let footer := master.authHandler.nextFooter blake3 mac header tlvPayload
  ⟨mac, ⟨header, tlvPayload, footer.sequenceNumber, footer.authTag⟩⟩

theorem sdcpMessage_requestFrame (blake3 : KeyedHash) (call : MasterCall)
    (master : DiscoveryMaster) (mac : MacAddr) :
    Frame.sdcpMessage (DiscoveryMaster.requestFrame blake3 master.authHandler mac call.targetMac
      call.requestCode master.transactionCounter call.requestTlv)
      = some (call.requestMessage blake3 master mac) :=
  sdcpMessage_sdcpFrame _ _ _ _ _

/-- A sent request carries its message. -/
theorem sdcpMessage_of_begin (blake3 : KeyedHash) {master : DiscoveryMaster} {mac : MacAddr}
    (hmac : master.interfaceMac = some mac) {call : MasterCall} {transmitted : Bool}
    {frame : Frame} (hsent : (master.begin blake3 transmitted call).2.1 = some frame) :
    frame.sdcpMessage = some (call.requestMessage blake3 master mac) := by
  by_cases hstate : master.stateManager.state = .discoverySync
  · rw [DiscoveryMaster.begin_of_state_eq blake3 hmac hstate] at hsent
    cases hsent
    exact sdcpMessage_requestFrame blake3 call master mac
  · rw [DiscoveryMaster.begin_of_state_ne blake3 hstate] at hsent
    cases hsent

section ReceiveSpec

variable (blake3 : KeyedHash)

/-- The message passes the master's authentication of discovery responses: it is fresh under
a known address, or the address is unknown and the number is one. -/
def AcceptsDiscovery (handler : DiscoveryAuthHandler) (message : SdcpMessage) : Prop :=
  (handler.Fresh message.source message.parsed.sequenceNumber ∨
    handler.context message.source = none ∧ message.parsed.sequenceNumber = 1) ∧
  handler.Authentic blake3 message.parsed.header message.parsed.tlvPayload
    message.parsed.sequenceNumber message.parsed.authTag

/-- The device a discovery response announces under its source address. -/
def announcedDevice (message : SdcpMessage) : Option DiscoveredDevice :=
  ((Tlv.readFrom message.parsed.tlvPayload).bind Tlv.parseDeviceInfo).map
    (DiscoveredDevice.new message.source)

/-- The message answers a DiscoverReq with this transaction id. -/
def AnswersDiscovery (message : SdcpMessage) (transactionId : UInt16) : Prop :=
  message.parsed.header.opCode = .discoverRes ∧
    message.parsed.header.transactionId = transactionId

instance (message : SdcpMessage) (transactionId : UInt16) :
    Decidable (AnswersDiscovery message transactionId) :=
  inferInstanceAs (Decidable (_ ∧ _))

/-- Registering an unknown device with a number raises its mark from zero. -/
theorem setLastValid_addNewDevice {handler : DiscoveryAuthHandler} {mac : MacAddr}
    (h : handler.context mac = none) (seq : UInt64) :
    ((handler.addNewDevice mac).setLastValidReceivedSequenceNumber mac seq).2
      = handler.raiseMark mac seq := by
  have hctx : (handler.addNewDevice mac).context mac = some .default := by
    rw [DiscoveryAuthHandler.context_addNewDevice, h]
    rfl
  simp only [DiscoveryAuthHandler.setLastValidReceivedSequenceNumber, hctx]
  simp only [DiscoveryAuthHandler.addNewDevice, h, DiscoveryAuthHandler.raiseMark,
    DiscoveryAuthHandler.sendContext, DiscoveryAuthHandler.withContext, AList.insert_insert,
    Option.getD_none]

/-- The computation of `auth_valid` in `process_discover_frame`. -/
def DiscoveryAuthHandler.discoveryAuthValid (handler : DiscoveryAuthHandler)
    (message : SdcpMessage) : Bool × DiscoveryAuthHandler :=
  if handler.hasDevice message.source then
    handler.validateAuthTag blake3 message.source message.parsed.header message.parsed.tlvPayload
      message.parsed.sequenceNumber message.parsed.authTag
  else
    let valid := handler.validateDiscoveryResponse blake3 message.parsed.header
      message.parsed.tlvPayload message.parsed.sequenceNumber message.parsed.authTag
    if valid then
      (valid, ((handler.addNewDevice message.source).setLastValidReceivedSequenceNumber
        message.source message.parsed.sequenceNumber).2)
    else
      (valid, handler)

/-- A message fails the check without effect, or it passes and raises the mark of its source. -/
theorem discoveryAuthValid_cases (handler : DiscoveryAuthHandler) (message : SdcpMessage) :
    (¬ AcceptsDiscovery blake3 handler message ∧
      handler.discoveryAuthValid blake3 message = (false, handler)) ∨
    (AcceptsDiscovery blake3 handler message ∧
      handler.discoveryAuthValid blake3 message =
        (true, handler.raiseMark message.source message.parsed.sequenceNumber)) := by
  unfold DiscoveryAuthHandler.discoveryAuthValid
  cases hctx : handler.context message.source with
  | some ctx =>
    -- a known address: the ordinary tag validation decides
    have hknown : handler.hasDevice message.source = true := by
      simp [hctx]
    rw [if_pos hknown]
    rcases DiscoveryAuthHandler.validateAuthTag_cases blake3 handler message.source
      message.parsed.header message.parsed.tlvPayload message.parsed.sequenceNumber
      message.parsed.authTag with ⟨hno, heq⟩ | ⟨hfresh, hauth, heq⟩
    · refine .inl ⟨?_, heq⟩
      rintro ⟨hfresh | ⟨hnone, -⟩, hauth⟩
      · exact hno ⟨hfresh, hauth⟩
      · rw [hctx] at hnone
        cases hnone
    · exact .inr ⟨⟨.inl hfresh, hauth⟩, heq⟩
  | none =>
    -- an unknown address: the bootstrap check decides
    have hunknown : ¬ handler.hasDevice message.source = true := by
      simp [DiscoveryAuthHandler.hasDevice, hctx]
    rw [if_neg hunknown]
    have hiff := DiscoveryAuthHandler.validateDiscoveryResponse_iff blake3 handler
      message.parsed.header message.parsed.tlvPayload message.parsed.sequenceNumber
      message.parsed.authTag
    by_cases hvalid : handler.validateDiscoveryResponse blake3 message.parsed.header
      message.parsed.tlvPayload message.parsed.sequenceNumber message.parsed.authTag = true
    · obtain ⟨hone, hauth⟩ := hiff.mp hvalid
      refine .inr ⟨⟨.inr ⟨hctx, hone⟩, hauth⟩, ?_⟩
      simp [hvalid, setLastValid_addNewDevice hctx]
    · refine .inl ⟨?_, by simp [hvalid]⟩
      -- the address is unknown, so only the bootstrap check could have accepted
      rintro ⟨⟨c, hc, -⟩ | ⟨-, hone⟩, hauth⟩
      · rw [hctx] at hc
        cases hc
      · exact hvalid (hiff.mpr ⟨hone, hauth⟩)

/-- A frame that is no answer to the transaction is skipped before any authentication. -/
theorem processDiscoverFrame_of_not_answers {frameData : Frame} {transactionId : UInt16}
    (h : ∀ message, frameData.sdcpMessage = some message →
      ¬ AnswersDiscovery message transactionId) (handler : DiscoveryAuthHandler) :
    processDiscoverFrame blake3 frameData transactionId handler = (none, handler) := by
  cases hmessage : frameData.sdcpMessage with
  | none => simp only [processDiscoverFrame, hmessage]
  | some message =>
    have hskip : message.parsed.header.opCode ≠ .discoverRes ∨
        message.parsed.header.transactionId ≠ transactionId :=
      Decidable.not_and_iff_not_or_not.mp (h message hmessage)
    simp only [processDiscoverFrame, hmessage, if_pos hskip]

/-- For an answer to the transaction `auth_valid` decides. -/
theorem processDiscoverFrame_of_answers {frameData : Frame} {message : SdcpMessage}
    {transactionId : UInt16} (hmessage : frameData.sdcpMessage = some message)
    (h : AnswersDiscovery message transactionId) (handler : DiscoveryAuthHandler) :
    processDiscoverFrame blake3 frameData transactionId handler =
      (if (handler.discoveryAuthValid blake3 message).1 then announcedDevice message else none,
        (handler.discoveryAuthValid blake3 message).2) := by
  have hkeep : ¬ (message.parsed.header.opCode ≠ .discoverRes ∨
      message.parsed.header.transactionId ≠ transactionId) := fun hskip =>
    Decidable.not_and_iff_not_or_not.mpr hskip h
  simp only [processDiscoverFrame, hmessage, if_neg hkeep]
  change (if (handler.discoveryAuthValid blake3 message).1 = true then _ else _) = _
  split <;> rfl

/-- A frame is passed over without effect, or it is an authentic discovery response to this
transaction that raises the mark of its source. -/
theorem processDiscoverFrame_cases (frameData : Frame) (transactionId : UInt16)
    (handler : DiscoveryAuthHandler) :
    ((∀ message, frameData.sdcpMessage = some message → AnswersDiscovery message transactionId →
        ¬ AcceptsDiscovery blake3 handler message) ∧
      processDiscoverFrame blake3 frameData transactionId handler = (none, handler)) ∨
    (∃ message, frameData.sdcpMessage = some message ∧ AnswersDiscovery message transactionId ∧
      AcceptsDiscovery blake3 handler message ∧
      processDiscoverFrame blake3 frameData transactionId handler =
        (announcedDevice message,
          handler.raiseMark message.source message.parsed.sequenceNumber)) := by
  by_cases hanswers : ∃ message, frameData.sdcpMessage = some message ∧
      AnswersDiscovery message transactionId
  · obtain ⟨message, hmessage, hanswers⟩ := hanswers
    rw [processDiscoverFrame_of_answers blake3 hmessage hanswers]
    rcases discoveryAuthValid_cases blake3 handler message with ⟨hno, heq⟩ | ⟨haccepts, heq⟩
    · refine .inl ⟨?_, by simp [heq]⟩
      intro m hm _
      cases hmessage.symm.trans hm
      exact hno
    · exact .inr ⟨message, hmessage, hanswers, haccepts, by simp [heq]⟩
  -- a frame that is no answer leaves the marks alone
  · have hskip : ∀ message, frameData.sdcpMessage = some message →
        ¬ AnswersDiscovery message transactionId :=
      fun message hmessage h => hanswers ⟨message, hmessage, h⟩
    refine .inl ⟨fun message hmessage h => absurd h (hskip message hmessage), ?_⟩
    exact processDiscoverFrame_of_not_answers blake3 hskip handler

/-- The master after it has accepted a discovery response. -/
def DiscoveryMaster.afterDiscovery (master : DiscoveryMaster) (message : SdcpMessage) :
    DiscoveryMaster :=
  { master with
    authHandler := master.authHandler.raiseMark message.source message.parsed.sequenceNumber
    discoveredDevices :=
      match announcedDevice message with
      | none => master.discoveredDevices
      | some device => master.discoveredDevices.insert device.macAddress device }

/-- Accepting a response drops nothing from the cache. -/
theorem DiscoveryMaster.isSome_lookup_afterDiscovery (master : DiscoveryMaster)
    (message : SdcpMessage) {mac : MacAddr}
    (h : (master.discoveredDevices.lookup mac).isSome = true) :
    ((master.afterDiscovery message).discoveredDevices.lookup mac).isSome = true := by
  unfold DiscoveryMaster.afterDiscovery
  cases announcedDevice message with
  | none => exact h
  | some device =>
    by_cases hmac : mac = device.macAddress
    · subst hmac
      exact Option.isSome_iff_exists.mpr ⟨device, AList.lookup_insert _⟩
    · simp only [AList.lookup_insert_ne hmac, h]

/-- An accepted response puts its device into the cache. -/
theorem DiscoveryMaster.isSome_lookup_of_announced (master : DiscoveryMaster)
    {message : SdcpMessage} {device : DiscoveredDevice} {mac : MacAddr}
    (hdevice : announcedDevice message = some device) (hmac : device.macAddress = mac) :
    ((master.afterDiscovery message).discoveredDevices.lookup mac).isSome = true := by
  subst hmac
  simp only [DiscoveryMaster.afterDiscovery, hdevice]
  exact Option.isSome_iff_exists.mpr ⟨device, AList.lookup_insert _⟩

/-- The loop body of `discover_devices` passes a frame over or takes in its message. -/
theorem discoverFrame_cases (master : DiscoveryMaster) (transactionId : UInt16)
    (newlyDiscovered : List DiscoveredDevice) (frameData : Frame) :
    ((∀ message, frameData.sdcpMessage = some message → AnswersDiscovery message transactionId →
        ¬ AcceptsDiscovery blake3 master.authHandler message) ∧
      master.discoverFrame blake3 transactionId newlyDiscovered frameData
        = (newlyDiscovered, master)) ∨
    (∃ message, frameData.sdcpMessage = some message ∧ AnswersDiscovery message transactionId ∧
      AcceptsDiscovery blake3 master.authHandler message ∧
      (master.discoverFrame blake3 transactionId newlyDiscovered frameData).2
        = master.afterDiscovery message) := by
  unfold DiscoveryMaster.discoverFrame DiscoveryMaster.afterDiscovery
  rcases processDiscoverFrame_cases blake3 frameData transactionId master.authHandler with
    ⟨hno, heq⟩ | ⟨message, hmessage, hanswers, haccepts, heq⟩
  · exact .inl ⟨hno, by simp only [heq]⟩
  · refine .inr ⟨message, hmessage, hanswers, haccepts, ?_⟩
    simp only [heq]
    cases announcedDevice message <;> rfl

/-- The message is the response the master waits for. -/
def AnswersRequest (message : SdcpMessage) (expectedSource : MacAddr)
    (expectedOpcode : SdcpOpCode) (transactionId : UInt16) : Prop :=
  message.source = expectedSource ∧ message.parsed.header.opCode = expectedOpcode ∧
    message.parsed.header.transactionId = transactionId

/-- A frame is passed over without effect, or it is the authentic and fresh response the
master waits for. -/
theorem responseFrame_cases (handler : DiscoveryAuthHandler) (expectedSource : MacAddr)
    (expectedOpcode : SdcpOpCode) (transactionId : UInt16) (data : Frame) :
    (responseFrame blake3 handler expectedSource expectedOpcode transactionId data
      = (none, handler)) ∨
    (∃ message, data.sdcpMessage = some message ∧
      AnswersRequest message expectedSource expectedOpcode transactionId ∧
      handler.Fresh expectedSource message.parsed.sequenceNumber ∧
      handler.Authentic blake3 message.parsed.header message.parsed.tlvPayload
        message.parsed.sequenceNumber message.parsed.authTag ∧
      responseFrame blake3 handler expectedSource expectedOpcode transactionId data =
        (some message.parsed.tlvPayload,
          handler.raiseMark expectedSource message.parsed.sequenceNumber)) := by
  unfold responseFrame
  cases hmessage : data.sdcpMessage with
  | none => exact .inl rfl
  | some message =>
    simp only
    by_cases hsource : message.source = expectedSource
    -- another sender
    swap
    · exact .inl (by rw [if_pos hsource])
    rw [if_neg (not_not.mpr hsource)]
    by_cases hheader : message.parsed.header.opCode = expectedOpcode ∧
        message.parsed.header.transactionId = transactionId
    -- another op code or transaction
    swap
    · exact .inl (by rw [if_neg hheader])
    rw [if_pos hheader]
    -- only then the tag is looked at, and an accepted one raises the mark
    rcases DiscoveryAuthHandler.validateAuthTag_cases blake3 handler expectedSource
      message.parsed.header message.parsed.tlvPayload message.parsed.sequenceNumber
      message.parsed.authTag with ⟨-, heq⟩ | ⟨hfresh, hauth, heq⟩
    · exact .inl (by rw [heq])
    · exact .inr ⟨message, rfl, ⟨hsource, hheader⟩, hfresh, hauth, by rw [heq]⟩

/-- Only a status report of success makes `set_ip_config` return `Ok(())`. -/
theorem ipConfigResult_eq_ipConfigSet {tlvPayload : List UInt8}
    (h : ipConfigResult tlvPayload = .ipConfigSet) :
    (Tlv.readFrom tlvPayload).bind Tlv.parseStatusReport = some .noError := by
  unfold ipConfigResult at h
  split at h
  · rename_i status hstatus
    split at h
    · rename_i hok
      rw [hstatus, hok]
    · cases h
  · cases h

end ReceiveSpec

end TsnFieldbus
