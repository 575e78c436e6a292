import TsnFieldbus.Slave.DiscoveryHistory

/-!
# A SetIpReq That Fails

`handle_set_ip_request` makes three accesses to the hardware: it applies the configuration
to the interface, reads the stored device info and writes it back. Each can fail and each
failure is answered with its status.

- `configInForce`: the configuration on the interface, the second copy of the addresses. A
  failing `apply_ip_config` need not leave it alone: the demo hardware flushes the addresses of
  the interface before it adds the new one.
- `handlePacket_setIp`: what the handler leaves behind, by the first access that fails.
- `setIp_atomicOnFailure_iff`: which failures leave both copies alone.
-/

namespace TsnFieldbus

/-- The configuration on the interface after some hardware accesses: a successful
`apply_ip_config` puts its configuration in force, a failed one leaves `left`. -/
def configInForce (left inForce : Option IpConfig) : List SlaveEffect → Option IpConfig
  | [] => inForce
  | .applyIpConfig config true :: rest => configInForce left (some config) rest
  | .applyIpConfig _ false :: rest => configInForce left left rest
  | .writeDeviceInfo _ _ :: rest | .sendTo _ :: rest => configInForce left inForce rest

/-- One of the frames is a SetIpRes with this status. -/
def AnswersSetIp (effects : List SlaveEffect) (code : StatusCode) : Prop :=
  ∃ frame message tlv, .sendTo frame ∈ effects ∧ Frame.sdcpMessage frame = some message ∧
    message.parsed.header.opCode = .setIpRes ∧
    Tlv.readFrom message.parsed.tlvPayload = some tlv ∧ tlv.parseStatusReport = some code

namespace SlaveNode

variable (blake3 : KeyedHash)

/-- The status that a SetIpReq is answered with: that of the first access that fails. -/
def setIpStatus (hw : HardwareResponse) : StatusCode :=
  match hw.applyIpConfig, hw.readDeviceInfo, hw.writeDeviceInfo with
  | .error _, _, _ => .errHardwareAccess
  | .ok (), .error code, _ => code.val
  | .ok (), .ok (), .error (code, _) => code.val
  | .ok (), .ok (), .ok () => .noError

/-- The request succeeds exactly when all three accesses do. -/
theorem setIpStatus_eq_noError_iff (hw : HardwareResponse) :
    setIpStatus hw = .noError ↔
      hw.applyIpConfig = .ok () ∧ hw.readDeviceInfo = .ok () ∧ hw.writeDeviceInfo = .ok () := by
  obtain ⟨read, apply, write⟩ := hw
  rcases apply with code | ⟨⟩
  · simp [setIpStatus]
  rcases read with code | ⟨⟩
  · simp [setIpStatus, code.property]
  rcases write with ⟨code, stored⟩ | ⟨⟩
  · simp [setIpStatus, code.property]
  · simp [setIpStatus]

theorem response_setIpAction (node : SlaveNode) (hw : HardwareResponse) (config : IpConfig) :
    (node.setIpAction hw config).response = some (.setIpRes, .statusReport (setIpStatus hw)) := by
  obtain ⟨read, apply, write⟩ := hw
  rcases apply with code | ⟨⟩
  · rfl
  rcases read with code | ⟨⟩
  · rfl
  rcases write with ⟨code, stored⟩ | ⟨⟩ <;> rfl

/-- Only a success leaves DiscoverySync. -/
theorem configured_setIpAction {node : SlaveNode} {hw : HardwareResponse} {config : IpConfig}
    (h : setIpStatus hw ≠ .noError) : (node.setIpAction hw config).configured = false := by
  obtain ⟨read, apply, write⟩ := hw
  rcases apply with code | ⟨⟩
  · rfl
  rcases read with code | ⟨⟩
  · rfl
  rcases write with ⟨code, stored⟩ | ⟨⟩
  · rfl
  · exact absurd rfl h

theorem sendTo_notMem_setIpAction {node : SlaveNode} {hw : HardwareResponse} {config : IpConfig}
    (frame : Frame) : .sendTo frame ∉ (node.setIpAction hw config).effects := by
  unfold setIpAction
  split <;> simp

/-- The first access decides what is in force, the later ones do not touch the interface. -/
theorem configInForce_setIpAction {node : SlaveNode} {hw : HardwareResponse} {config : IpConfig}
    (left inForce : Option IpConfig) (response : Frame) :
    configInForce left inForce ((node.setIpAction hw config).effects ++ [.sendTo response]) =
      if hw.applyIpConfig = .ok () then some config else left := by
  obtain ⟨read, apply, write⟩ := hw
  rcases apply with code | ⟨⟩
  · rfl
  rcases read with code | ⟨⟩
  · rfl
  rcases write with ⟨code, stored⟩ | ⟨⟩ <;> rfl

/-- A refused configuration is not stored either. -/
theorem deviceInfo_setIpAction_of_refused {node : SlaveNode} {hw : HardwareResponse}
    {config : IpConfig} (h : hw.applyIpConfig ≠ .ok ()) :
    (node.setIpAction hw config).deviceInfo = node.deviceInfo := by
  obtain ⟨read, apply, write⟩ := hw
  rcases apply with code | ⟨⟩
  · rfl
  · exact absurd rfl h

/-- After a failure the device info is what a failed write has left. -/
theorem deviceInfo_setIpAction_eq_iff {node : SlaveNode} {hw : HardwareResponse}
    {config : IpConfig} (happly : hw.applyIpConfig = .ok ()) (h : setIpStatus hw ≠ .noError) :
    (node.setIpAction hw config).deviceInfo = node.deviceInfo ↔
      ∀ code stored, hw.readDeviceInfo = .ok () →
        hw.writeDeviceInfo = .error (code, stored) → stored = node.deviceInfo := by
  obtain ⟨read, apply, write⟩ := hw
  subst happly
  rcases read with code | ⟨⟩
  · simp [setIpAction]
  rcases write with ⟨code, stored⟩ | ⟨⟩
  · simp [setIpAction]
  · exact absurd rfl h

/-- An authenticated SetIpReq: its hardware accesses, and one response with the status. -/
theorem handlePacket_setIp {node : SlaveNode} {parsed : ParsedSdcpPayload} {sourceMac : MacAddr}
    {config : IpConfig} (h : node.Accepts blake3 parsed sourceMac)
    (hop : parsed.header.opCode = .setIpReq)
    (hconfig : requestedConfig parsed.tlvPayload = some config) (hw : HardwareResponse) :
    ∃ response message,
      (node.handlePacket blake3 parsed sourceMac hw).2 =
        (node.setIpAction hw config).effects ++ [.sendTo response] ∧
      Frame.sdcpMessage response = some message ∧ message.parsed.header.opCode = .setIpRes ∧
      message.parsed.tlvPayload = (Tlv.statusReport (setIpStatus hw)).bytes ∧
      (node.handlePacket blake3 parsed sourceMac hw).1.deviceInfo =
        (node.setIpAction hw config).deviceInfo ∧
      (setIpStatus hw ≠ .noError →
        (node.handlePacket blake3 parsed sourceMac hw).1.stateManager = node.stateManager) := by
  have haction : node.requestAction parsed hw = node.setIpAction hw config := by
    simp only [requestAction, hop, hconfig]
  -- the response is built after the mark has been raised
  obtain ⟨seq, -, hmessage⟩ := sdcpMessage_nextResponse blake3
    (node.raiseMark sourceMac parsed.sequenceNumber) sourceMac .setIpRes
    parsed.header.transactionId (.statusReport (setIpStatus hw))
  rw [handlePacket_accepted blake3 h hw, haction]
  refine ⟨_, _, ?_, hmessage, rfl, rfl, ?_, ?_⟩
  · simp only [perform, response_setIpAction]
  · simp only [perform, response_setIpAction]
  · intro hfailed
    simp only [perform, response_setIpAction, configured_setIpAction hfailed]
    rfl

/-- The accesses themselves send nothing, so the one response carries the status. -/
theorem answersSetIp_iff {node : SlaveNode} {hw : HardwareResponse} {config : IpConfig}
    {response : Frame} {message : SdcpMessage}
    (hmessage : Frame.sdcpMessage response = some message)
    (hop : message.parsed.header.opCode = .setIpRes)
    (htlv : message.parsed.tlvPayload = (Tlv.statusReport (setIpStatus hw)).bytes)
    (code : StatusCode) :
    AnswersSetIp ((node.setIpAction hw config).effects ++ [.sendTo response]) code ↔
      code = setIpStatus hw := by
  constructor
  · rintro ⟨frame, message', tlv, hmem, hmessage', -, hread, hstatus⟩
    -- the hardware accesses send nothing, so the response is the one frame
    have hframe : frame = response := by
      rcases List.mem_append.mp hmem with haccess | hresponse
      · exact absurd haccess (sendTo_notMem_setIpAction frame)
      · simpa using hresponse
    subst hframe
    rw [hmessage, Option.some.injEq] at hmessage'
    subst hmessage'
    rw [htlv, Tlv.readFrom_statusReport, Option.some.injEq] at hread
    subst hread
    simpa using hstatus.symm
  · rintro rfl
    refine ⟨response, message, _, by simp, hmessage, hop, ?_, Tlv.parseStatusReport_statusReport _⟩
    rw [htlv, Tlv.readFrom_statusReport]

/-- A failed SetIpReq has changed nothing: if the answer is an error status, the configuration
in force and the stored device info are the old ones and the device is in DiscoverySync. -/
def AtomicOnFailure (node : SlaveNode) (left inForce : Option IpConfig)
    (parsed : ParsedSdcpPayload) (sourceMac : MacAddr) (hw : HardwareResponse) : Prop :=
  ∀ code, code ≠ .noError →
    AnswersSetIp (node.handlePacket blake3 parsed sourceMac hw).2 code →
    configInForce left inForce (node.handlePacket blake3 parsed sourceMac hw).2 = inForce ∧
    (node.handlePacket blake3 parsed sourceMac hw).1.deviceInfo = node.deviceInfo ∧
    (node.handlePacket blake3 parsed sourceMac hw).1.stateManager.state = .discoverySync

/-- **When a failed SetIpReq is atomic**: when the access that fails is the first one and leaves
the interface alone. A later failure leaves the new configuration in force. -/
theorem setIp_atomicOnFailure_iff {node : SlaveNode} {parsed : ParsedSdcpPayload}
    {sourceMac : MacAddr} {config : IpConfig} (h : node.Accepts blake3 parsed sourceMac)
    (hop : parsed.header.opCode = .setIpReq)
    (hconfig : requestedConfig parsed.tlvPayload = some config)
    (hstate : node.stateManager.state = .discoverySync) (left inForce : Option IpConfig)
    (hw : HardwareResponse) :
    node.AtomicOnFailure blake3 left inForce parsed sourceMac hw ↔
      (hw.applyIpConfig ≠ .ok () → left = inForce) ∧
      (hw.applyIpConfig = .ok () →
        (hw.readDeviceInfo = .ok () ∧ hw.writeDeviceInfo = .ok ()) ∨
        (inForce = some config ∧ ∀ code stored, hw.readDeviceInfo = .ok () →
          hw.writeDeviceInfo = .error (code, stored) → stored = node.deviceInfo)) := by
  obtain ⟨response, message, heffects, hmessage, hres, htlv, hinfo, hmanager⟩ :=
    handlePacket_setIp blake3 h hop hconfig hw
  have hanswers := @answersSetIp_iff node hw config response message hmessage hres htlv
  unfold AtomicOnFailure
  rw [heffects, hinfo, configInForce_setIpAction]
  simp only [hanswers]
  by_cases hok : setIpStatus hw = .noError
  -- nothing to show after a success
  · obtain ⟨happly, hread, hwrite⟩ := (setIpStatus_eq_noError_iff hw).mp hok
    refine ⟨fun _ => ⟨absurd happly, fun _ => .inl ⟨hread, hwrite⟩⟩, ?_⟩
    rintro - code hcode rfl
    exact absurd hok hcode
  have hsteady : (node.handlePacket blake3 parsed sourceMac hw).1.stateManager.state =
      .discoverySync := by rw [hmanager hok, hstate]
  have hlater : hw.applyIpConfig = .ok () →
      ¬ (hw.readDeviceInfo = .ok () ∧ hw.writeDeviceInfo = .ok ()) :=
    fun happly hboth => hok ((setIpStatus_eq_noError_iff hw).mpr ⟨happly, hboth⟩)
  by_cases happly : hw.applyIpConfig = .ok ()
  -- the new configuration is in force, which must be the old one then
  · have hdevice := @deviceInfo_setIpAction_eq_iff node hw config happly hok
    simp only [not_true_eq_false, ne_eq, happly, hlater happly, false_or, false_implies,
      true_and, true_implies, if_true]
    constructor
    · intro hatomic
      obtain ⟨hforce, hstored, -⟩ := hatomic _ hok rfl
      exact ⟨hforce.symm, hdevice.mp hstored⟩
    · rintro ⟨hforce, hstored⟩ code - -
      exact ⟨hforce.symm, hdevice.mpr hstored, hsteady⟩
  -- the interface has refused the configuration, and the handler goes no further
  · have hrefused := @deviceInfo_setIpAction_of_refused node hw config happly
    rw [if_neg happly]
    constructor
    · intro hatomic
      obtain ⟨hleft, -⟩ := hatomic _ hok rfl
      exact ⟨fun _ => hleft, fun hsucceeded => absurd hsucceeded happly⟩
    · rintro ⟨hleft, -⟩ code - -
      exact ⟨hleft happly, hrefused, hsteady⟩

/-- A SetIpReq of a trusted master. -/
def setIpRequest : ParsedSdcpPayload :=
  { header := .new .setIpReq 1
    tlvPayload := (Tlv.ipConfig (.new 10 0 0 50) (.new 255 255 255 0) (.new 10 0 0 1)).bytes
    sequenceNumber := 1
    authTag := tagOf checksumHash zeroSecret (signedBytes (.new .setIpReq 1)
      (Tlv.ipConfig (.new 10 0 0 50) (.new 255 255 255 0) (.new 10 0 0 1)).bytes 1) }

/-- A slave that trusts the master and waits for its configuration. -/
def unconfiguredSlave : SlaveNode :=
  { interfaceMac := ⟨0x11, 0x22, 0x33, 0x44, 0x55, 0x66⟩
    stateManager := ⟨.discoverySync⟩
    deviceInfo := defaultDeviceInfo
    authHandler := (DiscoveryAuthHandler.new zeroSecret).addNewDevice
      ⟨0xAA, 0xBB, 0xCC, 0xDD, 0xEE, 1⟩ }

/-- The interface takes the configuration, the device info cannot be written. -/
def writeFails : HardwareResponse :=
  { readDeviceInfo := .ok ()
    applyIpConfig := .ok ()
    writeDeviceInfo := .error (⟨.errHardwareAccess, by decide⟩, defaultDeviceInfo) }

/-- A refusing interface that is left alone: everything is as it was. -/
theorem setIp_atomicOnFailure_iff_refused :
    unconfiguredSlave.AtomicOnFailure checksumHash none none setIpRequest
      ⟨0xAA, 0xBB, 0xCC, 0xDD, 0xEE, 1⟩
      { writeFails with applyIpConfig := .error ⟨.errHardwareAccess, by decide⟩ } :=
  (setIp_atomicOnFailure_iff checksumHash (by decide) rfl rfl rfl none none _).mpr
    ⟨fun _ => rfl, fun h => nomatch h⟩

/-- After a failed write the slave answers with an error, under its new address. -/
theorem failed_write_leaves_config_in_force :
    configInForce none none (unconfiguredSlave.handlePacket checksumHash setIpRequest
        ⟨0xAA, 0xBB, 0xCC, 0xDD, 0xEE, 1⟩ writeFails).2 =
      some ⟨.new 10 0 0 50, .new 255 255 255 0, .new 10 0 0 1⟩ ∧
    (unconfiguredSlave.handlePacket checksumHash setIpRequest
      ⟨0xAA, 0xBB, 0xCC, 0xDD, 0xEE, 1⟩ writeFails).1.deviceInfo = defaultDeviceInfo ∧
    ¬ unconfiguredSlave.AtomicOnFailure checksumHash none none setIpRequest
      ⟨0xAA, 0xBB, 0xCC, 0xDD, 0xEE, 1⟩ writeFails := by
  -- the new address is applied, and only then the write fails
  have hforce : configInForce none none (unconfiguredSlave.handlePacket checksumHash setIpRequest
        ⟨0xAA, 0xBB, 0xCC, 0xDD, 0xEE, 1⟩ writeFails).2 =
      some ⟨.new 10 0 0 50, .new 255 255 255 0, .new 10 0 0 1⟩ := by decide
  refine ⟨hforce, by decide, ?_⟩
  intro h
  have haccepts : unconfiguredSlave.Accepts checksumHash setIpRequest
      ⟨0xAA, 0xBB, 0xCC, 0xDD, 0xEE, 1⟩ := by decide
  obtain ⟨response, message, heffects, hmessage, hres, htlv, -⟩ :=
    handlePacket_setIp checksumHash haccepts rfl rfl writeFails
  obtain ⟨hsame, -⟩ := h .errHardwareAccess (by decide) (by
    rw [heffects]
    exact (answersSetIp_iff hmessage hres htlv _).mpr rfl)
  rw [hforce] at hsame
  cases hsame

end SlaveNode

end TsnFieldbus
