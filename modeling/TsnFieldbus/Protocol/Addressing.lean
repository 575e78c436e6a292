import TsnFieldbus.Protocol.DiscoveryInvariants

/-!
# Unicast Requests at Other Slaves

All slaves of a segment share the secret and trust the same master, and neither the listener
nor a request handler compares the destination of a frame with the slave's own address.

- `reach`: what a frame on the segment does to a slave, wherever its listener stands.
- `bystander_unaffected_iff`: a unicast request leaves another slave alone exactly when its
  listener does not take the frame, it has no context for the master, or it has seen the
  request's number before.
- `bystander_applies_ip_config`: otherwise the bystander configures itself.
-/

namespace TsnFieldbus

variable (blake3 : KeyedHash)

namespace Network

variable {ι : Type*} [DecidableEq ι]

/-! ### A frame on the segment -/

/-- A frame reaches slave `i`. A listener at the head of its loop checks the state before it
reads the frame, one that has ended reads nothing. -/
def reach (net : Network ι) (i : ι) (frame : Frame) (hw : HardwareResponse) : Network ι :=
  let net := (net.step blake3 (.checkState i)).getD net
  (net.step blake3 (.slaveReceive i frame hw)).getD net

/-- The listener of slave `i` takes the next frame: it waits in `receiver.next()`, or its state
check will let it pass there. -/
def Listening (net : Network ι) (i : ι) : Prop :=
  net.listeners i = .receiving ∨
    (net.listeners i = .checking ∧ (net.slaves i).stateManager.state = .discoverySync)

instance (net : Network ι) (i : ι) : Decidable (net.Listening i) :=
  inferInstanceAs (Decidable (_ ∨ _))

/-- The frame makes slave `i` do nothing: no hardware access, no response, no change of its
stored device info and no change of state. -/
structure Unaffected (net : Network ι) (i : ι) (frame : Frame) (hw : HardwareResponse) :
    Prop where
  effects : ((net.reach blake3 i frame hw).processed i).flatMap (·.effects)
    = (net.processed i).flatMap (·.effects)
  wire : (net.reach blake3 i frame hw).wire = net.wire
  deviceInfo : ((net.reach blake3 i frame hw).slaves i).deviceInfo = (net.slaves i).deviceInfo
  stateManager : ((net.reach blake3 i frame hw).slaves i).stateManager
    = (net.slaves i).stateManager

theorem withListener_self {net : Network ι} {i : ι} {listener : ListenerPhase}
    (h : net.listeners i = listener) : net.withListener i listener = net := by
  simp only [withListener, ← h, Function.update_eq_self]

/-- Where the listener stands matters to nobody else. -/
theorem unaffected_of_withListener {net : Network ι} {i : ι} {frame : Frame}
    {hw : HardwareResponse} {listener : ListenerPhase}
    (h : net.reach blake3 i frame hw = net.withListener i listener) :
    net.Unaffected blake3 i frame hw := by
  refine ⟨?_, ?_, ?_, ?_⟩ <;> rw [h] <;> rfl

/-- A slave whose listener takes no frame has its listener moved at most. -/
theorem reach_of_not_listening {net : Network ι} {i : ι} (h : ¬ net.Listening i) (frame : Frame)
    (hw : HardwareResponse) :
    ∃ listener, net.reach blake3 i frame hw = net.withListener i listener := by
  unfold Listening at h
  refine ⟨.exited, ?_⟩
  cases hphase : net.listeners i with
  | receiving => exact absurd (.inl hphase) h
  | checking =>
    have hstate : (net.slaves i).stateManager.state ≠ .discoverySync :=
      fun hsync => h (.inr ⟨hphase, hsync⟩)
    -- the state check ends the listener, so the frame is not read
    simp [reach, step, hphase, hstate, withListener]
  | exited =>
    rw [withListener_self hphase]
    simp [reach, step, hphase]

/-- A listener that takes the frame drops it, or the slave acts on its message. -/
theorem reach_of_listening {net : Network ι} {i : ι} (h : net.Listening i) (frame : Frame)
    (hw : HardwareResponse) :
    ((∀ message, frame.sdcpMessage = some message →
        ¬ (net.slaves i).Accepts blake3 message.parsed message.source) ∧
      net.reach blake3 i frame hw = net.withListener i .checking) ∨
    (∃ message, frame.sdcpMessage = some message ∧
      (net.slaves i).Accepts blake3 message.parsed message.source ∧
      net.reach blake3 i frame hw = net.afterAnswer blake3 i message hw) := by
  -- both positions of the listener lead to the socket
  have hchecked : (net.step blake3 (.checkState i)).getD net = net.withListener i .receiving := by
    rcases h with hphase | ⟨hphase, hstate⟩
    · rw [withListener_self hphase]
      simp [step, hphase]
    · simp [step, hphase, hstate]
  obtain ⟨net', hreceived⟩ : ∃ net',
      (net.withListener i .receiving).step blake3 (.slaveReceive i frame hw) = some net' := by
    simp [step, withListener]
  have hreach : net.reach blake3 i frame hw = net' := by
    simp only [reach, hchecked, hreceived, Option.getD_some]
  rcases step_slaveReceive blake3 hreceived with
    ⟨hno, rfl⟩ | ⟨message, hmessage, haccept, rfl⟩
  · refine .inl ⟨hno, hreach.trans ?_⟩
    simp [withListener]
  · refine .inr ⟨message, hmessage, haccept, hreach.trans ?_⟩
    simp [afterAnswer, withListener, withSlave]

end Network

/-- Every call for one device asks for something that is answered. -/
theorem isSome_response_requestAction {call : MasterCall} (hcall : call ≠ .discoverDevices)
    (master : DiscoveryMaster) (mac : MacAddr) (node : SlaveNode) (hw : HardwareResponse) :
    (node.requestAction (call.requestMessage blake3 master mac).parsed hw).response.isSome := by
  cases call with
  | discoverDevices => exact absurd rfl hcall
  | getIpConfig target => rfl
  | setIpConfig target config =>
    have hconfig : SlaveNode.requestedConfig (MasterCall.requestMessage blake3
        (.setIpConfig target config) master mac).parsed.tlvPayload = some config := by
      simp [SlaveNode.requestedConfig, MasterCall.requestMessage, MasterCall.requestTlv,
        DiscoveryMaster.tlvBytes, Tlv.writeTo_nil]
    simp only [SlaveNode.requestAction, MasterCall.requestMessage, MasterCall.requestCode,
      SdcpHeader.new] at hconfig ⊢
    rw [hconfig]
    simp only [SlaveNode.setIpAction]
    split <;> rfl

namespace Network

variable {ι : Type*} [DecidableEq ι]

/-- **Addressing**: a unicast request that also reaches a slave with another address leaves
that slave alone if and only if its listener does not take the frame, it has no context for
the master's address, or its mark there has reached the request's sequence number. -/
theorem bystander_unaffected_iff {master : DiscoveryMaster} {mac : MacAddr}
    (hmac : master.interfaceMac = some mac) {call : MasterCall}
    (hcall : call ≠ .discoverDevices) {transmitted : Bool} {frame : Frame}
    (hsent : (master.begin blake3 transmitted call).2.1 = some frame) (net : Network ι) (i : ι)
    (hsecret : (net.slaves i).authHandler.sharedSecret = master.authHandler.sharedSecret)
    (_hother : (net.slaves i).interfaceMac ≠ call.targetMac) (hw : HardwareResponse) :
    net.Unaffected blake3 i frame hw ↔
      ¬ net.Listening i ∨ ¬ (net.slaves i).authHandler.Fresh mac
        (master.authHandler.sendContext mac).transmitterSequenceNumber := by
  have hrequest := sdcpMessage_of_begin blake3 hmac hsent
  -- the request is authentic for every slave that shares the secret
  have hauth : (net.slaves i).authHandler.Authentic blake3
      (call.requestMessage blake3 master mac).parsed.header
      (call.requestMessage blake3 master mac).parsed.tlvPayload
      (call.requestMessage blake3 master mac).parsed.sequenceNumber
      (call.requestMessage blake3 master mac).parsed.authTag := by
    unfold DiscoveryAuthHandler.Authentic
    rw [hsecret]
    rfl
  by_cases hlistening : net.Listening i
  -- a listener that has ended leaves the frame on the socket
  swap
  · obtain ⟨listener, hreach⟩ := reach_of_not_listening blake3 hlistening frame hw
    exact iff_of_true (unaffected_of_withListener blake3 hreach) (.inl hlistening)
  rw [or_iff_right (not_not_intro hlistening)]
  rcases reach_of_listening blake3 hlistening frame hw with
    ⟨hno, hreach⟩ | ⟨message, hmessage, haccept, hreach⟩
  -- a request the slave refuses is not fresh
  · refine iff_of_true (unaffected_of_withListener blake3 hreach) (fun hfresh => ?_)
    exact hno _ hrequest ⟨hfresh, hauth⟩
  -- an accepted one is answered, and the answer is on the record
  · rw [hrequest, Option.some.injEq] at hmessage
    subst hmessage
    refine iff_of_false (fun h => ?_) (not_not_intro haccept.1)
    obtain ⟨⟨opCode, tlv⟩, hsome⟩ := Option.isSome_iff_exists.mp
      (isSome_response_requestAction blake3 hcall master mac (net.slaves i) hw)
    obtain ⟨response, hanswer⟩ := SlaveNode.effects_answer blake3 hsome
    have heffects := h.effects
    rw [hreach, processed_afterAnswer_self, List.flatMap_append, List.flatMap_singleton,
      List.append_right_eq_self, hanswer] at heffects
    exact absurd heffects (by simp)

end Network

/-! ### Two slaves on one segment -/

/-- A master in DiscoverySync. -/
def segmentMaster : DiscoveryMaster :=
  DiscoveryMaster.new (some ⟨0xAA, 0xBB, 0xCC, 0xDD, 0xEE, 1⟩) ⟨.discoverySync⟩ zeroSecret

/-- A slave that trusts the given master address. -/
def segmentSlave (mac masterMac : MacAddr) : SlaveNode :=
  { interfaceMac := mac
    stateManager := ⟨.discoverySync⟩
    deviceInfo := defaultDeviceInfo
    authHandler := (DiscoveryAuthHandler.new zeroSecret).addNewDevice masterMac }

/-- The configuration of the call. -/
def segmentConfig : IpConfig :=
  ⟨.new 10 0 0 50, .new 255 255 255 0, .new 10 0 0 1⟩

/-- The call for the slave with address `11:22:33:44:55:66`. -/
def segmentCall : MasterCall := .setIpConfig ⟨0x11, 0x22, 0x33, 0x44, 0x55, 0x66⟩ segmentConfig

/-- Hardware that never fails. -/
def workingHardware : HardwareResponse :=
  { readDeviceInfo := .ok (), applyIpConfig := .ok (), writeDeviceInfo := .ok () }

/-- A slave with another address that trusts the master. -/
def bystander : SlaveNode :=
  segmentSlave ⟨0x77, 0x88, 0x99, 0xAA, 0xBB, 0xCC⟩ ⟨0xAA, 0xBB, 0xCC, 0xDD, 0xEE, 1⟩

/-- The segment before the call, with one slave on it. -/
def segmentNetwork (node : SlaveNode) (listener : ListenerPhase) : Network Unit :=
  { master := segmentMaster
    phase := .idle
    slaves := fun _ => node
    listeners := fun _ => listener
    wire := []
    issued := []
    processed := fun _ => [] }

namespace Network

/-- A bystander that has been configured and whose listener has ended stays unaffected. -/
theorem bystander_unaffected_iff_configured_slave :
    ∃ frame, (segmentMaster.begin checksumHash true segmentCall).2.1 = some frame ∧
      bystander.authHandler.hasDevice ⟨0xAA, 0xBB, 0xCC, 0xDD, 0xEE, 1⟩ ∧
      (segmentNetwork { bystander with stateManager := ⟨.preOp⟩ } .exited).Unaffected
        checksumHash () frame workingHardware := by
  obtain ⟨frame, hframe⟩ : ∃ frame, (segmentMaster.begin checksumHash true segmentCall).2.1
      = some frame := ⟨_, rfl⟩
  have hiff := @bystander_unaffected_iff checksumHash Unit _ segmentMaster _ rfl segmentCall
    (by decide) true frame hframe
    (segmentNetwork { bystander with stateManager := ⟨.preOp⟩ } .exited) () rfl (by decide)
    workingHardware
  exact ⟨frame, hframe, by decide, hiff.mpr (.inl (by decide))⟩

/-- The bystander applies the configuration meant for its neighbour, stores it, leaves
DiscoverySync and answers. -/
theorem bystander_applies_ip_config :
    bystander.interfaceMac ≠ segmentCall.targetMac ∧
    bystander.authHandler.sharedSecret = segmentMaster.authHandler.sharedSecret ∧
    ∃ frame response net',
      (segmentMaster.begin checksumHash true segmentCall).2.1 = some frame ∧
      (segmentNetwork bystander .receiving).reach checksumHash () frame workingHardware = net' ∧
      (net'.processed ()).flatMap (·.effects) =
        [.applyIpConfig segmentConfig true,
          .writeDeviceInfo (bystander.configuredInfo segmentConfig) true, .sendTo response] ∧
      net'.wire = [response] ∧
      (net'.slaves ()).deviceInfo = bystander.configuredInfo segmentConfig ∧
      (net'.slaves ()).stateManager = ⟨.preOp⟩ :=
  ⟨by decide, rfl, _, _, _, rfl, rfl, rfl, rfl, rfl, rfl⟩

end Network

end TsnFieldbus
