import TsnFieldbus.Protocol.Addressing
import TsnFieldbus.Protocol.DiscoveryInvariants

/-!
# Replayed Requests

A slave keeps one mark for each claimed source address. Requests are only ever authenticated
by the master, but answering registers the slave's own address as a second known source, and
the address is not among the authenticated bytes.

- `request_acted_on_at_most_once`: while the slave accepts requests under the master's address
  alone, every request is acted on at most once, whatever else is delivered.
- `request_acted_on_twice`: a request resent under the slave's own address is acted on again.
-/

namespace TsnFieldbus

open Foundations

namespace Network

variable {ι : Type*} [DecidableEq ι] {blake3 : KeyedHash}

/-- Condition on a step: no request passes the authentication of slave `i` under another
address than the master's. -/
def OtherAddressesRefused (blake3 : KeyedHash) (masterMac : MacAddr) (i : ι) (net : Network ι) :
    NetworkEvent ι → Prop
  | .slaveReceive j frame _ =>
    j = i → ∀ message ∈ Frame.sdcpMessage frame,
      message.source ≠ masterMac → message.parsed.header.opCode.IsRequest →
      ¬ (net.slaves i).Accepts blake3 message.parsed message.source
  | _ => True

instance (blake3 : KeyedHash) (masterMac : MacAddr) (i : ι) (net : Network ι)
    (event : NetworkEvent ι) : Decidable (OtherAddressesRefused blake3 masterMac i net event) :=
  match event with
  | .slaveReceive j frame _ => inferInstanceAs (Decidable (j = i →
      ∀ message ∈ Frame.sdcpMessage frame, message.source ≠ masterMac →
        message.parsed.header.opCode.IsRequest →
        ¬ (net.slaves i).Accepts blake3 message.parsed message.source))
  | .call _ _ | .masterReceive _ | .masterTimeout | .masterSetState _ | .clearDiscoveredDevices
  | .startListener _ | .checkState _ | .slaveSetState _ _ => inferInstanceAs (Decidable True)

/-- Slave `i` has acted on requests from the master's address alone. -/
def ActsForMaster (masterMac : MacAddr) (i : ι) (net : Network ι) : Prop :=
  ∀ record ∈ net.processed i, record.message.parsed.header.opCode.IsRequest →
    record.message.source = masterMac

/-! ## The invariant -/

theorem actsForMaster_step {masterMac : MacAddr} {i : ι} (net : Network ι)
    (event : NetworkEvent ι) (net' : Network ι)
    (h : Wellformed blake3 masterMac net ∧ net.ActsForMaster masterMac i)
    (hguard : net.OtherAddressesRefused blake3 masterMac i event)
    (hstep : net.step blake3 event = some net') :
    Wellformed blake3 masterMac net' ∧ net'.ActsForMaster masterMac i := by
  obtain ⟨hwell, hacts⟩ := h
  refine ⟨wellformed_step net event net' hwell hstep, ?_⟩
  intro record hrecord hrequest
  rcases step_cases blake3 hwell.masterInterface hstep with
    ⟨call, transmitted, -, -, rfl⟩ | ⟨j, frame, hw, message, rfl, hmessage, haccept, rfl⟩ | hquiet
  -- a call touches no slave
  · exact hacts record hrecord hrequest
  · by_cases hj : j = i
    -- another slave processes the packet
    swap
    · rw [processed_afterAnswer_ne blake3 net j message hw (Ne.symm hj)] at hrecord
      exact hacts record hrecord hrequest
    subst hj
    rw [processed_afterAnswer_self] at hrecord
    rcases List.mem_append.mp hrecord with hold | hnew
    · exact hacts record hold hrequest
    -- the condition on the step excludes a request from anybody else
    · rw [List.mem_singleton.mp hnew] at hrequest ⊢
      by_contra hother
      exact hguard rfl message hmessage hother hrequest haccept
  -- quiet steps
  · rw [hquiet.processed] at hrecord
    exact hacts record hrecord hrequest

/-! ## Whole runs -/

/-- **No replay outside the master's address**: in a run in which a slave accepts no request
under another address than the master's, it acts on every request the master has authenticated
at most once. -/
theorem request_acted_on_at_most_once {masterMac : MacAddr} {secret : Secret}
    {net net' : Network ι} (hinit : net.Initial masterMac secret) (i : ι)
    {events : List (NetworkEvent ι)}
    (hguard : EveryStep (step blake3) (OtherAddressesRefused blake3 masterMac i) net events)
    (hrun : execute (step blake3) net events = some net') :
    ∀ request ∈ net'.issued, (net'.processed i).countP (fun record =>
      record.message.parsed.signedBytes = request.message.parsed.signedBytes) ≤ 1 := by
  have hacts : net.ActsForMaster masterMac i := fun record hrecord => by
    simp [hinit.processed i] at hrecord
  obtain ⟨hwell, hacts⟩ :=
    execute_invariant_of_guarded actsForMaster_step ⟨hinit.wellformed, hacts⟩ hguard hrun
  intro request hrequest
  refine @History.countP_le_one _ _ _ (hwell.history i) masterMac
    request.message.parsed.sequenceNumber.toNat _ (fun record hrecord hbytes => ?_)
  -- equal bytes mean equal header and number
  obtain ⟨hheader, -, hnumber⟩ := signedBytes_injective (of_decide_eq_true hbytes)
  refine ⟨hacts record hrecord ?_, congrArg UInt64.toNat hnumber⟩
  rw [hheader]
  exact hwell.isRequest_of_issued hrequest

end Network

/-! ## One master and one slave -/

/-- A master and a slave that trusts it, both in DiscoverySync. -/
def pairNetwork : Network Unit :=
  { master := segmentMaster
    phase := .idle
    slaves := fun _ =>
      segmentSlave ⟨0x11, 0x22, 0x33, 0x44, 0x55, 0x66⟩ ⟨0xAA, 0xBB, 0xCC, 0xDD, 0xEE, 1⟩
    listeners := fun _ => .checking
    wire := []
    issued := []
    processed := fun _ => [] }

theorem initial_pairNetwork :
    pairNetwork.Initial ⟨0xAA, 0xBB, 0xCC, 0xDD, 0xEE, 1⟩ zeroSecret := by
  refine ⟨⟨⟨.discoverySync⟩, rfl⟩, rfl, fun _ => rfl, fun _ mac => ?_, fun _ _ _ => rfl,
    fun () => by decide, rfl, rfl, fun _ => rfl⟩
  exact DiscoveryAuthHandler.sendContext_addNewDevice _ _ _

/-- The frame of the master's first request, a GetIpReq. -/
def firstGetIpRequest : Frame :=
  DiscoveryMaster.requestFrame checksumHash segmentMaster.authHandler
    ⟨0xAA, 0xBB, 0xCC, 0xDD, 0xEE, 1⟩ ⟨0x11, 0x22, 0x33, 0x44, 0x55, 0x66⟩ .getIpReq 1 none

/-- The master asks for the configuration and the slave answers. -/
def answeredGetIp : List (NetworkEvent Unit) :=
  [.call (.getIpConfig ⟨0x11, 0x22, 0x33, 0x44, 0x55, 0x66⟩) true, .checkState (),
    .slaveReceive () firstGetIpRequest workingHardware]

namespace Network

/-- The request is resent to the slave once more as it was. -/
theorem request_acted_on_at_most_once_resent_request :
    ∃ net' : Network Unit, execute (step checksumHash) pairNetwork
        (answeredGetIp ++ [.checkState (), .slaveReceive () firstGetIpRequest workingHardware])
        = some net' ∧
      net'.issued.length = 1 ∧
      ∀ request ∈ net'.issued, (net'.processed ()).countP (fun record =>
        record.message.parsed.signedBytes = request.message.parsed.signedBytes) ≤ 1 := by
  obtain ⟨net', hrun, hissued⟩ : ∃ net' : Network Unit, execute (step checksumHash) pairNetwork
      (answeredGetIp ++ [.checkState (), .slaveReceive () firstGetIpRequest workingHardware])
      = some net' ∧ net'.issued.length = 1 := ⟨_, rfl, by decide +kernel⟩
  exact ⟨net', hrun, hissued, request_acted_on_at_most_once initial_pairNetwork ()
    (by decide +kernel) hrun⟩

/-- The recorded request is resent under the slave's own address, which the slave has
registered by answering: it acts on the request a second time. -/
theorem request_acted_on_twice :
    ∃ (net net' : Network Unit) (events : List (NetworkEvent Unit)) (request : IssuedRequest),
      net.Initial ⟨0xAA, 0xBB, 0xCC, 0xDD, 0xEE, 1⟩ zeroSecret ∧
      (∀ mac, (net.slaves ()).authHandler.hasDevice mac = true →
        mac = ⟨0xAA, 0xBB, 0xCC, 0xDD, 0xEE, 1⟩) ∧
      EveryStep (step checksumHash) (Unforgeable checksumHash) net events ∧
      execute (step checksumHash) net events = some net' ∧ net'.issued = [request] ∧
      (net'.processed ()).countP (fun record =>
        record.message.parsed.signedBytes = request.message.parsed.signedBytes) = 2 := by
  refine ⟨pairNetwork, _, answeredGetIp ++ [.checkState (), .slaveReceive ()
    (MutableEthernetPacket.setSource firstGetIpRequest ⟨0x11, 0x22, 0x33, 0x44, 0x55, 0x66⟩)
    workingHardware], _, initial_pairNetwork, ?_, ?_, rfl, rfl, ?_⟩
  · intro mac hmac
    rcases DiscoveryAuthHandler.hasDevice_addNewDevice.mp hmac with rfl | hnone
    · rfl
    · cases hnone
  · decide +kernel
  · decide +kernel

end Network

end TsnFieldbus
