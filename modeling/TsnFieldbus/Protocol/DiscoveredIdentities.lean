import TsnFieldbus.Protocol.DiscoveryInvariants
import TsnFieldbus.Protocol.RequestReplay

/-!
# Identities of Discovered Devices

The master takes the address of a discovered device from the Ethernet header, which no tag
covers; the identification comes from the authenticated TLV.

- `discovered_identity_authenticated`: every identification in the cache was announced by a
  slave, and by the slave with that address when no payload reaches the master under another.
- `one_response_discovers_two_devices`: otherwise one response makes two entries.
-/

namespace TsnFieldbus

open Foundations

namespace Network

variable {ι : Type*} {blake3 : KeyedHash}

/-- Slave `i` has answered a DiscoverReq with the identification of the device. -/
def AnnouncedBy (net : Network ι) (i : ι) (device : DiscoveredDevice) : Prop :=
  ∃ record message, net.RespondedWith i record message ∧
    record.message.parsed.header.opCode = .discoverReq ∧
    message.parsed.header.opCode = .discoverRes ∧
    announcedDevice message = some { device with macAddress := (net.slaves i).interfaceMac }

/-- The condition `AuthenticFrom` on the messages the master receives. -/
def MasterAuthenticFrom (blake3 : KeyedHash) (related : MacAddr → MacAddr → Prop)
    (net : Network ι) : NetworkEvent ι → Prop
  | .masterReceive frame => AuthenticFrom blake3 related net (.masterReceive frame)
  | _ => True

instance (related : MacAddr → MacAddr → Prop) [DecidableRel related] (net : Network ι)
    (event : NetworkEvent ι) : Decidable (MasterAuthenticFrom blake3 related net event) :=
  match event with
  | .masterReceive frame =>
    inferInstanceAs (Decidable (AuthenticFrom blake3 related net (.masterReceive frame)))
  | .call _ _ | .slaveReceive _ _ _ | .masterTimeout | .masterSetState _
  | .clearDiscoveredDevices | .startListener _ | .checkState _ | .slaveSetState _ _ =>
    inferInstanceAs (Decidable True)

/-- Every entry of the cache is filed under its address and was announced by a slave whose
address is related to that one. -/
def EntriesFrom (related : MacAddr → MacAddr → Prop) (net : Network ι) : Prop :=
  ∀ mac device, net.master.discoveredDevices.lookup mac = some device →
    device.macAddress = mac ∧
      ∃ i, related (net.slaves i).interfaceMac mac ∧ net.AnnouncedBy i device

/-! ## The invariant -/

/-- An authenticated discovery response was sent by a slave, from a related address. -/
theorem announcedBy_of_accepts {masterMac : MacAddr} {net : Network ι}
    (hwell : Wellformed blake3 masterMac net) {related : MacAddr → MacAddr → Prop} {frame : Frame}
    (hguard : AuthenticFrom blake3 related net (.masterReceive frame)) {message : SdcpMessage}
    (hmessage : Frame.sdcpMessage frame = some message)
    (hop : message.parsed.header.opCode = .discoverRes)
    (haccepts : AcceptsDiscovery blake3 net.master.authHandler message)
    {device : DiscoveredDevice} (hdevice : announcedDevice message = some device) :
    device.macAddress = message.source ∧
      ∃ i, related (net.slaves i).interfaceMac message.source ∧ net.AnnouncedBy i device := by
  obtain ⟨wireFrame, hwire, sent, hsent, hbytes, hrelated⟩ := hguard message hmessage haccepts.2
  obtain ⟨hheader, htlv, -⟩ := signedBytes_injective hbytes
  have hsentOp : sent.parsed.header.opCode = .discoverRes := by rw [hheader, hop]
  simp only [announcedDevice, Option.map_eq_some_iff] at hdevice
  obtain ⟨info, hinfo, rfl⟩ := hdevice
  refine ⟨rfl, ?_⟩
  rcases hwell.origin sent ⟨wireFrame, hwire, hsent⟩ with
    ⟨request, hrequest, rfl⟩ | ⟨i, record, hresponse⟩
  -- the master itself sends no responses
  · have hreq := hwell.isRequest_of_issued hrequest
    rw [hsentOp] at hreq
    simp [SdcpOpCode.IsRequest] at hreq
  -- a response is the record of a slave, which has its address in it
  · obtain ⟨opCode, tlv, hto, hsource, hsentHeader, -, -⟩ := hwell.response hresponse
    refine ⟨i, hsource ▸ hrelated, record, sent, hresponse, ?_, hsentOp, ?_⟩
    · rw [hsentHeader] at hsentOp
      cases hto with
      | discover hreq => exact hreq
      | getIp => cases hsentOp
      | setIp => cases hsentOp
    · simp only [announcedDevice, htlv, hinfo, Option.map_some, hsource]
      rfl

variable [DecidableEq ι]

theorem entriesFrom_step {masterMac : MacAddr} {related : MacAddr → MacAddr → Prop}
    (net : Network ι) (event : NetworkEvent ι) (net' : Network ι)
    (h : Wellformed blake3 masterMac net ∧ net.EntriesFrom related)
    (hguard : MasterAuthenticFrom blake3 related net event)
    (hstep : net.step blake3 event = some net') :
    Wellformed blake3 masterMac net' ∧ net'.EntriesFrom related := by
  obtain ⟨hwell, hentries⟩ := h
  refine ⟨wellformed_step net event net' hwell hstep, ?_⟩
  -- what has been announced stays announced
  have hkeep : ∀ i device, net.AnnouncedBy i device → net'.AnnouncedBy i device := by
    rintro i device ⟨record, message, hresponse, hreq, hres, hannounced⟩
    obtain ⟨haddress, hrecords⟩ := records_step hwell.masterInterface hstep i
    exact ⟨record, message, hresponse.mono hrecords, hreq, hres, by rw [haddress, hannounced]⟩
  -- entries from before stay justified
  have hold : ∀ mac device, net.master.discoveredDevices.lookup mac = some device →
      device.macAddress = mac ∧
        ∃ i, related (net'.slaves i).interfaceMac mac ∧ net'.AnnouncedBy i device := by
    intro mac device hlookup
    obtain ⟨hmac, i, hrelated, hannounced⟩ := hentries mac device hlookup
    refine ⟨hmac, i, ?_, hkeep i device hannounced⟩
    rw [(records_step hwell.masterInterface hstep i).1]
    exact hrelated
  intro mac device hlookup
  rcases discoveredDevices_step hwell.masterInterface hstep with
    heq | ⟨-, heq⟩ | ⟨frame, message, rfl, hmessage, hop, haccepts, heq⟩
  -- the cache is as it was, or empty
  · exact hold mac device (heq ▸ hlookup)
  · rw [heq] at hlookup
    cases hlookup
  -- a response was taken in: it may have replaced the entry
  · rw [heq, DiscoveryMaster.afterDiscovery] at hlookup
    cases hannounced : announcedDevice message with
    | none =>
      simp only [hannounced] at hlookup
      exact hold mac device hlookup
    | some new =>
      simp only [hannounced] at hlookup
      by_cases hmac : mac = new.macAddress
      · subst hmac
        rw [AList.lookup_insert] at hlookup
        cases hlookup
        obtain ⟨hsource, i, hrelated, hby⟩ :=
          announcedBy_of_accepts hwell hguard hmessage hop haccepts hannounced
        refine ⟨rfl, i, ?_, hkeep i _ hby⟩
        rw [(records_step hwell.masterInterface hstep i).1, hsource]
        exact hrelated
      · rw [AList.lookup_insert_ne hmac] at hlookup
        exact hold mac device hlookup

/-! ## Whole runs -/

theorem entriesFrom_of_run {masterMac : MacAddr} {secret : Secret} {net net' : Network ι}
    (hinit : net.Initial masterMac secret) {related : MacAddr → MacAddr → Prop}
    {events : List (NetworkEvent ι)}
    (hguard : EveryStep (step blake3) (MasterAuthenticFrom blake3 related) net events)
    (hrun : execute (step blake3) net events = some net') : net'.EntriesFrom related := by
  have hempty : net.EntriesFrom related := by
    obtain ⟨manager, hmaster⟩ := hinit.master
    intro mac device hlookup
    rw [hmaster] at hlookup
    cases hlookup
  exact (execute_invariant_of_guarded entriesFrom_step ⟨hinit.wellformed, hempty⟩ hguard hrun).2

/-- **Identities are authenticated**: in every run against an adversary without the secret,
each entry of the cache carries an identification that a slave announced for a DiscoverReq.
When no payload reaches the master under another address than it was sent from, that slave
owns the entry's address. -/
theorem discovered_identity_authenticated {masterMac : MacAddr} {secret : Secret}
    {net net' : Network ι} (hinit : net.Initial masterMac secret) {events : List (NetworkEvent ι)}
    (hforge : EveryStep (step blake3) (Unforgeable blake3) net events)
    (hrun : execute (step blake3) net events = some net') :
    ∀ mac device, net'.master.discoveredDevices.lookup mac = some device →
      device.macAddress = mac ∧ (∃ i, net'.AnnouncedBy i device) ∧
      (EveryStep (step blake3) (MasterAuthenticFrom blake3 Eq) net events →
        ∃ i, (net'.slaves i).interfaceMac = mac ∧ net'.AnnouncedBy i device) := by
  have hmaster : EveryStep (step blake3) (MasterAuthenticFrom blake3 (fun _ _ => True)) net
      events := by
    refine hforge.imp (fun s event hevent => ?_)
    cases event with
    | masterReceive frame => exact hevent
    | _ => trivial
  intro mac device hlookup
  obtain ⟨hmac, i, -, hannounced⟩ := entriesFrom_of_run hinit hmaster hrun mac device hlookup
  exact ⟨hmac, ⟨i, hannounced⟩, fun hunspoofed =>
    (entriesFrom_of_run hinit hunspoofed hrun mac device hlookup).2⟩

/-! ### One slave, one response -/

/-- The frame of the master's first request, a DiscoverReq. -/
def firstDiscoverRequest : Frame :=
  DiscoveryMaster.requestFrame checksumHash segmentMaster.authHandler
    ⟨0xAA, 0xBB, 0xCC, 0xDD, 0xEE, 1⟩ broadcastMac .discoverReq 1 none

/-- The slave's response to it. -/
def firstDiscoverResponse : Frame :=
  (pairNetwork.slaves ()).nextResponse checksumHash ⟨0xAA, 0xBB, 0xCC, 0xDD, 0xEE, 1⟩ .discoverRes 1
    (.deviceInfo 0 0 0)

/-- The master discovers the slave. -/
def discoveredOnce : List (NetworkEvent Unit) :=
  [.call .discoverDevices true, .checkState (),
    .slaveReceive () firstDiscoverRequest workingHardware, .masterReceive firstDiscoverResponse]

/-- After an undisturbed discovery the entry belongs to the slave. -/
theorem discovered_identity_authenticated_undisturbed :
    ∃ net' : Network Unit, execute (step checksumHash) pairNetwork discoveredOnce = some net' ∧
      net'.master.discoveredDevices.lookup ⟨0x11, 0x22, 0x33, 0x44, 0x55, 0x66⟩
        = some ⟨⟨0x11, 0x22, 0x33, 0x44, 0x55, 0x66⟩, 0, 0, 0⟩ ∧
      ∃ i, (net'.slaves i).interfaceMac = ⟨0x11, 0x22, 0x33, 0x44, 0x55, 0x66⟩ ∧
        net'.AnnouncedBy i ⟨⟨0x11, 0x22, 0x33, 0x44, 0x55, 0x66⟩, 0, 0, 0⟩ := by
  obtain ⟨net', hrun, hlookup⟩ : ∃ net' : Network Unit,
      execute (step checksumHash) pairNetwork discoveredOnce = some net' ∧
      net'.master.discoveredDevices.lookup ⟨0x11, 0x22, 0x33, 0x44, 0x55, 0x66⟩
        = some ⟨⟨0x11, 0x22, 0x33, 0x44, 0x55, 0x66⟩, 0, 0, 0⟩ := ⟨_, rfl, by decide +kernel⟩
  exact ⟨net', hrun, hlookup, (discovered_identity_authenticated initial_pairNetwork
    (by decide +kernel) hrun _ _ hlookup).2.2 (by decide +kernel)⟩

/-- The one response a slave ever authenticated is resent under a second address, and the
master lists a second device with its identification. -/
theorem one_response_discovers_two_devices :
    ∃ (net net' : Network Unit) (events : List (NetworkEvent Unit))
        (device other : DiscoveredDevice),
      net.Initial ⟨0xAA, 0xBB, 0xCC, 0xDD, 0xEE, 1⟩ zeroSecret ∧
      EveryStep (step checksumHash) (Unforgeable checksumHash) net events ∧
      execute (step checksumHash) net events = some net' ∧
      (∀ i, (net'.processed i).length = 1) ∧
      net'.master.discoveredDevices.lookup device.macAddress = some device ∧
      net'.master.discoveredDevices.lookup other.macAddress = some other ∧
      device.macAddress ≠ other.macAddress ∧
      (∀ i, (net'.slaves i).interfaceMac ≠ other.macAddress) :=
  ⟨pairNetwork, _, discoveredOnce ++ [.masterReceive (MutableEthernetPacket.setSource
      firstDiscoverResponse ⟨0x77, 0x88, 0x99, 0xAA, 0xBB, 0xCC⟩)],
    ⟨⟨0x11, 0x22, 0x33, 0x44, 0x55, 0x66⟩, 0, 0, 0⟩,
    ⟨⟨0x77, 0x88, 0x99, 0xAA, 0xBB, 0xCC⟩, 0, 0, 0⟩,
    initial_pairNetwork, by decide +kernel, rfl, by decide +kernel, by decide +kernel,
    by decide +kernel, by decide, by decide +kernel⟩

end Network

end TsnFieldbus
