import TsnFieldbus.Protocol.L2Node
import TsnFieldbus.Slave.RequestOutcomes

/-!
# From Configuration to Wire

A StreamConfig has 32-bit fields and a byte vector, a frame has 16-bit fields and a six-byte
address. `validate_streams` checks the ranges of the stream identifier and of the address;
the VLAN field is narrowed by the sender loop without a check.

- `carriesConfig_of_sent`: what the frames of a validated stream carry.
- `transmitsConfig_iff`: for which lists all frames carry the configuration.
-/

namespace TsnFieldbus

open Foundations StreamStore

/-- The frame parses to the stream's identifier, destination and VLAN field as configured. -/
def CarriesConfig (frame : Frame) (stream : StreamConfig) : Prop :=
  ∃ parsed, parseL2Frame frame = .ok parsed ∧
    parsed.header.streamId.toNat = stream.streamId.toNat ∧
    parsed.destination.octets = stream.destinationMac ∧
    parsed.vlanIdPcp.toNat = stream.vlanIdPcp.toNat

/-- A destination of six bytes is used as it is. -/
theorem parseDestinationMac_of_length {stream : StreamConfig}
    (h : stream.destinationMac.length = 6) :
    ∃ destination, parseDestinationMac stream = some destination ∧
      destination.octets = stream.destinationMac := by
  obtain ⟨a, b, c, d, e, f, hmac⟩ : ∃ a b c d e f, stream.destinationMac = [a, b, c, d, e, f] := by
    match hmac : stream.destinationMac, h with
    | [a, b, c, d, e, f], _ => exact ⟨a, b, c, d, e, f, rfl⟩
  exact ⟨⟨a, b, c, d, e, f⟩, by rw [parseDestinationMac, hmac], by rw [hmac]; rfl⟩

/-- Narrowing is harmless exactly in the range of 16 bits. -/
theorem toNat_toUInt16_eq_iff (value : UInt32) :
    value.toUInt16.toNat = value.toNat ↔ value ≤ 65535 := by
  refine ⟨fun h => ?_, toNat_toUInt16_of_le⟩
  rw [UInt32.le_iff_toNat_le, ← h]
  have := value.toUInt16.toNat_lt
  exact Nat.le_of_lt_succ this

section Frames

variable (blake3 : KeyedHash)

/-- A frame of a validated stream carries its configuration exactly when the VLAN field fits. -/
theorem carriesConfig_of_sent {layout : List ProcessVariable} {stream : StreamConfig}
    (hvalid : ValidStream layout stream) {store : StreamStore} {sourceMac : MacAddr}
    {readOutputs : Position → Except StatusCode (List UInt8)} {cycleCounter : UInt16}
    {frame : Frame}
    (hsent : (L2Party.slave.sendFrame blake3 sourceMac readOutputs cycleCounter store stream).1 =
      some frame) :
    CarriesConfig frame stream ↔ stream.vlanIdPcp ≤ 65535 := by
  obtain ⟨destination, hdestination, hoctets⟩ :=
    parseDestinationMac_of_length hvalid.destinationMac
  obtain ⟨status, payload, hread⟩ := exists_outputsRead readOutputs stream
  rcases @sendFrame_cases blake3 store .slave sourceMac readOutputs cycleCounter stream status
    payload hread with ⟨-, hnone⟩ | ⟨other, e, hother, -, heq⟩
  · rw [hnone] at hsent
    cases hsent
  · rw [hdestination, Option.some.injEq] at hother
    subst hother
    rw [heq, Option.some.injEq] at hsent
    subst hsent
    -- all fields survive the narrowing but the VLAN tag
    rw [← toNat_toUInt16_eq_iff]
    unfold CarriesConfig
    simp only [parseL2Frame_build, Except.ok.injEq, exists_eq_left', L2Header.new,
      toNat_toUInt16_of_le hvalid.streamId, hoctets, true_and]

/-- The sender loop of a slave configured with a validated list transmits a frame for each of
its Output streams, as soon as it is due. -/
theorem exists_sent_of_validated {layout : List ProcessVariable} {streams : List StreamConfig}
    (hvalid : validateStreams layout [] streams = .ok ()) (store : StreamStore)
    {stream : StreamConfig} (hmem : stream ∈ streams)
    (houtput : stream.direction = Direction.output.toI32) :
    stream ∈ (L2Node.start .slave (store.reset.addStreamConfigs streams).2).outputStreams ∧
    ∃ frame, (L2Party.slave.sendFrame blake3 ⟨0, 0, 0, 0, 0, 0⟩ (fun _ => .ok []) 0
      (store.reset.addStreamConfigs streams).2 stream).1 = some frame := by
  obtain ⟨-, -, hfresh, -⟩ := addStreamConfigs_reset_of_validated store hvalid
  obtain ⟨seq, -, hentry⟩ := hfresh stream hmem
  refine ⟨?_, ?_⟩
  · exact mem_getStreamsByDirection.mpr ⟨houtput, _, _, hentry, rfl⟩
  -- a validated address has six bytes, and the stream has its entry
  · obtain ⟨destination, hdestination, -⟩ := parseDestinationMac_of_length
      (validStream_of_validateStreams hvalid stream hmem).destinationMac
    obtain ⟨status, payload, hread⟩ := exists_outputsRead (fun _ => .ok []) stream
    rcases @sendFrame_cases blake3 (store.reset.addStreamConfigs streams).2 .slave
      ⟨0, 0, 0, 0, 0, 0⟩ (fun _ => .ok []) 0 stream status payload hread with
      ⟨hnone | hnone, -⟩ | ⟨_, _, -, -, heq⟩
    · rw [hdestination] at hnone
      cases hnone
    · rw [hentry] at hnone
      cases hnone
    · rw [heq]
      exact ⟨_, rfl⟩

/-- A served stream is one of the output streams, and its frame is recorded as sent. -/
theorem L2Node.sent_of_step {node next : L2Node} {state : DeviceState} {sourceMac : MacAddr}
    {readOutputs : Position → Except StatusCode (List UInt8)} {cycleCounter : UInt16}
    {stream : StreamConfig}
    (h : node.step blake3 (.send state sourceMac readOutputs cycleCounter stream) = some next) :
    stream ∈ node.outputStreams ∧
      next.sent = node.sent ++ (node.party.sendFrame blake3 sourceMac readOutputs cycleCounter
        node.store stream).1.toList := by
  simp only [step] at h
  split at h
  · rename_i hcond
    cases h
    exact ⟨hcond.2, rfl⟩
  · cases h

/-- A run keeps the party and its output streams. -/
theorem L2Node.execute_outputStreams {node next : L2Node} {events : List L2Event}
    (h : execute (step blake3) node events = some next) :
    next.party = node.party ∧ next.outputStreams = node.outputStreams := by
  constructor
  · exact execute_observable_eq (·.party) (fun _ _ _ hs => (step_fixed hs).1) h
  · exact execute_observable_eq (·.outputStreams) (fun _ _ _ hs => (step_fixed hs).2.2.1) h

/-- Every frame that the sender loop transmits in a run of the node carries the configuration
of its stream. -/
def L2Node.TransmitsConfig (start : L2Node) : Prop :=
  ∀ events node, execute (step blake3) start events = some node →
    ∀ state sourceMac readOutputs cycleCounter stream next frame,
      node.step blake3 (.send state sourceMac readOutputs cycleCounter stream) = some next →
      next.sent = node.sent ++ [frame] → CarriesConfig frame stream

/-- **When the configuration reaches the wire unchanged**: for a list that `validate_streams`
accepts, every frame that the sender loop transmits in any run carries its stream's
configuration if and only if the VLAN fields of the list's Output streams fit 16 bits. -/
theorem transmitsConfig_iff {layout : List ProcessVariable} {streams : List StreamConfig}
    (hvalid : validateStreams layout [] streams = .ok ()) (store : StreamStore) :
    (L2Node.start .slave (store.reset.addStreamConfigs streams).2).TransmitsConfig blake3 ↔
      ∀ stream ∈ streams, stream.direction = Direction.output.toI32 →
        stream.vlanIdPcp ≤ 65535 := by
  have hstreams := validStream_of_validateStreams hvalid
  constructor
  · intro hall stream hmem houtput
    -- the first frame of the stream shows whether its VLAN field fits
    obtain ⟨hdue, frame, hframe⟩ := exists_sent_of_validated blake3 hvalid store hmem houtput
    have hstep : ∃ next, L2Node.step blake3
        (.start .slave (store.reset.addStreamConfigs streams).2)
        (.send .safeOp ⟨0, 0, 0, 0, 0, 0⟩ (fun _ => .ok []) 0 stream) = some next :=
      ⟨_, if_pos ⟨rfl, hdue⟩⟩
    obtain ⟨next, hstep⟩ := hstep
    obtain ⟨-, hrecord⟩ := L2Node.sent_of_step blake3 hstep
    have hsent : next.sent = [] ++ [frame] :=
      hrecord.trans (congrArg (fun sent => [] ++ Option.toList sent) hframe)
    exact (carriesConfig_of_sent blake3 (hstreams stream hmem) hframe).mp
      (hall [] _ rfl _ _ _ _ _ _ frame hstep hsent)
  · intro hfits events node hrun state sourceMac readOutputs cycleCounter stream next frame hstep
      hsent
    obtain ⟨hdue, hrecord⟩ := L2Node.sent_of_step blake3 hstep
    obtain ⟨hparty, houtputs⟩ := L2Node.execute_outputStreams blake3 hrun
    -- the output streams are those of the list
    rw [houtputs] at hdue
    obtain ⟨houtput, id, e, hentry, rfl⟩ := mem_getStreamsByDirection.mp hdue
    obtain ⟨hmem, -⟩ := (holdsExactly_of_validated store hvalid).only id e hentry
    rw [hsent, List.append_cancel_left_eq, hparty] at hrecord
    have hframe := Option.toList_eq_singleton_iff.mp hrecord.symm
    exact (carriesConfig_of_sent blake3 (hstreams _ hmem) hframe).mpr (hfits _ hmem houtput)

/-- One Output stream of one byte with the given VLAN field. -/
def taggedStream (vlanIdPcp : UInt32) : StreamConfig :=
  { streamId := 5
    destinationMac := [0, 1, 2, 3, 4, 5]
    vlanIdPcp := vlanIdPcp
    cycleTimeNano := 250000
    direction := 1
    streamContent := some ⟨0, 0, 8⟩ }

theorem transmitsConfig_iff_priority_six :
    (L2Node.start .slave
      ((StreamStore.new zeroSecret).reset.addStreamConfigs
        [taggedStream 0xC064]).2).TransmitsConfig checksumHash :=
  (@transmitsConfig_iff checksumHash [⟨"valve", 0, 1, 0, 0, 8⟩] [taggedStream 0xC064] (by decide)
    (.new zeroSecret)).mpr (by decide)

/-- A stream is accepted with the VLAN field 65537, and its frame is sent with 1. -/
theorem vlan_field_narrowed_on_the_wire :
    validateStreams [⟨"valve", 0, 1, 0, 0, 8⟩] [] [taggedStream 65537] = .ok () ∧
    ∃ next frame parsed,
      (L2Node.start .slave ((StreamStore.new zeroSecret).reset.addStreamConfigs
        [taggedStream 65537]).2).step checksumHash
          (.send .safeOp ⟨0, 0, 0, 0, 0, 1⟩ (fun _ => .ok [7]) 0 (taggedStream 65537)) =
        some next ∧
      next.sent = [frame] ∧ parseL2Frame frame = .ok parsed ∧ parsed.vlanIdPcp = 1 ∧
      ¬ CarriesConfig frame (taggedStream 65537) := by
  refine ⟨by decide, ?_⟩
  obtain ⟨next, frame, parsed, hstep, hsent, hparse, hvlan⟩ : ∃ next frame parsed,
      (L2Node.start .slave ((StreamStore.new zeroSecret).reset.addStreamConfigs
        [taggedStream 65537]).2).step checksumHash
          (.send .safeOp ⟨0, 0, 0, 0, 0, 1⟩ (fun _ => .ok [7]) 0 (taggedStream 65537)) =
        some next ∧
      next.sent = [frame] ∧ parseL2Frame frame = .ok parsed ∧ parsed.vlanIdPcp = 1 :=
    ⟨_, _, _, rfl, rfl, parseL2Frame_build _ _ _ _ _ _, rfl⟩
  refine ⟨next, frame, parsed, hstep, hsent, hparse, hvlan, ?_⟩
  rintro ⟨other, hother, -, -, hfield⟩
  cases hparse.symm.trans hother
  rw [hvlan] at hfield
  exact absurd hfield (by decide)

end Frames

end TsnFieldbus
