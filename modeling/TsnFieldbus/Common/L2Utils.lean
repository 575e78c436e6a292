import TsnFieldbus.Common.SlaveApiTypes
import TsnFieldbus.Foundations.BigEndian

/-!
# Process Image Helpers of the L2 Handlers

The part of `l2_utils.rs` that moves payloads between frames and the process image, the common
divisor of the senders' cycle times, and the cycle metrics. The process image is a trait of the
manufacturer; its answers are arguments.
-/

namespace TsnFieldbus

/-- `bit_len_to_byte_len`: `div_ceil(8)`. -/
def bitLenToByteLen (bitLen : UInt32) : ℕ := (bitLen.toNat + 7) / 8

/-- Bytes handed to `ProcessImageAccess::write_inputs` with their position. -/
structure InputWrite where
  data : List UInt8
  position : Position
deriving DecidableEq, Repr

/-- `handle_input_packet`: the write it makes. Bytes beyond the stream's size are ignored. -/
def handleInputPacket (stream : StreamConfig) (payload : List UInt8) :
    Except StatusCode InputWrite :=
  match stream.streamContent with
  | none => .error .errParamInvalid
  | some content =>
    let expectedLen := bitLenToByteLen content.bitLen
    if payload.length < expectedLen then .error .errInvalidLen
    else .ok { data := payload.take expectedLen, position := content }

/-- `build_frame_payload`; `readOutputs` answers for the process image. -/
def buildFramePayload (readOutputs : Position → Except StatusCode (List UInt8))
    (stream : StreamConfig) : Except StatusCode (List UInt8) :=
  match stream.streamContent with
  | none => .error .errParamInvalid
  | some content => readOutputs content

/-! ## Common divisor -/

/-- `gcd_u32`. -/
def gcdU32 (a b : UInt32) : UInt32 :=
  if b = 0 then a else gcdU32 b (a % b)
termination_by b.toNat
decreasing_by
  rename_i h
  rw [UInt32.toNat_mod]
  exact Nat.mod_lt _ (Nat.pos_of_ne_zero (fun hb => h (UInt32.toNat_inj.mp hb)))

/-- `gcd_all`: zero for no values. -/
def gcdAll : List UInt32 → UInt32
  | [] => 0
  | value :: values => values.foldl gcdU32 value

/-! ## Cycle metrics -/

/-- `absolute_cycle_jitter_ns`. -/
def absoluteCycleJitterNs (observedCycleNs targetCycleNs : UInt64) : UInt64 :=
  if observedCycleNs < targetCycleNs then targetCycleNs - observedCycleNs
  else observedCycleNs - targetCycleNs

/-- Minimum, maximum and sum of the recorded cycles. The sum is a `u128`. -/
structure CycleMetrics where
  minNs : Option UInt64
  maxNs : Option UInt64
  totalNs : ℕ
  samples : UInt64
deriving DecidableEq, Repr

namespace CycleMetrics

/-- `CycleMetrics::default`. -/
def default : CycleMetrics := { minNs := none, maxNs := none, totalNs := 0, samples := 0 }

/-- `CycleMetrics::record`; sum and count saturate. -/
def record (metrics : CycleMetrics) (cycleNs : UInt64) : CycleMetrics :=
  { minNs := some (metrics.minNs.elim cycleNs (min · cycleNs))
    maxNs := some (metrics.maxNs.elim cycleNs (max · cycleNs))
    totalNs := min (metrics.totalNs + cycleNs.toNat) (2 ^ 128 - 1)
    samples := Foundations.saturatingAdd metrics.samples 1 }

/-- `CycleMetrics::average_ns`. -/
def averageNs (metrics : CycleMetrics) : Option UInt64 :=
  if metrics.samples = 0 then none
  else some (.ofNat (metrics.totalNs / metrics.samples.toNat))

/-- `CycleMetrics::values`. -/
def values (metrics : CycleMetrics) : Option (UInt64 × UInt64 × UInt64) :=
  match metrics.minNs, metrics.maxNs, metrics.averageNs with
  | some minNs, some maxNs, some averageNs => some (minNs, maxNs, averageNs)
  | _, _, _ => none

end CycleMetrics

/-! ## What a delivered payload writes -/

/-- A packet is written unless its stream has no content or the payload is too short. -/
theorem handleInputPacket_cases (stream : StreamConfig) (payload : List UInt8) :
    (stream.streamContent = none ∧ handleInputPacket stream payload = .error .errParamInvalid) ∨
    (∃ content, stream.streamContent = some content ∧
      payload.length < bitLenToByteLen content.bitLen ∧
      handleInputPacket stream payload = .error .errInvalidLen) ∨
    (∃ content, stream.streamContent = some content ∧
      bitLenToByteLen content.bitLen ≤ payload.length ∧
      handleInputPacket stream payload =
        .ok ⟨payload.take (bitLenToByteLen content.bitLen), content⟩) := by
  unfold handleInputPacket
  cases hcontent : stream.streamContent with
  | none => exact .inl ⟨rfl, rfl⟩
  | some content =>
    right
    by_cases hshort : payload.length < bitLenToByteLen content.bitLen
    · exact .inl ⟨content, rfl, hshort, if_pos hshort⟩
    · exact .inr ⟨content, rfl, not_lt.mp hshort, if_neg hshort⟩

/-- Zero bytes behind a payload of sufficient length do not change the write. -/
theorem handleInputPacket_append {stream : StreamConfig} {payload padding : List UInt8}
    {write : InputWrite} (h : handleInputPacket stream payload = .ok write) :
    handleInputPacket stream (payload ++ padding) = .ok write := by
  unfold handleInputPacket at h ⊢
  split at h
  · cases h
  · rename_i content hcontent
    simp only at h ⊢
    split at h
    · cases h
    · rename_i hlen
      have hlen' : bitLenToByteLen content.bitLen ≤ payload.length := not_lt.mp hlen
      have hlong : ¬ (payload ++ padding).length < bitLenToByteLen content.bitLen := by
        rw [List.length_append]
        omega
      rw [if_neg hlong, List.take_append_of_le_length hlen']
      exact h

example : handleInputPacket
    { streamId := 1001, destinationMac := [0, 1, 2, 3, 4, 5], vlanIdPcp := 0x100,
      cycleTimeNano := 1000000, direction := 0, streamContent := some ⟨0, 0, 16⟩ }
    [0x12, 0x34, 0x00, 0x00, 0x00] = .ok ⟨[0x12, 0x34], ⟨0, 0, 16⟩⟩ := rfl

end TsnFieldbus
