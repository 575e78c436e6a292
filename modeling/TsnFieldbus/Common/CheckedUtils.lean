import TsnFieldbus.Common.ReceiverLocals
import TsnFieldbus.Foundations.CheckedAccess

/-!
# Helpers of the L2 Loops, Every Operation Checked

The functions of `l2_utils.rs` and the receivers' loop bodies that index, slice or divide, with
`none` where the operation would panic. None of them does.
-/

namespace TsnFieldbus

open Foundations

/-! ## Divisions -/

/-- `gcd_u32` with its remainder checked. -/
def gcdU32Checked (a b : UInt32) : Option UInt32 :=
  if b = 0 then some a
  else
    match _hmod : panicsIf (b = 0) (a % b) with
    | none => none
    | some remainder => gcdU32Checked b remainder
termination_by b.toNat
decreasing_by
  rename_i h
  rw [panicsIf_neg h, Option.some.injEq] at _hmod
  rw [← _hmod, UInt32.toNat_mod]
  exact Nat.mod_lt _ (Nat.pos_of_ne_zero (fun hb => h (UInt32.toNat_inj.mp hb)))

/-- `gcd_all`. -/
def gcdAllChecked : List UInt32 → Option UInt32
  | [] => some 0
  | value :: values => values.foldlM gcdU32Checked value

theorem gcdU32Checked_eq (a b : UInt32) : gcdU32Checked a b = some (gcdU32 a b) := by
  induction a, b using gcdU32.induct with
  | case1 a => rw [gcdU32Checked, gcdU32, if_pos rfl, if_pos rfl]
  | case2 a b hb ih =>
    rw [gcdU32Checked, gcdU32, if_neg hb, if_neg hb]
    have hmod : panicsIf (b = 0) (a % b) = some (a % b) := panicsIf_neg hb
    split
    · rename_i hnone
      cases hmod.symm.trans hnone
    · rename_i remainder hsome
      cases hmod.symm.trans hsome
      exact ih

theorem gcdAllChecked_eq (values : List UInt32) : gcdAllChecked values = some (gcdAll values) := by
  cases values with
  | nil => rfl
  | cons value values =>
    simp only [gcdAllChecked, gcdAll]
    induction values generalizing value with
    | nil => rfl
    | cons next values ih =>
      rw [List.foldlM_cons, gcdU32Checked_eq, List.foldl_cons]
      exact ih (gcdU32 value next)

/-- A cycle has at least one tick. -/
theorem ticksPerCycle_ne_zero (cycleTimeNano : UInt32) : ticksPerCycle cycleTimeNano ≠ 0 := by
  intro h
  have hticks := toNat_ticksPerCycle cycleTimeNano
  rw [h] at hticks
  rw [UInt32.toNat_zero] at hticks
  omega

/-- The comparison of the cycle counters with its `div_ceil` checked. -/
def cycleCheckChecked (cycleTimeNano : UInt32) (last received : UInt16) :
    Option (Option UInt32) :=
  let ticks := ticksPerCycle cycleTimeNano
  let expected := last + ticks.toUInt16
  let forward := (received - expected).toUInt32
  let backward := (expected - received).toUInt32
  let tolerance := toleranceTicks cycleTimeNano
  if min forward backward > tolerance then
    if forward ≤ backward then (panicsIf (ticks = 0) (divCeil forward ticks)).map some
    else some (some 1)
  else some none

theorem cycleCheckChecked_eq (cycleTimeNano : UInt32) (last received : UInt16) :
    cycleCheckChecked cycleTimeNano last received =
      some (cycleCheck cycleTimeNano last received) := by
  simp only [cycleCheckChecked, cycleCheck, panicsIf_neg (ticksPerCycle_ne_zero _),
    Option.map_some]
  split
  · split <;> rfl
  · rfl

namespace CycleMetrics

/-- `CycleMetrics::average_ns` with its division checked. -/
def averageNsChecked (metrics : CycleMetrics) : Option (Option UInt64) :=
  if metrics.samples = 0 then some none
  else
    (panicsIf (metrics.samples.toNat = 0) (metrics.totalNs / metrics.samples.toNat)).map
      (fun average => some (.ofNat average))

/-- `CycleMetrics::values`. -/
def valuesChecked (metrics : CycleMetrics) : Option (Option (UInt64 × UInt64 × UInt64)) :=
  match metrics.minNs, metrics.maxNs with
  | some minNs, some maxNs =>
    metrics.averageNsChecked.map (·.map (fun averageNs => (minNs, maxNs, averageNs)))
  | _, _ => some none

theorem averageNsChecked_eq (metrics : CycleMetrics) :
    metrics.averageNsChecked = some metrics.averageNs := by
  unfold averageNsChecked averageNs
  by_cases hnone : metrics.samples = 0
  · rw [if_pos hnone, if_pos hnone]
  · have hdivisor : metrics.samples.toNat ≠ 0 := fun h => hnone (UInt64.toNat_inj.mp h)
    rw [if_neg hnone, if_neg hnone, panicsIf_neg hdivisor, Option.map_some]

theorem valuesChecked_eq (metrics : CycleMetrics) :
    metrics.valuesChecked = some metrics.values := by
  unfold valuesChecked values
  rw [averageNsChecked_eq]
  cases metrics.minNs with
  | none => rfl
  | some minNs =>
    cases metrics.maxNs with
    | none => rfl
    | some maxNs => cases metrics.averageNs <;> rfl

end CycleMetrics

/-! ## Slices -/

/-- `handle_input_packet` with its slices checked. The first one is taken for the log. -/
def handleInputPacketChecked (stream : StreamConfig) (payload : List UInt8) :
    Option (Except StatusCode InputWrite) :=
  match stream.streamContent with
  | none => some (.error .errParamInvalid)
  | some content =>
    let expectedLen := bitLenToByteLen content.bitLen
    if payload.length < expectedLen then some (.error .errInvalidLen)
    else
      (checkedSlice payload 0 expectedLen).bind (fun _ =>
        (checkedSlice payload 0 expectedLen).map (fun data =>
          .ok { data := data, position := content }))

theorem handleInputPacketChecked_eq (stream : StreamConfig) (payload : List UInt8) :
    handleInputPacketChecked stream payload = some (handleInputPacket stream payload) := by
  unfold handleInputPacketChecked handleInputPacket
  cases stream.streamContent with
  | none => rfl
  | some content =>
    dsimp only
    by_cases hshort : payload.length < bitLenToByteLen content.bitLen
    · rw [if_pos hshort, if_pos hshort]
    · rw [if_neg hshort, if_neg hshort, checkedSlice_take (not_lt.mp hshort), Option.bind_some,
        Option.map_some]

/-- `handle_input_packet` with the process image behind it. -/
def deliverInputChecked (writeInputs : InputWrite → Except StatusCode Unit)
    (stream : StreamConfig) (payload : List UInt8) :
    Option (Option InputWrite × Except StatusCode Unit) :=
  (handleInputPacketChecked stream payload).map (fun packet =>
    match packet with
    | .error code => (none, .error code)
    | .ok write => (some write, writeInputs write))

theorem deliverInputChecked_eq (writeInputs : InputWrite → Except StatusCode Unit)
    (stream : StreamConfig) (payload : List UInt8) :
    deliverInputChecked writeInputs stream payload =
      some (deliverInput writeInputs stream payload) := by
  rw [deliverInputChecked, handleInputPacketChecked_eq, Option.map_some]
  rfl

/-- The comparison with the last counter of the stream, if there is one. -/
def ReceiverLocals.missedCyclesChecked (locals : ReceiverLocals) (stream : StreamConfig)
    (header : L2Header) : Option (Option UInt32) :=
  match locals.lastCycleCounter.lookup header.streamId with
  | none => some none
  | some last => cycleCheckChecked stream.cycleTimeNano last header.cycleCounter

theorem ReceiverLocals.missedCyclesChecked_eq (locals : ReceiverLocals) (stream : StreamConfig)
    (header : L2Header) :
    locals.missedCyclesChecked stream header = some (locals.missedCycles stream header) := by
  unfold missedCyclesChecked missedCycles
  cases locals.lastCycleCounter.lookup header.streamId with
  | none => rfl
  | some last => rw [Option.bind_some, ← cycleCheckChecked_eq]

end TsnFieldbus
