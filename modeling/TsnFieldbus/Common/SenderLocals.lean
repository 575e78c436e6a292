import TsnFieldbus.Common.CheckedUtils
import TsnFieldbus.Foundations.LoopRun

/-!
# Variables of the Sender Threads

What the loops of `spawn_sender_thread` keep from one tick to the next, in both
`l2_handler.rs`, and the parts of the loops that are the same in both.

- `tickPeriod_isSome`: the ticks never have the period zero.
- `senderPass_ne_panics`: a pass panics only while it serves a stream.
-/

namespace TsnFieldbus

open Foundations

/-- The variables that both sender threads keep between two passes of their loops. -/
structure SenderLocals where
  lastSent : HashMap UInt16 Instant
  sendMetrics : CycleMetrics
  sendJitterMetrics : CycleMetrics
  previousState : Option DeviceState

/-- What the world outside contributes to one stream's turn in a pass: the state (read again
by the master), the clock for `elapsed` and for `now`, the answers of the process image, the
cycle counter, the shared store when the tag is generated, and whether the socket fails. -/
structure SenderInput where
  state : DeviceState
  checkedAt : Instant
  now : Instant
  readOutputs : Position → Except StatusCode (List UInt8)
  cycleCounter : UInt16
  store : StreamStore
  sendFails : Bool

/-- What it contributes to one pass: the state at its head and the turns of the streams. -/
structure SenderPassInput where
  state : DeviceState
  turn : ℕ → SenderInput

/-- The turns of a pass in the order of the streams. -/
def SenderPassInput.turns (input : SenderPassInput) (streams : List StreamConfig) :
    List (StreamConfig × SenderInput) :=
  streams.zipIdx.map (fun item => (item.1, input.turn item.2))

namespace SenderLocals

/-- The variables before the first pass. -/
def start : SenderLocals :=
  { lastSent := ∅
    sendMetrics := .default
    sendJitterMetrics := .default
    previousState := none }

/-- The head of the loop: the instants do not survive a change of state. -/
def observe (locals : SenderLocals) (state : DeviceState) : SenderLocals :=
  if locals.previousState ≠ some state then
    { locals with
      lastSent := ∅
      previousState := some state }
  else locals

/-- Whether the stream's cycle has passed since it was sent last. -/
def due (locals : SenderLocals) (streamId : UInt16) (cycleTime : UInt32) (checkedAt : Instant) :
    Bool :=
  match locals.lastSent.lookup streamId with
  | some instant => UInt64.ofNat (checkedAt - instant) ≥ cycleTime.toUInt64
  | none => true

/-- `last_sent.insert` and, in Op after a first frame, the metrics; says whether there was one. -/
def recordSend (locals : SenderLocals) (state : DeviceState) (streamId : UInt16)
    (cycleTime : UInt32) (now : Instant) : SenderLocals × Bool :=
  let inserted := { locals with lastSent := locals.lastSent.insert streamId now }
  if state = .op then
    match locals.lastSent.lookup streamId with
    | none => (inserted, false)
    | some previous =>
      let observedCycleNs := UInt64.ofNat (now - previous)
      ({ inserted with
          sendMetrics := inserted.sendMetrics.record observedCycleNs
          sendJitterMetrics := inserted.sendJitterMetrics.record
            (absoluteCycleJitterNs observedCycleNs cycleTime.toUInt64) }, true)
  else (inserted, false)

@[simp] theorem lastSent_recordSend (locals : SenderLocals) (state : DeviceState)
    (streamId : UInt16) (cycleTime : UInt32) (now : Instant) :
    (locals.recordSend state streamId cycleTime now).1.lastSent =
      locals.lastSent.insert streamId now := by
  unfold recordSend
  dsimp only
  split
  · cases locals.lastSent.lookup streamId <;> rfl
  · rfl

/-- A stream that was not sent since the state changed is due. -/
theorem due_of_unsent {locals : SenderLocals} {streamId : UInt16} (cycleTime : UInt32)
    (checkedAt : Instant) (h : locals.lastSent.lookup streamId = none) :
    locals.due streamId cycleTime checkedAt = true := by
  rw [due, h]

end SenderLocals

/-! ## The tick schedule -/

/-- `tokio::time::interval`, which takes no period of zero. -/
def intervalPeriod (periodNs : UInt32) : Option UInt32 :=
  panicsIf (periodNs = 0) periodNs

/-- The period of the ticks: the common divisor of the cycle times that are not zero. -/
def tickPeriod (streams : List StreamConfig) : Option UInt32 :=
  let cycleTimes := (streams.map (·.cycleTimeNano)).filter (· > 0)
  (gcdAllChecked cycleTimes).bind (fun baseCycle => intervalPeriod (max baseCycle 1))

theorem toNat_max_one (baseCycle : UInt32) : (max baseCycle 1).toNat = max baseCycle.toNat 1 := by
  change (if baseCycle ≤ 1 then 1 else baseCycle).toNat = _
  split
  · rename_i hle
    exact (max_eq_right (UInt32.le_iff_toNat_le.mp hle)).symm
  · rename_i hle
    exact (max_eq_left (le_of_not_ge (fun h => hle (UInt32.le_iff_toNat_le.mpr h)))).symm

/-- The ticks have the period `gcd_all(&cycle_times).max(1)`. -/
theorem tickPeriod_eq (streams : List StreamConfig) :
    tickPeriod streams =
      some (max (gcdAll ((streams.map (·.cycleTimeNano)).filter (· > 0))) 1) := by
  have hperiod (baseCycle : UInt32) : max baseCycle 1 ≠ 0 := by
    intro hzero
    have hnat := toNat_max_one baseCycle
    rw [hzero, UInt32.toNat_zero] at hnat
    omega
  rw [tickPeriod, gcdAllChecked_eq, Option.bind_some, intervalPeriod, panicsIf_neg (hperiod _)]

/-- Whatever the streams, the ticks have a period. -/
theorem tickPeriod_isSome (streams : List StreamConfig) : (tickPeriod streams).isSome := by
  rw [tickPeriod_eq]
  rfl

/-! ## A pass -/

/-- One pass of the loop, given the turn of a stream. When the thread exits it logs its metrics. -/
def senderPass
    (serve : DeviceState → SenderLocals → StreamConfig × SenderInput → PassEnd SenderLocals)
    (streams : List StreamConfig) (locals : SenderLocals) (input : SenderPassInput) :
    PassEnd SenderLocals :=
  let locals := locals.observe input.state
  if input.state ≠ .op ∧ input.state ≠ .safeOp then
    match locals.sendMetrics.valuesChecked, locals.sendJitterMetrics.valuesChecked with
    | some _, some _ => .exits locals
    | _, _ => .panics
  else
    match runLoop (serve input.state) locals (input.turns streams) with
    | .continues locals => .continues locals
    | .exits locals => .continues locals
    | .panics => .panics

/-- The thread: the ticks are set up, then the loop runs. -/
def senderRun (pass : SenderLocals → SenderPassInput → PassEnd SenderLocals)
    (streams : List StreamConfig) (inputs : List SenderPassInput) : PassEnd SenderLocals :=
  match tickPeriod streams with
  | none => .panics
  | some _ => runLoop pass .start inputs

theorem senderRun_eq (pass : SenderLocals → SenderPassInput → PassEnd SenderLocals)
    (streams : List StreamConfig) (inputs : List SenderPassInput) :
    senderRun pass streams inputs = runLoop pass .start inputs := by
  obtain ⟨period, hperiod⟩ := Option.isSome_iff_exists.mp (tickPeriod_isSome streams)
  rw [senderRun, hperiod]

theorem mem_turns {input : SenderPassInput} {streams : List StreamConfig}
    {item : StreamConfig × SenderInput} (h : item ∈ input.turns streams) : item.1 ∈ streams := by
  obtain ⟨⟨stream, index⟩, hmem, rfl⟩ := List.mem_map.mp h
  exact (List.mem_zipIdx hmem).2.2 ▸ List.getElem_mem _

/-- A pass panics only while it serves one of the streams. -/
theorem senderPass_ne_panics
    {serve : DeviceState → SenderLocals → StreamConfig × SenderInput → PassEnd SenderLocals}
    {streams : List StreamConfig}
    (hserve : ∀ state locals item, item.1 ∈ streams → serve state locals item ≠ .panics)
    (locals : SenderLocals) (input : SenderPassInput) :
    senderPass serve streams locals input ≠ .panics := by
  have hloop := @runLoop_ne_panics _ _ (serve input.state) (input.turns streams)
    (locals.observe input.state)
    (fun locals item hmem => hserve input.state locals item (mem_turns hmem))
  simp only [senderPass, CycleMetrics.valuesChecked_eq]
  split
  · intro h
    cases h
  · split
    · intro h
      cases h
    · intro h
      cases h
    · rename_i hpanics
      exact absurd hpanics hloop

/-- A thread whose turns never panic does not panic. -/
theorem senderRun_ne_panics
    {serve : DeviceState → SenderLocals → StreamConfig × SenderInput → PassEnd SenderLocals}
    {streams : List StreamConfig}
    (hserve : ∀ state locals item, item.1 ∈ streams → serve state locals item ≠ .panics)
    (inputs : List SenderPassInput) :
    senderRun (senderPass serve streams) streams inputs ≠ .panics := by
  rw [senderRun_eq]
  exact runLoop_ne_panics _ (fun locals input _ => senderPass_ne_panics hserve locals input)

end TsnFieldbus
