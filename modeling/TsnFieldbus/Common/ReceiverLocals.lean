import TsnFieldbus.Common.CycleCounter
import TsnFieldbus.Common.L2Utils
import TsnFieldbus.Common.StreamStore
import TsnFieldbus.Foundations.TransitionSystem

/-!
# Variables of the Receiver Threads

What the loops of `spawn_receiver_thread` keep from one frame to the next, in both
`l2_handler.rs`. The counters of the last accepted frames decide how the next frame of a
stream is judged.

- `Accepted`: a pass of the loop that gets as far as the counter comparison.
- `Tracks`: how a pass moves the last counters, whichever thread makes it.
- `missedCycles_of_consecutive`: with which counter a later frame of the stream is compared.
-/

namespace TsnFieldbus

open Foundations

/-- The variables that both receiver threads keep between two passes of their loops. -/
structure ReceiverLocals where
  lastCycleCounter : HashMap UInt16 UInt16
  lastReceiveInstantByStream : HashMap UInt16 Instant
  receiveMetrics : CycleMetrics
  receiveJitterMetrics : CycleMetrics
  previousState : Option DeviceState

/-- What the world outside contributes to a pass of the loop: the state it finds, what the
socket returns (`none` for a receiver error), the shared store when the tag is validated, the
clock, and the answers of the process image. -/
structure LoopInput where
  state : DeviceState
  received : Option Frame
  store : StreamStore
  now : Instant
  writeInputs : InputWrite → Except StatusCode Unit

namespace ReceiverLocals

/-- The variables before the first pass. -/
def start : ReceiverLocals :=
  { lastCycleCounter := ∅
    lastReceiveInstantByStream := ∅
    receiveMetrics := .default
    receiveJitterMetrics := .default
    previousState := none }

/-- The head of the loop: counters and instants do not survive a change of state. -/
def observe (locals : ReceiverLocals) (state : DeviceState) : ReceiverLocals :=
  if locals.previousState ≠ some state then
    { locals with
      lastCycleCounter := ∅
      lastReceiveInstantByStream := ∅
      previousState := some state }
  else locals

/-- The comparison with the last counter of the stream, if there is one. -/
def missedCycles (locals : ReceiverLocals) (stream : StreamConfig) (header : L2Header) :
    Option UInt32 :=
  (locals.lastCycleCounter.lookup header.streamId).bind
    (fun last => cycleCheck stream.cycleTimeNano last header.cycleCounter)

/-- `last_cycle_counter.insert`. -/
def rememberCounter (locals : ReceiverLocals) (header : L2Header) : ReceiverLocals :=
  { locals with
    lastCycleCounter := locals.lastCycleCounter.insert header.streamId header.cycleCounter }

/-- `last_receive_instant_by_stream.insert` and, after a first frame, the metrics; says whether
there was one. -/
def recordReception (locals : ReceiverLocals) (stream : StreamConfig) (streamId : UInt16)
    (now : Instant) : ReceiverLocals × Bool :=
  let inserted :=
    { locals with
      lastReceiveInstantByStream := locals.lastReceiveInstantByStream.insert streamId now }
  match locals.lastReceiveInstantByStream.lookup streamId with
  | none => (inserted, false)
  | some previous =>
    let observedCycleNs := UInt64.ofNat (now - previous)
    ({ inserted with
        receiveMetrics := inserted.receiveMetrics.record observedCycleNs
        receiveJitterMetrics := inserted.receiveJitterMetrics.record
          (absoluteCycleJitterNs observedCycleNs stream.cycleTimeNano.toUInt64) }, true)

@[simp] theorem previousState_observe (locals : ReceiverLocals) (state : DeviceState) :
    (locals.observe state).previousState = some state := by
  unfold observe
  split
  · rfl
  · rename_i h
    exact not_not.mp h

/-- A counter is known to the next pass if the state has not changed. -/
theorem lookup_observe (locals : ReceiverLocals) (state : DeviceState) (streamId : UInt16) :
    (locals.observe state).lastCycleCounter.lookup streamId =
      if locals.previousState = some state then locals.lastCycleCounter.lookup streamId
      else none := by
  unfold observe
  by_cases h : locals.previousState = some state
  · rw [if_neg (not_not.mpr h), if_pos h]
  · rw [if_pos h, if_neg h]
    rfl

@[simp] theorem lastCycleCounter_recordReception (locals : ReceiverLocals)
    (stream : StreamConfig) (streamId : UInt16) (now : Instant) :
    (locals.recordReception stream streamId now).1.lastCycleCounter =
      locals.lastCycleCounter := by
  unfold recordReception
  cases locals.lastReceiveInstantByStream.lookup streamId <;> rfl

@[simp] theorem previousState_recordReception (locals : ReceiverLocals)
    (stream : StreamConfig) (streamId : UInt16) (now : Instant) :
    (locals.recordReception stream streamId now).1.previousState = locals.previousState := by
  unfold recordReception
  cases locals.lastReceiveInstantByStream.lookup streamId <;> rfl

end ReceiverLocals

/-- `handle_input_packet` with the process image behind it: the write and the result. -/
def deliverInput (writeInputs : InputWrite → Except StatusCode Unit) (stream : StreamConfig)
    (payload : List UInt8) : Option InputWrite × Except StatusCode Unit :=
  match handleInputPacket stream payload with
  | .error code => (none, .error code)
  | .ok write => (some write, writeInputs write)

/-! ## Accepted frames -/

section Accepted

variable (blake3 : KeyedHash) (streamMap : HashMap UInt16 StreamConfig)

/-- The frame is parsed, its stream known, its tag valid and its status `NoError`. -/
structure AcceptsFrame (store : StreamStore) (frame : Frame) (parsed : ParsedL2Frame)
    (stream : StreamConfig) : Prop where
  parse : parseL2Frame frame = .ok parsed
  known : streamMap.lookup parsed.header.streamId = some stream
  valid : (store.validateStreamTag blake3 parsed.header parsed.payload parsed.sequenceNumber
    parsed.authTag).1 = .ok true
  status : parsed.header.status = StatusCode.noError.toU8

/-- The pass runs in an active state and accepts a frame. -/
def Accepted (active : DeviceState → Prop) (input : LoopInput) (parsed : ParsedL2Frame)
    (stream : StreamConfig) : Prop :=
  active input.state ∧ ∃ frame, input.received = some frame ∧
    AcceptsFrame blake3 streamMap input.store frame parsed stream

/-- A pass accepts one frame at most. -/
theorem Accepted.unique {active : DeviceState → Prop} {input : LoopInput}
    {parsed parsed' : ParsedL2Frame} {stream stream' : StreamConfig}
    (h : Accepted blake3 streamMap active input parsed stream)
    (h' : Accepted blake3 streamMap active input parsed' stream') :
    parsed = parsed' ∧ stream = stream' := by
  obtain ⟨-, frame, hreceived, haccepts⟩ := h
  obtain ⟨-, frame', hreceived', haccepts'⟩ := h'
  obtain rfl : frame = frame' := Option.some.inj (hreceived.symm.trans hreceived')
  obtain rfl : parsed = parsed' := Except.ok.inj (haccepts.parse.symm.trans haccepts'.parse)
  exact ⟨rfl, Option.some.inj (haccepts.known.symm.trans haccepts'.known)⟩

/-- How a pass moves the last counters: a change of state clears them, an accepted frame sets
that of its stream. -/
structure Tracks (active : DeviceState → Prop) (input : LoopInput)
    (before after : ReceiverLocals) : Prop where
  state : after.previousState = some input.state
  accepted : ∀ parsed stream, Accepted blake3 streamMap active input parsed stream →
    after.lastCycleCounter.lookup parsed.header.streamId = some parsed.header.cycleCounter
  others : ∀ streamId, (∀ parsed stream,
      Accepted blake3 streamMap active input parsed stream → parsed.header.streamId ≠ streamId) →
    after.lastCycleCounter.lookup streamId =
      (before.observe input.state).lastCycleCounter.lookup streamId

variable {blake3 streamMap} {before after : ReceiverLocals} {input : LoopInput}

/-- A pass that accepts a frame and remembers its counter. -/
theorem Tracks.of_accepted {active : DeviceState → Prop} {parsed : ParsedL2Frame}
    {stream : StreamConfig} (h : Accepted blake3 streamMap active input parsed stream)
    (hstate : after.previousState = some input.state)
    (hcounters : after.lastCycleCounter =
      ((before.observe input.state).rememberCounter parsed.header).lastCycleCounter) :
    Tracks blake3 streamMap active input before after := by
  refine ⟨hstate, ?_, ?_⟩
  · intro parsed' stream' h'
    obtain ⟨rfl, rfl⟩ := h.unique blake3 streamMap h'
    rw [hcounters]
    exact AList.lookup_insert _
  · intro streamId hother
    rw [hcounters]
    exact AList.lookup_insert_ne (hother parsed stream h).symm

/-- A pass that accepts no frame and does nothing behind the head of the loop. -/
theorem Tracks.of_quiet {active : DeviceState → Prop}
    (h : ∀ parsed stream, ¬ Accepted blake3 streamMap active input parsed stream) :
    Tracks blake3 streamMap active input before (before.observe input.state) :=
  ⟨before.previousState_observe input.state, fun parsed stream h' => absurd h' (h parsed stream),
    fun _ _ => rfl⟩

variable {σ : Type*} (view : σ → ReceiverLocals) {step : σ → LoopInput → Option σ}
  {active : DeviceState → Prop}

/-- Without an accepted frame of the stream its last counter stays, until the state changes. -/
theorem lookup_observe_of_quiet
    (hstep : ∀ s input t, step s input = some t →
      Tracks blake3 streamMap active input (view s) (view t))
    {s t : σ} {inputs : List LoopInput} (hrun : execute step s inputs = some t)
    {streamId : UInt16} (hquiet : ∀ input ∈ inputs, ∀ parsed stream,
      Accepted blake3 streamMap active input parsed stream → parsed.header.streamId ≠ streamId)
    {state : DeviceState} (hstate : (view s).previousState = some state) (last : DeviceState) :
    ((view t).observe last).lastCycleCounter.lookup streamId =
      if (∀ input ∈ inputs, input.state = state) ∧ last = state then
        (view s).lastCycleCounter.lookup streamId
      else none := by
  induction inputs generalizing s state with
  | nil =>
    obtain rfl : s = t := Option.some.inj hrun
    rw [ReceiverLocals.lookup_observe, hstate]
    simp [eq_comm]
  | cons input rest ih =>
    obtain ⟨u, hu, hrest⟩ := execute_cons_eq_some.mp hrun
    obtain ⟨hnow, hlater⟩ := List.forall_mem_cons.mp hquiet
    have htracks := hstep s input u hu
    rw [ih hrest hlater htracks.state, htracks.others streamId hnow,
      ReceiverLocals.lookup_observe, hstate]
    simp only [List.forall_mem_cons, Option.some.injEq]
    by_cases hsame : input.state = state
    · subst hsame
      simp
    -- the change has cleared the counter
    · rw [if_neg (Ne.symm hsame), ite_self, if_neg (fun h => hsame h.1.1)]

/-- Two accepted frames of a stream with none of it between them. -/
structure Consecutive (blake3 : KeyedHash) (streamMap : HashMap UInt16 StreamConfig)
    (active : DeviceState → Prop) (first : LoopInput) (between : List LoopInput)
    (second : LoopInput) (parsed₁ parsed₂ : ParsedL2Frame) (stream : StreamConfig) : Prop where
  first : Accepted blake3 streamMap active first parsed₁ stream
  between : ∀ input ∈ between, ∀ parsed stream,
    Accepted blake3 streamMap active input parsed stream →
      parsed.header.streamId ≠ parsed₁.header.streamId
  second : Accepted blake3 streamMap active second parsed₂ stream
  sameStream : parsed₂.header.streamId = parsed₁.header.streamId

/-- The second of two consecutive frames is compared with the first, if the state has not
changed since. -/
theorem missedCycles_of_consecutive
    (hstep : ∀ s input t, step s input = some t →
      Tracks blake3 streamMap active input (view s) (view t))
    {first second : LoopInput} {between : List LoopInput} {parsed₁ parsed₂ : ParsedL2Frame}
    {stream : StreamConfig}
    (h : Consecutive blake3 streamMap active first between second parsed₁ parsed₂ stream)
    {s t : σ} (hrun : execute step s (first :: between) = some t) :
    ((view t).observe second.state).missedCycles stream parsed₂.header =
      if ∀ input ∈ between ++ [second], input.state = first.state then
        cycleCheck stream.cycleTimeNano parsed₁.header.cycleCounter parsed₂.header.cycleCounter
      else none := by
  obtain ⟨u, hu, hrest⟩ := execute_cons_eq_some.mp hrun
  have htracks := hstep s first u hu
  -- frames between that are not accepted leave the counter of the first
  have hlookup := lookup_observe_of_quiet view hstep hrest h.between htracks.state second.state
  rw [htracks.accepted _ _ h.first] at hlookup
  rw [ReceiverLocals.missedCycles, h.sameStream, hlookup]
  simp only [List.forall_mem_append, List.forall_mem_singleton]
  split
  · exact Option.bind_some _ _
  · exact Option.bind_none _

end Accepted

end TsnFieldbus
