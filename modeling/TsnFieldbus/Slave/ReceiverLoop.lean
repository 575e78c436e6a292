import TsnFieldbus.Common.ReceiverLocals
import TsnFieldbus.Slave.DeviceStatus
import TsnFieldbus.Slave.L2Handler

/-!
# The Slave's Receiver Loop With Its Variables

One pass of the loop in the slave's `spawn_receiver_thread`, with the counter comparison, the
metrics and the status reports that `receiveL2Frame` leaves out.

- `slavePass`: the pass.
- `receiveSlaveFrame_eq`: reports aside, it is `receiveL2Frame`.
- `slaveStep_tracks`, `slavePass_of_accepted`: what a pass does to the counters and what an
  accepted frame leads to.
-/

namespace TsnFieldbus

open Foundations

/-- What one pass reports to the status store, writes and leaves behind. -/
structure SlavePass where
  reports : List StatusUpdate
  written : Option InputWrite
  locals : ReceiverLocals
  store : StreamStore

/-- The reports of the counter comparison. -/
def cycleReports : Option UInt32 → List StatusUpdate
  | some missedCycles => [.missedCycles missedCycles, .statusCode .errCycleCounter]
  | none => []

/-- The report of the receive metrics, after a recorded interval. -/
def metricReports (locals : ReceiverLocals) (recorded : Bool) : List StatusUpdate :=
  if recorded then
    match locals.receiveMetrics.values with
    | some (minNs, maxNs, averageNs) => [.receiveCycleMetrics minNs maxNs averageNs]
    | none => []
  else []

/-- The report of a packet that could not be handled. -/
def deliveryReports : Except StatusCode Unit → List StatusUpdate
  | .error code => [.statusCode code]
  | .ok () => []

/-- The loop body on a received frame, in Op. -/
def receiveSlaveFrame (blake3 : KeyedHash) (streamMap : HashMap UInt16 StreamConfig)
    (locals : ReceiverLocals) (input : LoopInput) (frame : Frame) : SlavePass :=
  match parseL2Frame frame with
  | .error .errInvalidEthertype => ⟨[], none, locals, input.store⟩
  | .error _ => ⟨[.statusCode .errFrameParsing], none, locals, input.store⟩
  | .ok parsed =>
    match streamMap.lookup parsed.header.streamId with
    | none => ⟨[.statusCode .errStreamIdUnknown], none, locals, input.store⟩
    | some stream =>
      match input.store.validateStreamTag blake3 parsed.header parsed.payload
        parsed.sequenceNumber parsed.authTag with
      | (.error code, store) => ⟨[.statusCode code], none, locals, store⟩
      | (.ok false, store) => ⟨[.statusCode .errAuthFailed], none, locals, store⟩
      | (.ok true, store) =>
        if parsed.header.status ≠ StatusCode.noError.toU8 then
          ⟨[.statusCode .errFrameWithErrorStatus], none, locals, store⟩
        else
          let reports := cycleReports (locals.missedCycles stream parsed.header)
          let locals := locals.rememberCounter parsed.header
          let (locals, recorded) :=
            locals.recordReception stream parsed.header.streamId input.now
          let reports := reports ++ metricReports locals recorded
          let (written, result) := deliverInput input.writeInputs stream parsed.payload
          ⟨reports ++ deliveryReports result, written, locals, store⟩

/-- One pass of the loop; `none` when the thread exits. -/
def slavePass (blake3 : KeyedHash) (streamMap : HashMap UInt16 StreamConfig)
    (locals : ReceiverLocals) (input : LoopInput) : Option SlavePass :=
  let locals := locals.observe input.state
  if input.state = .safeOp then some ⟨[], none, locals, input.store⟩
  else if input.state ≠ .op then none
  else
    match input.received with
    | none => some ⟨[], none, locals, input.store⟩
    | some frame => some (receiveSlaveFrame blake3 streamMap locals input frame)

/-- The step from the variables before a pass to those after it. -/
def slaveStep (blake3 : KeyedHash) (streamMap : HashMap UInt16 StreamConfig)
    (locals : ReceiverLocals) (input : LoopInput) : Option ReceiverLocals :=
  (slavePass blake3 streamMap locals input).map (·.locals)

/-- The states in which the slave's thread reads frames. -/
def slaveActive (state : DeviceState) : Prop := state = .op

variable {blake3 : KeyedHash} {streamMap : HashMap UInt16 StreamConfig}

/-! ## What a frame leads to -/

/-- Writes and store are those of the loop body without the variables. -/
theorem receiveSlaveFrame_eq (blake3 : KeyedHash) (streamMap : HashMap UInt16 StreamConfig)
    (locals : ReceiverLocals) (input : LoopInput) (frame : Frame) :
    (receiveSlaveFrame blake3 streamMap locals input frame).written =
        (receiveL2Frame blake3 streamMap input.store frame).1.written ∧
      (receiveSlaveFrame blake3 streamMap locals input frame).store =
        (receiveL2Frame blake3 streamMap input.store frame).2 := by
  -- the counters stand beside the checks and decide none of them
  unfold receiveSlaveFrame receiveL2Frame
  cases parseL2Frame frame with
  | error code => cases code <;> exact ⟨rfl, rfl⟩
  | ok parsed =>
    dsimp only
    cases streamMap.lookup parsed.header.streamId with
    | none => exact ⟨rfl, rfl⟩
    | some stream =>
      dsimp only
      rcases input.store.validateStreamTag blake3 parsed.header parsed.payload
        parsed.sequenceNumber parsed.authTag with ⟨result, next⟩
      rcases result with code | valid
      · exact ⟨rfl, rfl⟩
      · cases valid with
        | false => exact ⟨rfl, rfl⟩
        -- a frame with a status is not delivered
        | true =>
          dsimp only
          split
          · exact ⟨rfl, rfl⟩
          · unfold deliverInput
            cases handleInputPacket stream parsed.payload <;> exact ⟨rfl, rfl⟩

/-- A frame that is not accepted changes no variable and writes nothing. -/
theorem receiveSlaveFrame_of_not_accepted {locals : ReceiverLocals} {input : LoopInput}
    {frame : Frame}
    (h : ∀ parsed stream, ¬ AcceptsFrame blake3 streamMap input.store frame parsed stream) :
    (receiveSlaveFrame blake3 streamMap locals input frame).locals = locals := by
  unfold receiveSlaveFrame
  split
  · rfl
  · rfl
  · rename_i parsed hparse
    split
    · rfl
    · rename_i stream hstream
      split
      · rfl
      · rfl
      · rename_i store hvalid
        split
        · rfl
        · rename_i hstatus
          exact absurd ⟨hparse, hstream, congrArg Prod.fst hvalid, not_not.mp hstatus⟩
            (h parsed stream)

/-- An accepted frame: comparison, metrics and delivery, in this order. -/
theorem receiveSlaveFrame_of_accepted (locals : ReceiverLocals) {input : LoopInput}
    {frame : Frame} {parsed : ParsedL2Frame} {stream : StreamConfig}
    (h : AcceptsFrame blake3 streamMap input.store frame parsed stream) :
    let recorded := (locals.rememberCounter parsed.header).recordReception stream
      parsed.header.streamId input.now
    let delivered := deliverInput input.writeInputs stream parsed.payload
    (receiveSlaveFrame blake3 streamMap locals input frame).reports =
        cycleReports (locals.missedCycles stream parsed.header) ++
          metricReports recorded.1 recorded.2 ++ deliveryReports delivered.2 ∧
      (receiveSlaveFrame blake3 streamMap locals input frame).written = delivered.1 ∧
      (receiveSlaveFrame blake3 streamMap locals input frame).locals = recorded.1 := by
  obtain ⟨store, hvalid⟩ : ∃ store, input.store.validateStreamTag blake3 parsed.header
      parsed.payload parsed.sequenceNumber parsed.authTag = (.ok true, store) :=
    ⟨_, Prod.ext h.valid rfl⟩
  unfold receiveSlaveFrame
  simp only [h.parse, h.known, hvalid, h.status, ne_eq, not_true_eq_false, if_false, and_self]

/-- The frame accepted in Op is the one the body receives. -/
theorem slavePass_of_accepted (locals : ReceiverLocals) {input : LoopInput}
    {parsed : ParsedL2Frame} {stream : StreamConfig}
    (h : Accepted blake3 streamMap slaveActive input parsed stream) :
    ∃ frame, AcceptsFrame blake3 streamMap input.store frame parsed stream ∧
      slavePass blake3 streamMap locals input =
        some (receiveSlaveFrame blake3 streamMap (locals.observe input.state) input frame) := by
  obtain ⟨hstate, frame, hreceived, haccepts⟩ := h
  refine ⟨frame, haccepts, ?_⟩
  rw [slaveActive] at hstate
  simp [slavePass, hstate, hreceived]

/-- A pass moves the counters as it should. -/
theorem slaveStep_tracks (locals : ReceiverLocals) (input : LoopInput) (next : ReceiverLocals)
    (h : slaveStep blake3 streamMap locals input = some next) :
    Tracks blake3 streamMap slaveActive input locals next := by
  obtain ⟨pass, hpass, rfl⟩ := Option.map_eq_some_iff.mp h
  by_cases haccepted : ∃ parsed stream, Accepted blake3 streamMap slaveActive input parsed stream
  · obtain ⟨parsed, stream, haccepted⟩ := haccepted
    obtain ⟨frame, haccepts, heq⟩ := slavePass_of_accepted locals haccepted
    obtain rfl := Option.some.inj (heq.symm.trans hpass)
    obtain ⟨-, -, hlocals⟩ := receiveSlaveFrame_of_accepted (locals.observe input.state) haccepts
    refine .of_accepted haccepted ?_ ?_
    · rw [hlocals]
      simp [ReceiverLocals.rememberCounter]
    · rw [hlocals, ReceiverLocals.lastCycleCounter_recordReception]
  -- every other pass leaves the variables as the head of the loop does
  · have hquiet : ∀ parsed stream, ¬ Accepted blake3 streamMap slaveActive input parsed stream :=
      fun parsed stream h => haccepted ⟨parsed, stream, h⟩
    have hlocals : pass.locals = locals.observe input.state := by
      unfold slavePass at hpass
      simp only at hpass
      split at hpass
      · cases hpass
        rfl
      · split at hpass
        · cases hpass
        · rename_i hop
          split at hpass
          · cases hpass
            rfl
          · rename_i frame hreceived
            cases hpass
            refine receiveSlaveFrame_of_not_accepted ?_
            intro parsed stream haccepts
            exact hquiet parsed stream ⟨not_not.mp hop, frame, hreceived, haccepts⟩
    rw [hlocals]
    exact .of_quiet hquiet

end TsnFieldbus
