import TsnFieldbus.Common.ReceiverLocals
import TsnFieldbus.Master.L2Handler

/-!
# The Master's Receiver Loop With Its Variables

One pass of the loop in the master's `spawn_receiver_thread`. It differs from the slave's in
three points: the master has no status store and keeps its own total of missed cycles, it
reads frames in SafeOp as well, and it records metrics in Op only.

- `masterPass`: the pass.
- `receiveMasterFrame_eq`: the total aside, it is `receiveMasterL2Frame`.
- `masterStep_tracks`: the counters move as the slave's do.
-/

namespace TsnFieldbus

open Foundations

/-- The variables of the master's thread. -/
structure MasterReceiverLocals extends ReceiverLocals where
  missedCyclesTotal : UInt64

/-- What one pass warns about, writes and leaves behind. -/
structure MasterPass where
  /-- The count in the warning "Cycle counter mismatch". -/
  mismatch : Option UInt32
  written : Option InputWrite
  locals : MasterReceiverLocals
  store : StreamStore

/-- The loop body on a received frame. -/
def receiveMasterFrame (blake3 : KeyedHash) (streamMap : HashMap UInt16 StreamConfig)
    (locals : MasterReceiverLocals) (input : LoopInput) (frame : Frame) : MasterPass :=
  match parseL2Frame frame with
  | .error _ => ⟨none, none, locals, input.store⟩
  | .ok parsed =>
    match streamMap.lookup parsed.header.streamId with
    | none => ⟨none, none, locals, input.store⟩
    | some stream =>
      match input.store.validateStreamTag blake3 parsed.header parsed.payload
        parsed.sequenceNumber parsed.authTag with
      | (.error _, store) => ⟨none, none, locals, store⟩
      | (.ok false, store) => ⟨none, none, locals, store⟩
      | (.ok true, store) =>
        if parsed.header.status ≠ StatusCode.noError.toU8 then ⟨none, none, locals, store⟩
        else
          let mismatch := locals.missedCycles stream parsed.header
          let missedCyclesTotal :=
            match mismatch with
            | some missedCycles => saturatingAdd locals.missedCyclesTotal missedCycles.toUInt64
            | none => locals.missedCyclesTotal
          let common := locals.rememberCounter parsed.header
          let common :=
            if input.state = .op then
              (common.recordReception stream parsed.header.streamId input.now).1
            else common
          let (written, _) := deliverInput input.writeInputs stream parsed.payload
          ⟨mismatch, written, ⟨common, missedCyclesTotal⟩, store⟩

/-- One pass of the loop; `none` when the thread exits. -/
def masterPass (blake3 : KeyedHash) (streamMap : HashMap UInt16 StreamConfig)
    (locals : MasterReceiverLocals) (input : LoopInput) : Option MasterPass :=
  let locals : MasterReceiverLocals :=
    ⟨locals.toReceiverLocals.observe input.state, locals.missedCyclesTotal⟩
  if input.state ≠ .op ∧ input.state ≠ .safeOp then none
  else
    match input.received with
    | none => some ⟨none, none, locals, input.store⟩
    | some frame => some (receiveMasterFrame blake3 streamMap locals input frame)

/-- The step from the variables before a pass to those after it. -/
def masterStep (blake3 : KeyedHash) (streamMap : HashMap UInt16 StreamConfig)
    (locals : MasterReceiverLocals) (input : LoopInput) : Option MasterReceiverLocals :=
  (masterPass blake3 streamMap locals input).map (·.locals)

/-- The states in which the master's thread reads frames. -/
def masterActive (state : DeviceState) : Prop := state = .op ∨ state = .safeOp

variable {blake3 : KeyedHash} {streamMap : HashMap UInt16 StreamConfig}

/-! ## What a frame leads to -/

/-- Writes and store are those of the loop body without the variables. -/
theorem receiveMasterFrame_eq (blake3 : KeyedHash) (streamMap : HashMap UInt16 StreamConfig)
    (locals : MasterReceiverLocals) (input : LoopInput) (frame : Frame) :
    (receiveMasterFrame blake3 streamMap locals input frame).written =
        writtenByMaster (receiveMasterL2Frame blake3 streamMap input.store frame).1 ∧
      (receiveMasterFrame blake3 streamMap locals input frame).store =
        (receiveMasterL2Frame blake3 streamMap input.store frame).2 := by
  -- the same checks, with and without the counters
  unfold receiveMasterFrame receiveMasterL2Frame
  cases parseL2Frame frame with
  | error code => exact ⟨rfl, rfl⟩
  | ok parsed =>
    dsimp only
    cases streamMap.lookup parsed.header.streamId with
    | none => exact ⟨rfl, rfl⟩
    | some stream =>
      dsimp only
      rcases input.store.validateStreamTag blake3 parsed.header parsed.payload
        parsed.sequenceNumber parsed.authTag with ⟨result, next⟩
      rcases result with code | valid
      · exact ⟨rfl, rfl⟩
      · cases valid with
        | false => exact ⟨rfl, rfl⟩
        | true =>
          dsimp only
          split
          · exact ⟨rfl, rfl⟩
          · unfold deliverInput
            cases handleInputPacket stream parsed.payload <;> exact ⟨rfl, rfl⟩

/-- A frame that is not accepted changes no variable. -/
theorem receiveMasterFrame_of_not_accepted {locals : MasterReceiverLocals} {input : LoopInput}
    {frame : Frame}
    (h : ∀ parsed stream, ¬ AcceptsFrame blake3 streamMap input.store frame parsed stream) :
    (receiveMasterFrame blake3 streamMap locals input frame).locals = locals := by
  unfold receiveMasterFrame
  split
  · rfl
  · rename_i parsed hparse
    split
    · rfl
    · rename_i stream hstream
      split
      · rfl
      · rfl
      · rename_i store hvalid
        split
        · rfl
        · rename_i hstatus
          exact absurd ⟨hparse, hstream, congrArg Prod.fst hvalid, not_not.mp hstatus⟩
            (h parsed stream)

/-- An accepted frame: comparison and delivery. -/
theorem receiveMasterFrame_of_accepted (locals : MasterReceiverLocals) {input : LoopInput}
    {frame : Frame} {parsed : ParsedL2Frame} {stream : StreamConfig}
    (h : AcceptsFrame blake3 streamMap input.store frame parsed stream) :
    (receiveMasterFrame blake3 streamMap locals input frame).mismatch =
        locals.missedCycles stream parsed.header ∧
      (receiveMasterFrame blake3 streamMap locals input frame).locals.missedCyclesTotal =
        ((locals.missedCycles stream parsed.header).elim locals.missedCyclesTotal
          (fun missed => saturatingAdd locals.missedCyclesTotal missed.toUInt64)) ∧
      (receiveMasterFrame blake3 streamMap locals input frame).written =
        (deliverInput input.writeInputs stream parsed.payload).1 ∧
      (receiveMasterFrame blake3 streamMap locals input frame).locals.previousState =
        locals.previousState ∧
      (receiveMasterFrame blake3 streamMap locals input frame).locals.lastCycleCounter =
        (locals.rememberCounter parsed.header).lastCycleCounter := by
  obtain ⟨store, hvalid⟩ : ∃ store, input.store.validateStreamTag blake3 parsed.header
      parsed.payload parsed.sequenceNumber parsed.authTag = (.ok true, store) :=
    ⟨_, Prod.ext h.valid rfl⟩
  unfold receiveMasterFrame
  simp only [h.parse, h.known, hvalid, h.status, ne_eq, not_true_eq_false, if_false, true_and]
  -- the reports, the counted total, and the last counter
  refine ⟨?_, ?_, ?_⟩
  · cases locals.missedCycles stream parsed.header <;> rfl
  · split
    · simp [ReceiverLocals.rememberCounter]
    · rfl
  · split
    · simp
    · rfl

/-- The accepted frame is the one the body receives. -/
theorem masterPass_of_accepted (locals : MasterReceiverLocals) {input : LoopInput}
    {parsed : ParsedL2Frame} {stream : StreamConfig}
    (h : Accepted blake3 streamMap masterActive input parsed stream) :
    ∃ frame, AcceptsFrame blake3 streamMap input.store frame parsed stream ∧
      masterPass blake3 streamMap locals input =
        some (receiveMasterFrame blake3 streamMap
          ⟨locals.toReceiverLocals.observe input.state, locals.missedCyclesTotal⟩ input frame) := by
  obtain ⟨hstate, frame, hreceived, haccepts⟩ := h
  refine ⟨frame, haccepts, ?_⟩
  rcases hstate with hstate | hstate <;> simp [masterPass, hstate, hreceived]

/-- A pass moves the counters as it should. -/
theorem masterStep_tracks (locals : MasterReceiverLocals) (input : LoopInput)
    (next : MasterReceiverLocals) (h : masterStep blake3 streamMap locals input = some next) :
    Tracks blake3 streamMap masterActive input locals.toReceiverLocals
      next.toReceiverLocals := by
  obtain ⟨pass, hpass, rfl⟩ := Option.map_eq_some_iff.mp h
  by_cases haccepted : ∃ parsed stream, Accepted blake3 streamMap masterActive input parsed stream
  · obtain ⟨parsed, stream, haccepted⟩ := haccepted
    obtain ⟨frame, haccepts, heq⟩ := masterPass_of_accepted locals haccepted
    obtain rfl := Option.some.inj (heq.symm.trans hpass)
    obtain ⟨-, -, -, hstate, hcounters⟩ := receiveMasterFrame_of_accepted
      ⟨locals.toReceiverLocals.observe input.state, locals.missedCyclesTotal⟩ haccepts
    refine .of_accepted haccepted ?_ hcounters
    rw [hstate, ReceiverLocals.previousState_observe]
  -- every other pass leaves the variables as the head of the loop does
  · have hquiet : ∀ parsed stream, ¬ Accepted blake3 streamMap masterActive input parsed stream :=
      fun parsed stream h => haccepted ⟨parsed, stream, h⟩
    have hlocals : pass.locals.toReceiverLocals =
        locals.toReceiverLocals.observe input.state := by
      unfold masterPass at hpass
      simp only at hpass
      split at hpass
      · cases hpass
      · rename_i hactive
        have hstate : masterActive input.state := by
          rw [masterActive]
          tauto
        split at hpass
        · cases hpass
          rfl
        · rename_i frame hreceived
          cases hpass
          rw [receiveMasterFrame_of_not_accepted]
          intro parsed stream haccepts
          exact hquiet parsed stream ⟨hstate, frame, hreceived, haccepts⟩
    rw [hlocals]
    exact .of_quiet hquiet

end TsnFieldbus
