import TsnFieldbus.Master.L2Handler
import TsnFieldbus.Slave.SenderLoop

/-!
# The Master's Sender Loop With Its Variables

One stream's turn in the loop of the master's `spawn_sender_thread`. It differs from the
slave's in two points: the master reports nothing, and it reads the state again for each
stream and leaves the rest of the pass when it is neither SafeOp nor Op.

- `serveMasterStream_eq`: reports aside, a turn is the slave's.
-/

namespace TsnFieldbus

open Foundations

/-- What a stream's turn sends and leaves behind. -/
structure MasterTurn where
  frame : Option Frame
  locals : SenderLocals
  store : StreamStore

/-- A stream's turn in a pass of the master's loop. -/
def serveMasterStream (blake3 : KeyedHash) (sourceMac : MacAddr) (locals : SenderLocals)
    (stream : StreamConfig) (input : SenderInput) : Option MasterTurn :=
  let cycleTime := max stream.cycleTimeNano 1
  let streamId := stream.streamId.toUInt16
  if ¬ locals.due streamId cycleTime input.checkedAt then
    some { frame := none, locals := locals, store := input.store }
  else do
    let (locals, _) := locals.recordSend input.state streamId cycleTime input.now
    match ← transmitStream blake3 sourceMac input stream with
    | (.error _, store) => some { frame := none, locals := locals, store := store }
    | (.ok frame, store) => some { frame := some frame, locals := locals, store := store }

/-- The turn as the end of the loop sees it. -/
def masterTurn (blake3 : KeyedHash) (sourceMac : MacAddr) (_ : DeviceState)
    (locals : SenderLocals) (item : StreamConfig × SenderInput) : PassEnd SenderLocals :=
  if item.2.state ≠ .op ∧ item.2.state ≠ .safeOp then .exits locals
  else .ofChecked ((serveMasterStream blake3 sourceMac locals item.1 item.2).map (·.locals))

/-- One pass of the master's loop. -/
def masterSenderPass (blake3 : KeyedHash) (sourceMac : MacAddr) (streams : List StreamConfig) :
    SenderLocals → SenderPassInput → PassEnd SenderLocals :=
  senderPass (masterTurn blake3 sourceMac) streams

/-- In the same state, master and slave send the same frame and keep the same variables. -/
theorem serveMasterStream_eq (blake3 : KeyedHash) (sourceMac : MacAddr) (locals : SenderLocals)
    (stream : StreamConfig) (input : SenderInput) :
    serveMasterStream blake3 sourceMac locals stream input =
      (serveSlaveStream blake3 sourceMac input.state locals stream input).map
        (fun turn => ⟨turn.frame, turn.locals, turn.store⟩) := by
  unfold serveMasterStream serveSlaveStream
  dsimp only
  split
  · rfl
  · obtain ⟨reports, hreports⟩ := Option.isSome_iff_exists.mp (sendMetricReports_isSome
      (locals.recordSend input.state stream.streamId.toUInt16 (max stream.cycleTimeNano 1)
        input.now).1
      (locals.recordSend input.state stream.streamId.toUInt16 (max stream.cycleTimeNano 1)
        input.now).2)
    rw [hreports]
    cases transmitStream blake3 sourceMac input stream with
    | none => rfl
    | some sent =>
      obtain ⟨result, store⟩ := sent
      cases result <;> rfl

end TsnFieldbus
