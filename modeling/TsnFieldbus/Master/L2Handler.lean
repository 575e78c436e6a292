import TsnFieldbus.Slave.L2Handler

/-!
# Master L2 Handler

The receiver and sender threads of `master/l2_handler.rs`, one loop body at a time, and how
they compare with the slave's. The master reports nothing and runs in SafeOp and Op; cycle
metrics and the cycle-counter comparison stop no frame and follow in `Master.ReceiverLoop`.
-/

namespace TsnFieldbus

/-- The loop body of the master's `spawn_receiver_thread` on a received frame: what it passes
to the process image, if it gets there, and the store. -/
def receiveMasterL2Frame (blake3 : KeyedHash) (streamMap : HashMap UInt16 StreamConfig)
    (store : StreamStore) (frame : Frame) : Option (Except StatusCode InputWrite) × StreamStore :=
  match parseL2Frame frame with
  | .error _ => (none, store)
  | .ok parsed =>
    match streamMap.lookup parsed.header.streamId with
    | none => (none, store)
    | some stream =>
      match store.validateStreamTag blake3 parsed.header parsed.payload parsed.sequenceNumber
        parsed.authTag with
      | (.ok true, store) =>
        if parsed.header.status ≠ StatusCode.noError.toU8 then (none, store)
        else (some (handleInputPacket stream parsed.payload), store)
      | (.ok false, store) => (none, store)
      | (.error _, store) => (none, store)

/-- The loop body of the master's `spawn_sender_thread` for a stream that is due, which is
that of the slave. -/
def sendMasterL2Stream (blake3 : KeyedHash) (sourceMac : MacAddr)
    (readOutputs : Position → Except StatusCode (List UInt8)) (cycleCounter : UInt16)
    (store : StreamStore) (stream : StreamConfig) : Option Frame × StreamStore :=
  sendL2Stream blake3 sourceMac readOutputs cycleCounter store stream

/-- The call of `write_inputs` behind what was passed to the process image. -/
def writtenByMaster : Option (Except StatusCode InputWrite) → Option InputWrite
  | some (.ok write) => some write
  | some (.error _) | none => none

/-- Master and slave write the same inputs and keep the same store. -/
theorem receiveMasterL2Frame_eq (blake3 : KeyedHash)
    (streamMap : HashMap UInt16 StreamConfig) (store : StreamStore) (frame : Frame) :
    writtenByMaster (receiveMasterL2Frame blake3 streamMap store frame).1 =
        (receiveL2Frame blake3 streamMap store frame).1.written ∧
      (receiveMasterL2Frame blake3 streamMap store frame).2 =
        (receiveL2Frame blake3 streamMap store frame).2 := by
  unfold receiveMasterL2Frame receiveL2Frame
  cases parseL2Frame frame with
  | error code => cases code <;> exact ⟨rfl, rfl⟩
  | ok parsed =>
    dsimp only
    cases streamMap.lookup parsed.header.streamId with
    | none => exact ⟨rfl, rfl⟩
    | some stream =>
      dsimp only
      rcases store.validateStreamTag blake3 parsed.header parsed.payload parsed.sequenceNumber
        parsed.authTag with ⟨result, next⟩
      rcases result with code | valid
      · exact ⟨rfl, rfl⟩
      · cases valid with
        | false => exact ⟨rfl, rfl⟩
        | true =>
          dsimp only
          split
          · exact ⟨rfl, rfl⟩
          · cases handleInputPacket stream parsed.payload <;> exact ⟨rfl, rfl⟩

end TsnFieldbus
