import TsnFieldbus.Common.SenderLocals
import TsnFieldbus.Slave.L2Handler
import TsnFieldbus.Slave.DeviceStatus

/-!
# The Slave's Sender Loop With Its Variables

One stream's turn in the loop of the slave's `spawn_sender_thread`, with the due times, the
metrics and the status reports that `sendL2Stream` leaves out, and with every operation
checked: `none` is a panic.

- `transmitStream_isSome_iff`: only the destination address can be indexed out of bounds.
- `sendL2Stream_of_transmitStream`: reports aside, a turn that sends is `sendL2Stream`.
- `serveSlaveStream_isSome_iff`: which turns panic.
-/

namespace TsnFieldbus

open Foundations

/-! ## Sending -/

/-- The address is indexed inside its bytes if there are at least six of them. -/
theorem parseDestinationMac_isSome_iff (stream : StreamConfig) :
    (parseDestinationMac stream).isSome ↔ 6 ≤ stream.destinationMac.length := by
  unfold parseDestinationMac
  split
  · rename_i hmac
    simp [hmac]
  · rename_i hshort
    refine iff_of_false (by simp) ?_
    intro hlen
    match hmac : stream.destinationMac, hlen with
    | a :: b :: c :: d :: e :: f :: rest, _ => exact hshort a b c d e f rest hmac

/-- The end of a turn, from the payload on: the frame or the error of the tag generation. -/
def transmitStream (blake3 : KeyedHash) (sourceMac : MacAddr) (input : SenderInput)
    (stream : StreamConfig) : Option (Except StatusCode Frame × StreamStore) := do
  let (status, payload) :=
    match buildFramePayload input.readOutputs stream with
    | .ok payload => (StatusCode.noError, payload)
    | .error code => (code, [])
  let destination ← parseDestinationMac stream
  let header := L2Header.new stream.streamId.toUInt16 input.cycleCounter status.toU8
  match input.store.generateStreamTag blake3 header payload with
  | (.error code, store) => some (.error code, store)
  | (.ok (sequenceNumber, authTag), store) =>
    some (.ok (buildL2Frame sourceMac destination stream.vlanIdPcp.toUInt16 header payload
      { sequenceNumber := sequenceNumber, authTag := authTag }), store)

theorem transmitStream_isSome_iff (blake3 : KeyedHash) (sourceMac : MacAddr)
    (input : SenderInput) (stream : StreamConfig) :
    (transmitStream blake3 sourceMac input stream).isSome ↔
      6 ≤ stream.destinationMac.length := by
  rw [← parseDestinationMac_isSome_iff]
  unfold transmitStream
  cases parseDestinationMac stream with
  | none => simp
  | some destination =>
    simp only [Option.bind_eq_bind, Option.bind_some, Option.isSome_some, iff_true]
    split <;> rfl

/-- A turn that sends does what the loop body without the variables does. -/
theorem sendL2Stream_of_transmitStream {blake3 : KeyedHash} {sourceMac : MacAddr}
    {input : SenderInput} {stream : StreamConfig} {result : Except StatusCode Frame}
    {store : StreamStore}
    (h : transmitStream blake3 sourceMac input stream = some (result, store)) :
    sendL2Stream blake3 sourceMac input.readOutputs input.cycleCounter input.store stream =
      (result.toOption, store) := by
  unfold transmitStream at h
  unfold sendL2Stream
  cases hmac : parseDestinationMac stream with
  | none =>
    rw [hmac] at h
    cases h
  | some destination =>
    rw [hmac] at h
    -- whichever payload is sent, the tag is generated for it in both
    cases hpayload : buildFramePayload input.readOutputs stream with
    | error code =>
      simp only [hpayload, Option.bind_eq_bind, Option.bind_some] at h ⊢
      rcases hgenerate : input.store.generateStreamTag blake3
        (.new stream.streamId.toUInt16 input.cycleCounter code.toU8) [] with ⟨tag, next⟩
      rw [hgenerate] at h
      cases tag <;> cases h <;> rfl
    | ok payload =>
      simp only [hpayload, Option.bind_eq_bind, Option.bind_some] at h ⊢
      rcases hgenerate : input.store.generateStreamTag blake3
        (.new stream.streamId.toUInt16 input.cycleCounter StatusCode.noError.toU8) payload with
        ⟨tag, next⟩
      rw [hgenerate] at h
      cases tag <;> cases h <;> rfl

/-! ## A turn -/

/-- What a stream's turn reports to the status store, sends and leaves behind. -/
structure SlaveTurn where
  reports : List StatusUpdate
  frame : Option Frame
  locals : SenderLocals
  store : StreamStore

/-- The report of the send metrics, after a recorded interval. -/
def sendMetricReports (locals : SenderLocals) (recorded : Bool) : Option (List StatusUpdate) :=
  if recorded then
    locals.sendMetrics.valuesChecked.map (fun values =>
      match values with
      | some (minNs, maxNs, averageNs) => [.sendCycleMetrics minNs maxNs averageNs]
      | none => [])
  else some []

/-- A stream's turn in a pass of the slave's loop. -/
def serveSlaveStream (blake3 : KeyedHash) (sourceMac : MacAddr) (state : DeviceState)
    (locals : SenderLocals) (stream : StreamConfig) (input : SenderInput) : Option SlaveTurn :=
  let cycleTime := max stream.cycleTimeNano 1
  let streamId := stream.streamId.toUInt16
  if ¬ locals.due streamId cycleTime input.checkedAt then
    some { reports := [], frame := none, locals := locals, store := input.store }
  else do
    let (locals, recorded) := locals.recordSend state streamId cycleTime input.now
    let reports ← sendMetricReports locals recorded
    match ← transmitStream blake3 sourceMac input stream with
    | (.error code, store) =>
      some { reports := reports ++ [.statusCode code]
             frame := none
             locals := locals
             store := store }
    | (.ok frame, store) =>
      some { reports := reports ++ if input.sendFails then [.statusCode .errSocketChannel] else []
             frame := some frame
             locals := locals
             store := store }

/-- The turn as the end of the loop sees it. -/
def slaveTurn (blake3 : KeyedHash) (sourceMac : MacAddr) (state : DeviceState)
    (locals : SenderLocals) (item : StreamConfig × SenderInput) : PassEnd SenderLocals :=
  .ofChecked ((serveSlaveStream blake3 sourceMac state locals item.1 item.2).map (·.locals))

/-- One pass of the slave's loop. -/
def slaveSenderPass (blake3 : KeyedHash) (sourceMac : MacAddr) (streams : List StreamConfig) :
    SenderLocals → SenderPassInput → PassEnd SenderLocals :=
  senderPass (slaveTurn blake3 sourceMac) streams

theorem sendMetricReports_isSome (locals : SenderLocals) (recorded : Bool) :
    (sendMetricReports locals recorded).isSome := by
  unfold sendMetricReports
  rw [CycleMetrics.valuesChecked_eq]
  cases recorded <;> rfl

/-- A turn panics when the stream is due and its address has fewer than six bytes. -/
theorem serveSlaveStream_isSome_iff (blake3 : KeyedHash) (sourceMac : MacAddr)
    (state : DeviceState) (locals : SenderLocals) (stream : StreamConfig) (input : SenderInput) :
    (serveSlaveStream blake3 sourceMac state locals stream input).isSome ↔
      (locals.due stream.streamId.toUInt16 (max stream.cycleTimeNano 1) input.checkedAt →
        6 ≤ stream.destinationMac.length) := by
  unfold serveSlaveStream
  dsimp only
  split
  · rename_i hdue
    simp [hdue]
  · rename_i hdue
    rw [not_not] at hdue
    obtain ⟨reports, hreports⟩ := Option.isSome_iff_exists.mp (sendMetricReports_isSome
      (locals.recordSend state stream.streamId.toUInt16 (max stream.cycleTimeNano 1) input.now).1
      (locals.recordSend state stream.streamId.toUInt16 (max stream.cycleTimeNano 1) input.now).2)
    rw [hdue, ← transmitStream_isSome_iff blake3 sourceMac input stream, hreports]
    cases transmitStream blake3 sourceMac input stream with
    | none => simp
    | some sent =>
      obtain ⟨result, store⟩ := sent
      cases result <;> simp

/-- The variables after a turn: unchanged, or with the instant of sending. -/
theorem lastSent_of_serveSlaveStream {blake3 : KeyedHash} {sourceMac : MacAddr}
    {state : DeviceState} {locals : SenderLocals} {stream : StreamConfig} {input : SenderInput}
    {turn : SlaveTurn}
    (h : serveSlaveStream blake3 sourceMac state locals stream input = some turn) :
    turn.locals.lastSent = locals.lastSent ∨
      turn.locals.lastSent = locals.lastSent.insert stream.streamId.toUInt16 input.now := by
  unfold serveSlaveStream at h
  dsimp only at h
  split at h
  · cases h
    exact .inl rfl
  · right
    simp only [Option.bind_eq_bind, Option.bind_eq_some_iff] at h
    obtain ⟨reports, -, ⟨result, store⟩, -, h⟩ := h
    -- sent or not, the time of the attempt is noted
    cases result with
    | error code =>
      cases h
      exact SenderLocals.lastSent_recordSend _ _ _ _ _
    | ok frame =>
      cases h
      exact SenderLocals.lastSent_recordSend _ _ _ _ _

end TsnFieldbus
