import TsnFieldbus.Common.L2Utils
import TsnFieldbus.Slave.SlaveApi

/-!
# Slave L2 Handler

The receiver and sender threads of `slave/l2_handler.rs`, one loop body at a time. Cycle
metrics, jitter and the cycle-counter comparison only feed the status report and stop no
frame; the receiver's loop with them is `slavePass` in `Slave.ReceiverLoop`.
-/

namespace TsnFieldbus

open StreamStore

/-- What the receiver thread does with one frame. -/
inductive ReceiveOutcome where
  /-- A frame of another protocol. -/
  | ignored
  /-- Reported with this status code before or by the tag validation. -/
  | refused (code : StatusCode)
  /-- Validated, but its header carries an error status. -/
  | errorStatus
  /-- Validated and handed to the process image. -/
  | delivered (write : Except StatusCode InputWrite)
deriving DecidableEq

/-- The tag validation of the frame succeeded. -/
def ReceiveOutcome.validated : ReceiveOutcome → Bool
  | .errorStatus | .delivered _ => true
  | .ignored | .refused _ => false

/-- The call of `write_inputs`, when there is one. -/
def ReceiveOutcome.written : ReceiveOutcome → Option InputWrite
  | .delivered (.ok write) => some write
  | .delivered (.error _) | .ignored | .refused _ | .errorStatus => none

/-- The loop body of `spawn_receiver_thread` on a received frame. -/
def receiveL2Frame (blake3 : KeyedHash) (streamMap : HashMap UInt16 StreamConfig)
    (store : StreamStore) (frame : Frame) : ReceiveOutcome × StreamStore :=
  match parseL2Frame frame with
  | .error .errInvalidEthertype => (.ignored, store)
  | .error _ => (.refused .errFrameParsing, store)
  | .ok parsed =>
    match streamMap.lookup parsed.header.streamId with
    | none => (.refused .errStreamIdUnknown, store)
    | some stream =>
      match store.validateStreamTag blake3 parsed.header parsed.payload parsed.sequenceNumber
        parsed.authTag with
      | (.error code, store) => (.refused code, store)
      | (.ok false, store) => (.refused .errAuthFailed, store)
      | (.ok true, store) =>
        if parsed.header.status ≠ StatusCode.noError.toU8 then (.errorStatus, store)
        else (.delivered (handleInputPacket stream parsed.payload), store)

/-- `parse_destination_mac`; the source panics on fewer than six bytes. -/
def parseDestinationMac (stream : StreamConfig) : Option MacAddr :=
  match stream.destinationMac with
  | a :: b :: c :: d :: e :: f :: _ => some ⟨a, b, c, d, e, f⟩
  | _ => none

/-- The loop body of `spawn_sender_thread` for a stream that is due: the frame it sends. -/
def sendL2Stream (blake3 : KeyedHash) (sourceMac : MacAddr)
    (readOutputs : Position → Except StatusCode (List UInt8)) (cycleCounter : UInt16)
    (store : StreamStore) (stream : StreamConfig) : Option Frame × StreamStore :=
  let (status, payload) :=
    match buildFramePayload readOutputs stream with
    | .ok payload => (StatusCode.noError, payload)
    | .error code => (code, [])
  match parseDestinationMac stream with
  | none => (none, store)
  | some destination =>
    let header := L2Header.new stream.streamId.toUInt16 cycleCounter status.toU8
    match store.generateStreamTag blake3 header payload with
    | (.error _, store) => (none, store)
    | (.ok (sequenceNumber, authTag), store) =>
      (some (buildL2Frame sourceMac destination stream.vlanIdPcp.toUInt16 header payload
        { sequenceNumber := sequenceNumber, authTag := authTag }), store)

/-- The stream map the receiver thread builds when it starts. -/
def receiverStreamMap (streams : List StreamConfig) : HashMap UInt16 StreamConfig :=
  streams.foldl (fun streamMap stream => streamMap.insert stream.streamId.toUInt16 stream) ∅

/-! ## What the threads do to the store -/

/-- The receiver thread leaves the store alone or raises one mark through a valid tag. -/
theorem receiveL2Frame_cases (blake3 : KeyedHash) (streamMap : HashMap UInt16 StreamConfig)
    (store : StreamStore) (frame : Frame) :
    ((receiveL2Frame blake3 streamMap store frame).1.validated = false ∧
      (receiveL2Frame blake3 streamMap store frame).2 = store) ∨
    (∃ parsed e, parseL2Frame frame = .ok parsed ∧
      (receiveL2Frame blake3 streamMap store frame).1.validated = true ∧
      store.entry parsed.header.streamId = some e ∧ e.sequenceNumber < parsed.sequenceNumber ∧
      store.Authentic blake3 parsed.header parsed.payload parsed.sequenceNumber parsed.authTag ∧
      (receiveL2Frame blake3 streamMap store frame).2 = store.withEntry parsed.header.streamId
        { e with sequenceNumber := parsed.sequenceNumber }) := by
  unfold receiveL2Frame
  split
  -- not parsed
  · exact .inl ⟨rfl, rfl⟩
  · exact .inl ⟨rfl, rfl⟩
  · rename_i parsed hparse
    split
    -- a stream that is not in the map
    · exact .inl ⟨rfl, rfl⟩
    · rcases validateStreamTag_cases blake3 store parsed.header parsed.payload
        parsed.sequenceNumber parsed.authTag with
        ⟨-, hno, hstore⟩ | ⟨e, hentry, hlt, hauth, heq⟩
      -- the tag is refused, and the store stays
      · left
        split <;> rename_i hresult
        · rw [hresult] at hstore
          exact ⟨rfl, hstore⟩
        · rw [hresult] at hstore
          exact ⟨rfl, hstore⟩
        · exact absurd (by rw [hresult]) hno
      -- accepted: the entry takes the new sequence number
      · right
        refine ⟨parsed, e, hparse, ?_, hentry, hlt, hauth, ?_⟩
        · simp only [heq]
          split <;> rfl
        · simp only [heq]
          split <;> rfl

/-- The sender thread leaves the store alone or advances one counter. -/
theorem sendL2Stream_cases (blake3 : KeyedHash) (sourceMac : MacAddr)
    (readOutputs : Position → Except StatusCode (List UInt8)) (cycleCounter : UInt16)
    (store : StreamStore) (stream : StreamConfig) :
    (sendL2Stream blake3 sourceMac readOutputs cycleCounter store stream).2 = store ∨
    ∃ id e, store.entry id = some e ∧
      (sendL2Stream blake3 sourceMac readOutputs cycleCounter store stream).2 =
        store.withEntry id
          { e with sequenceNumber := Foundations.saturatingAdd e.sequenceNumber 1 } := by
  unfold sendL2Stream
  rcases hpayload : buildFramePayload readOutputs stream with code | payload
  -- outputs that cannot be read change the frame, not the number
  all_goals
    simp only
    split
    · exact .inl rfl
    · cases hentry : store.entry stream.streamId.toUInt16 with
      | none =>
        left
        simp only [generateStreamTag, L2Header.new, hentry]
      | some e =>
        right
        refine ⟨stream.streamId.toUInt16, e, hentry, ?_⟩
        simp only [generateStreamTag, L2Header.new, hentry]

end TsnFieldbus
