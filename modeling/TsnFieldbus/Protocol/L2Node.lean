import TsnFieldbus.Foundations.TransitionSystem
import TsnFieldbus.Master.L2Handler

/-!
# Nodes of the L2 Protocol

A node is a master or a slave with its stream store and the two threads of its L2 handler,
which share the store. A run is any interleaving of received frames and due streams; the
store is not reset while the threads run.

- `receiveFrame_cases`: all that a received frame can do.
- `sendFrame_cases`: all that a due stream can do.
- `execute_raises`: along a run sequence numbers only rise.
-/

namespace TsnFieldbus

open Foundations StreamStore

/-- The two sides of the L2 protocol. -/
inductive L2Party where
  | master
  | slave
deriving DecidableEq, Repr

/-- What a stream tag authenticates. -/
structure L2Message where
  header : L2Header
  payload : List UInt8
  sequenceNumber : UInt64
deriving DecidableEq

/-- The authenticated bytes. -/
def L2Message.bytes (message : L2Message) : List UInt8 :=
  signedL2Bytes message.header message.payload message.sequenceNumber

/-- The message in a parsed frame. -/
def ParsedL2Frame.message (parsed : ParsedL2Frame) : L2Message :=
  { header := parsed.header
    payload := parsed.payload
    sequenceNumber := parsed.sequenceNumber }

/-- The message in a frame, when it parses. -/
def Frame.message (frame : Frame) : Option L2Message :=
  match parseL2Frame frame with
  | .ok parsed => some parsed.message
  | .error _ => none

theorem Frame.message_of_parse {frame : Frame} {parsed : ParsedL2Frame}
    (h : parseL2Frame frame = .ok parsed) : Frame.message frame = some parsed.message := by
  unfold Frame.message
  rw [h]

/-! ## One frame -/

section OneFrame

variable (blake3 : KeyedHash)

namespace L2Party

/-- The states in which the receiver thread takes frames. -/
def receivesIn : L2Party → DeviceState → Bool
  | .master, .safeOp | .master, .op => true
  | .slave, .op => true
  | _, _ => false

/-- The states in which the sender thread serves its streams. -/
def sendsIn : L2Party → DeviceState → Bool
  | _, .safeOp | _, .op => true
  | _, _ => false

/-- The loop body of `spawn_receiver_thread`: the call of `write_inputs`, and the store. -/
def receiveFrame (party : L2Party) (streamMap : HashMap UInt16 StreamConfig)
    (store : StreamStore) (frame : Frame) : Option InputWrite × StreamStore :=
  match party with
  | .master =>
    let result := receiveMasterL2Frame blake3 streamMap store frame
    (writtenByMaster result.1, result.2)
  | .slave =>
    let result := receiveL2Frame blake3 streamMap store frame
    (result.1.written, result.2)

/-- The loop body of `spawn_sender_thread` for a stream that is due. -/
def sendFrame (party : L2Party) (sourceMac : MacAddr)
    (readOutputs : Position → Except StatusCode (List UInt8)) (cycleCounter : UInt16)
    (store : StreamStore) (stream : StreamConfig) : Option Frame × StreamStore :=
  match party with
  | .master => sendMasterL2Stream blake3 sourceMac readOutputs cycleCounter store stream
  | .slave => sendL2Stream blake3 sourceMac readOutputs cycleCounter store stream

theorem receiveFrame_eq (party : L2Party) (streamMap : HashMap UInt16 StreamConfig)
    (store : StreamStore) (frame : Frame) :
    party.receiveFrame blake3 streamMap store frame =
      ((receiveL2Frame blake3 streamMap store frame).1.written,
        (receiveL2Frame blake3 streamMap store frame).2) := by
  cases party with
  | slave => rfl
  | master =>
    obtain ⟨hwritten, hstore⟩ := receiveMasterL2Frame_eq blake3 streamMap store frame
    exact Prod.ext hwritten hstore

theorem sendFrame_eq (party : L2Party) (sourceMac : MacAddr)
    (readOutputs : Position → Except StatusCode (List UInt8)) (cycleCounter : UInt16)
    (store : StreamStore) (stream : StreamConfig) :
    party.sendFrame blake3 sourceMac readOutputs cycleCounter store stream =
      sendL2Stream blake3 sourceMac readOutputs cycleCounter store stream := by
  cases party <;> rfl

end L2Party

/-- The message of a frame whose stream is in the map and whose tag is validated. -/
def acceptedMessage (streamMap : HashMap UInt16 StreamConfig) (store : StreamStore)
    (frame : Frame) : Option L2Message :=
  match parseL2Frame frame with
  | .error _ => none
  | .ok parsed =>
    if (streamMap.lookup parsed.header.streamId).isSome ∧
        (store.validateStreamTag blake3 parsed.header parsed.payload parsed.sequenceNumber
          parsed.authTag).1 = .ok true then some parsed.message
    else none

variable {blake3} {streamMap : HashMap UInt16 StreamConfig} {store : StreamStore} {frame : Frame}

/-- Accepted frames are of a known stream, fresh and authentic, and only these are accepted. -/
theorem acceptedMessage_eq_some_iff {message : L2Message} :
    acceptedMessage blake3 streamMap store frame = some message ↔
      ∃ parsed stream e, parseL2Frame frame = .ok parsed ∧ parsed.message = message ∧
        streamMap.lookup message.header.streamId = some stream ∧
        store.entry message.header.streamId = some e ∧
        e.sequenceNumber < message.sequenceNumber ∧
        tagOf blake3 store.sharedSecret message.bytes = parsed.authTag := by
  unfold acceptedMessage
  cases hparse : parseL2Frame frame with
  -- what does not parse is not accepted
  | error code => simp
  | ok parsed =>
    dsimp only
    -- the tag validation in terms of the entry, the number and the tag
    have hvalid := validateStreamTag_eq_ok_true_iff blake3 store parsed.header parsed.payload
      parsed.sequenceNumber parsed.authTag
    constructor
    · intro h
      split at h
      · rename_i hcond
        obtain ⟨hknown, htag⟩ := hcond
        obtain ⟨e, hentry, hlt, hauth⟩ := hvalid.mp htag
        obtain ⟨stream, hstream⟩ := Option.isSome_iff_exists.mp hknown
        rw [Option.some.injEq] at h
        subst h
        exact ⟨parsed, stream, e, rfl, rfl, hstream, hentry, hlt, hauth⟩
      · cases h
    · intro h
      obtain ⟨parsed', stream, e, hsame, rfl, hstream, hentry, hlt, hauth⟩ := h
      rw [Except.ok.injEq] at hsame
      subst hsame
      have hknown := Option.isSome_iff_exists.mpr ⟨stream, hstream⟩
      rw [if_pos ⟨hknown, hvalid.mpr ⟨e, hentry, hlt, hauth⟩⟩]

/-- The call of `write_inputs` that an accepted message of the stream leads to. -/
def L2Message.input (message : L2Message) (stream : StreamConfig) : Option InputWrite :=
  if message.header.status = StatusCode.noError.toU8 then
    (handleInputPacket stream message.payload).toOption
  else none

/-- A frame that is not accepted does nothing; an accepted one raises the mark of its stream
and is written if its status and its length allow it. -/
theorem receiveFrame_cases (party : L2Party) :
    (acceptedMessage blake3 streamMap store frame = none ∧
      party.receiveFrame blake3 streamMap store frame = (none, store)) ∨
    (∃ message stream e, acceptedMessage blake3 streamMap store frame = some message ∧
      streamMap.lookup message.header.streamId = some stream ∧
      store.entry message.header.streamId = some e ∧
      e.sequenceNumber < message.sequenceNumber ∧
      party.receiveFrame blake3 streamMap store frame =
        (message.input stream, store.withEntry message.header.streamId
          { e with sequenceNumber := message.sequenceNumber })) := by
  rw [L2Party.receiveFrame_eq]
  unfold acceptedMessage receiveL2Frame
  cases hparse : parseL2Frame frame with
  | error code =>
    -- reported or ignored, which is the same to the store
    left
    cases code <;> exact ⟨rfl, rfl⟩
  | ok parsed =>
    dsimp only
    cases hstream : streamMap.lookup parsed.header.streamId with
    | none =>
      left
      -- an unknown stream is refused before its tag is looked at
      exact ⟨if_neg (by simp), rfl⟩
    | some stream =>
      dsimp only
      rcases validateStreamTag_cases blake3 store parsed.header parsed.payload
        parsed.sequenceNumber parsed.authTag with
        ⟨-, hno, hstore⟩ | ⟨e, hentry, hlt, hauth, heq⟩
      -- refused by the tag validation
      · left
        refine ⟨if_neg (fun h => hno h.2), ?_⟩
        generalize store.validateStreamTag blake3 parsed.header parsed.payload
          parsed.sequenceNumber parsed.authTag = result at hno hstore
        obtain ⟨outcome, next⟩ := result
        dsimp only at hno hstore
        subst hstore
        rcases outcome with code | valid
        · rfl
        · cases valid with
          | false => rfl
          | true => exact absurd rfl hno
      -- fresh and authentic: the status decides whether the process image is asked
      · right
        refine ⟨parsed.message, stream, e, ?_, hstream, hentry, hlt, ?_⟩
        · rw [if_pos ⟨rfl, by rw [heq]⟩]
        · unfold L2Message.input
          rw [heq]
          show _ = (if parsed.header.status = StatusCode.noError.toU8 then
              (handleInputPacket stream parsed.payload).toOption else none, _)
          by_cases hstatus : parsed.header.status = StatusCode.noError.toU8
          · rw [if_pos hstatus]
            dsimp only
            rw [if_neg (not_not.mpr hstatus)]
            cases handleInputPacket stream parsed.payload <;> rfl
          · rw [if_neg hstatus]
            dsimp only
            rw [if_pos hstatus]
            rfl

/-- The status and the payload that a due stream sends. -/
def OutputsRead (readOutputs : Position → Except StatusCode (List UInt8))
    (stream : StreamConfig) (status : StatusCode) (payload : List UInt8) : Prop :=
  buildFramePayload readOutputs stream = .ok payload ∧ status = .noError ∨
    buildFramePayload readOutputs stream = .error status ∧ payload = []

theorem exists_outputsRead (readOutputs : Position → Except StatusCode (List UInt8))
    (stream : StreamConfig) : ∃ status payload, OutputsRead readOutputs stream status payload := by
  cases hbuild : buildFramePayload readOutputs stream with
  | ok payload => exact ⟨.noError, payload, .inl ⟨hbuild, rfl⟩⟩
  | error code => exact ⟨code, [], .inr ⟨hbuild, rfl⟩⟩

/-- A due stream sends the message made of its outputs, numbered by its counter. -/
theorem sendFrame_cases (party : L2Party) (sourceMac : MacAddr)
    {readOutputs : Position → Except StatusCode (List UInt8)} (cycleCounter : UInt16)
    {stream : StreamConfig} {status : StatusCode} {payload : List UInt8}
    (hread : OutputsRead readOutputs stream status payload) :
    ((parseDestinationMac stream = none ∨ store.entry stream.streamId.toUInt16 = none) ∧
      party.sendFrame blake3 sourceMac readOutputs cycleCounter store stream = (none, store)) ∨
    ∃ destination e, parseDestinationMac stream = some destination ∧
      store.entry stream.streamId.toUInt16 = some e ∧
      party.sendFrame blake3 sourceMac readOutputs cycleCounter store stream =
        (some (buildL2Frame sourceMac destination stream.vlanIdPcp.toUInt16
            (.new stream.streamId.toUInt16 cycleCounter status.toU8) payload
            ⟨e.sequenceNumber, tagOf blake3 store.sharedSecret (signedL2Bytes
              (.new stream.streamId.toUInt16 cycleCounter status.toU8) payload
              e.sequenceNumber)⟩),
          store.withEntry stream.streamId.toUInt16
            { e with sequenceNumber := saturatingAdd e.sequenceNumber 1 }) := by
  have hkey : (L2Header.new stream.streamId.toUInt16 cycleCounter status.toU8).streamId =
    stream.streamId.toUInt16 := rfl
  rw [L2Party.sendFrame_eq]
  unfold sendL2Stream
  cases hdestination : parseDestinationMac stream with
  | none =>
    -- without a destination the thread panics
    left
    exact ⟨.inl rfl, rfl⟩
  | some destination =>
    cases hentry : store.entry stream.streamId.toUInt16 with
    | none =>
      left
      -- without an entry there is no tag
      refine ⟨.inr rfl, ?_⟩
      rcases hread with ⟨hread, rfl⟩ | ⟨hread, rfl⟩ <;>
        simp only [hread, generateStreamTag, hkey, hentry]
    | some e =>
      right
      refine ⟨destination, e, rfl, rfl, ?_⟩
      have htag := generateStreamTag_eq blake3 (hkey ▸ hentry) payload
      rcases hread with ⟨hread, rfl⟩ | ⟨hread, rfl⟩ <;> simp only [hread, htag, hkey]

end OneFrame

/-! ## Stream maps -/

/-- The receiver's map leads to a stream with the identifier that was looked up. -/
theorem receiverStreamMap_lookup {streams : List StreamConfig} {id : UInt16}
    {stream : StreamConfig} (h : (receiverStreamMap streams).lookup id = some stream) :
    stream ∈ streams ∧ stream.streamId.toUInt16 = id := by
  induction streams using List.reverseRecOn with
  | nil => cases h
  | append_singleton streams last ih =>
    unfold receiverStreamMap at h ih
    rw [List.foldl_append, List.foldl_cons, List.foldl_nil] at h
    -- the last stream with an identifier takes its place in the map
    by_cases hid : id = last.streamId.toUInt16
    · subst hid
      rw [AList.lookup_insert, Option.some.injEq] at h
      subst h
      exact ⟨by simp, rfl⟩
    · rw [AList.lookup_insert_ne hid] at h
      obtain ⟨hmem, hkey⟩ := ih h
      exact ⟨List.mem_append_left _ hmem, hkey⟩

/-- The only stream with its identifier is found in the receiver's map. -/
theorem receiverStreamMap_lookup_of_mem {streams : List StreamConfig} {stream : StreamConfig}
    (hmem : stream ∈ streams)
    (honly : ∀ other ∈ streams, other.streamId.toUInt16 = stream.streamId.toUInt16 →
      other = stream) :
    (receiverStreamMap streams).lookup stream.streamId.toUInt16 = some stream := by
  induction streams using List.reverseRecOn with
  | nil => cases hmem
  | append_singleton streams last ih =>
    unfold receiverStreamMap at ih ⊢
    rw [List.foldl_append, List.foldl_cons, List.foldl_nil]
    by_cases hid : stream.streamId.toUInt16 = last.streamId.toUInt16
    -- the last stream is the only one, or it leaves the place alone
    · have hlast := honly last (by simp) hid.symm
      rw [hid, AList.lookup_insert, hlast]
    · rw [AList.lookup_insert_ne hid]
      apply ih
      · rcases List.mem_append.mp hmem with hfront | hback
        · exact hfront
        · exact absurd (congrArg (·.streamId.toUInt16) (List.mem_singleton.mp hback)) hid
      · intro other hother
        exact honly other (List.mem_append_left _ hother)

/-! ## Runs -/

/-- A call of `write_inputs` and the frame it stems from. -/
structure L2Write where
  frame : Frame
  input : InputWrite
deriving DecidableEq

/-- A party with the stream store that its two L2 threads share, and what they have done. -/
structure L2Node where
  party : L2Party
  streamMap : HashMap UInt16 StreamConfig
  outputStreams : List StreamConfig
  store : StreamStore
  /-- The calls of `write_inputs`, oldest first. -/
  writes : List L2Write
  /-- The frames built by the sender thread, oldest first. -/
  sent : List Frame

/-- What the threads do, one iteration at a time. -/
inductive L2Event where
  /-- The receiver thread has read this state and takes a frame. -/
  | receive (state : DeviceState) (frame : Frame)
  /-- The sender thread has read this state and serves a stream that is due. -/
  | send (state : DeviceState) (sourceMac : MacAddr)
      (readOutputs : Position → Except StatusCode (List UInt8)) (cycleCounter : UInt16)
      (stream : StreamConfig)

namespace L2Node

variable (blake3 : KeyedHash)

/-- `start_l2_handler`. -/
def start (party : L2Party) (store : StreamStore) : L2Node :=
  { party := party
    streamMap := receiverStreamMap (store.getStreamsByDirection .input)
    outputStreams := store.getStreamsByDirection .output
    store := store
    writes := []
    sent := [] }

/-- One iteration of one of the threads. -/
def step (node : L2Node) : L2Event → Option L2Node
  | .receive state frame =>
    if node.party.receivesIn state then
      let (input, store) := node.party.receiveFrame blake3 node.streamMap node.store frame
      some
        { node with
          store := store
          writes := node.writes ++ (input.map (L2Write.mk frame)).toList }
    else none
  | .send state sourceMac readOutputs cycleCounter stream =>
    if node.party.sendsIn state ∧ stream ∈ node.outputStreams then
      let (frame, store) :=
        node.party.sendFrame blake3 sourceMac readOutputs cycleCounter node.store stream
      some
        { node with
          store := store
          sent := node.sent ++ frame.toList }
    else none

/-- The message of a frame that the receiver thread of the node accepts. -/
def accepted (node : L2Node) (frame : Frame) : Option L2Message :=
  acceptedMessage blake3 node.streamMap node.store frame

/-- What an iteration can do to a node. -/
inductive Effect (node : L2Node) : L2Event → L2Node → Prop where
  | refused (state : DeviceState) (frame : Frame) (h : node.accepted blake3 frame = none) :
      Effect node (.receive state frame) node
  | accepted (state : DeviceState) {frame : Frame} {message : L2Message} {stream : StreamConfig}
      {e : StreamEntry} (h : node.accepted blake3 frame = some message)
      (hstream : node.streamMap.lookup message.header.streamId = some stream)
      (hentry : node.store.entry message.header.streamId = some e)
      (hfresh : e.sequenceNumber < message.sequenceNumber) :
      Effect node (.receive state frame)
        { node with
          store := node.store.withEntry message.header.streamId
            { e with sequenceNumber := message.sequenceNumber }
          writes := node.writes ++ ((message.input stream).map (L2Write.mk frame)).toList }
  | unsent (state : DeviceState) (sourceMac : MacAddr)
      (readOutputs : Position → Except StatusCode (List UInt8)) (cycleCounter : UInt16)
      (stream : StreamConfig) :
      Effect node (.send state sourceMac readOutputs cycleCounter stream) node
  | sent (state : DeviceState) {sourceMac destination : MacAddr}
      {readOutputs : Position → Except StatusCode (List UInt8)} {cycleCounter : UInt16}
      {stream : StreamConfig} {status : StatusCode} {payload : List UInt8} {e : StreamEntry}
      (hmem : stream ∈ node.outputStreams) (hread : OutputsRead readOutputs stream status payload)
      (hentry : node.store.entry stream.streamId.toUInt16 = some e) :
      Effect node (.send state sourceMac readOutputs cycleCounter stream)
        { node with
          store := node.store.withEntry stream.streamId.toUInt16
            { e with sequenceNumber := saturatingAdd e.sequenceNumber 1 }
          sent := node.sent ++ [buildL2Frame sourceMac destination stream.vlanIdPcp.toUInt16
            (.new stream.streamId.toUInt16 cycleCounter status.toU8) payload
            ⟨e.sequenceNumber, tagOf blake3 node.store.sharedSecret (signedL2Bytes
              (.new stream.streamId.toUInt16 cycleCounter status.toU8) payload
              e.sequenceNumber)⟩] }

variable {blake3} {node next : L2Node} {event : L2Event}

theorem step_effect (h : node.step blake3 event = some next) :
    node.Effect blake3 event next := by
  cases event with
  -- refused, or accepted with the number of the frame
  | receive state frame =>
    simp only [step] at h
    split at h
    · rcases @receiveFrame_cases blake3 node.streamMap node.store frame node.party with
        ⟨hnone, heq⟩ | ⟨message, stream, e, hsome, hstream, hentry, hlt, heq⟩
      · rw [heq, Option.some.injEq] at h
        subst h
        simpa using Effect.refused state frame hnone
      · rw [heq, Option.some.injEq] at h
        subst h
        exact .accepted state hsome hstream hentry hlt
    · cases h
  -- without an entry nothing is sent
  | send state sourceMac readOutputs cycleCounter stream =>
    simp only [step] at h
    split at h
    · rename_i hcond
      obtain ⟨status, payload, hread⟩ := exists_outputsRead readOutputs stream
      rcases @sendFrame_cases blake3 node.store node.party sourceMac readOutputs cycleCounter
        stream status payload hread with ⟨-, heq⟩ | ⟨destination, e, -, hentry, heq⟩
      · rw [heq, Option.some.injEq] at h
        subst h
        simpa using Effect.unsent state sourceMac readOutputs cycleCounter stream
      · rw [heq, Option.some.injEq] at h
        subst h
        exact .sent state hcond.2 hread hentry
    · cases h

/-- The maps of the threads and the secret stay what they were at the start. -/
theorem step_fixed (h : node.step blake3 event = some next) :
    next.party = node.party ∧ next.streamMap = node.streamMap ∧
      next.outputStreams = node.outputStreams ∧
      next.store.sharedSecret = node.store.sharedSecret := by
  cases step_effect h <;> exact ⟨rfl, rfl, rfl, rfl⟩

/-- An iteration only raises sequence numbers. -/
theorem step_raises (h : node.step blake3 event = some next) : Raises node.store next.store := by
  cases step_effect h with
  | refused => exact Raises.refl _
  | accepted state haccept hstream hentry hfresh =>
    exact raises_withEntry hentry (UInt64.le_of_lt hfresh)
  | unsent => exact Raises.refl _
  | sent state hmem hread hentry => exact raises_withEntry hentry (le_saturatingAdd_one _)

variable {events : List L2Event}

/-- Along a run sequence numbers only rise. -/
theorem execute_raises (h : execute (step blake3) node events = some next) :
    Raises node.store next.store := by
  apply execute_invariant (I := fun t => Raises node.store t.store) _ (Raises.refl _) h
  intro s event t hs hstep
  exact hs.trans (step_raises hstep)

/-- A run keeps the receiver's map and the secret. -/
theorem execute_fixed (h : execute (step blake3) node events = some next) :
    next.streamMap = node.streamMap ∧ next.store.sharedSecret = node.store.sharedSecret := by
  constructor
  · exact execute_observable_eq (fun t => t.streamMap) (fun _ _ _ hs => (step_fixed hs).2.1) h
  · exact execute_observable_eq (fun t => t.store.sharedSecret)
      (fun _ _ _ hs => (step_fixed hs).2.2.2) h

end L2Node

end TsnFieldbus
