import TsnFieldbus.Foundations.Sampling
import TsnFieldbus.Protocol.StreamDelivery

/-!
# Networks of L2 Nodes

Any number of nodes with one secret on one segment. What a node takes from the segment is any
byte string: frames may be lost, repeated, delayed, reordered or altered, as long as nobody
without the secret makes a tag.

- `StreamNetwork.carries_step`: what every iteration of every node preserves.
- `written_sublist_sent`: a stream with one sender is a channel that may lose messages, but never
  invents, repeats or reorders one.
-/

namespace TsnFieldbus

open Foundations StreamStore

/-- The messages of a stream among the frames. -/
def messagesOf (id : UInt16) (frames : List Frame) : List L2Message :=
  (frames.filterMap Frame.message).filter (fun message => message.header.streamId = id)

theorem messagesOf_append (id : UInt16) (frames more : List Frame) :
    messagesOf id (frames ++ more) = messagesOf id frames ++ messagesOf id more := by
  rw [messagesOf, List.filterMap_append, List.filter_append]
  rfl

theorem mem_messagesOf {id : UInt16} {frames : List Frame} {message : L2Message} :
    message ∈ messagesOf id frames ↔
      (∃ frame ∈ frames, Frame.message frame = some message) ∧ message.header.streamId = id := by
  rw [messagesOf, List.mem_filter, List.mem_filterMap, decide_eq_true_iff]

theorem messagesOf_singleton {id : UInt16} {frame : Frame} {message : L2Message}
    (h : Frame.message frame = some message) :
    messagesOf id [frame] = if message.header.streamId = id then [message] else [] := by
  rw [messagesOf, List.filterMap_cons_some h, List.filterMap_nil, List.filter_singleton]
  simp

/-- The nodes of a segment, and every frame put on it, oldest first. -/
structure StreamNetwork (ι : Type*) where
  nodes : ι → L2Node
  segment : List Frame

/-- The messages that a node has written to its process image. -/
def L2Node.writtenMessages (node : L2Node) (id : UInt16) : List L2Message :=
  messagesOf id (node.writes.map L2Write.frame)

namespace StreamNetwork

variable {ι : Type*}

/-- The nodes start their L2 handlers. -/
def start (party : ι → L2Party) (store : ι → StreamStore) : StreamNetwork ι :=
  { nodes := fun i => .start (party i) (store i), segment := [] }

/-- All messages that holders of the secret have tagged so far: those of the segment, and any
messages of the discovery protocol. -/
def tagged (other : TaggedMessages) (net : StreamNetwork ι) : TaggedMessages :=
  { other with l2 := net.segment.filterMap Frame.message }

variable (blake3 : KeyedHash)

/-- Keyed BLAKE3 idealised as unforgeable: the tag of a frame that a node takes verifies only if
its message has been tagged before. -/
def Unforged (other : TaggedMessages) (net : StreamNetwork ι) (event : ι × L2Event) : Prop :=
  event.2.Unforged blake3 (net.nodes event.1).store.sharedSecret (net.tagged other)

/-- One iteration of a thread of one node. -/
def step [DecidableEq ι] (net : StreamNetwork ι) (event : ι × L2Event) : Option (StreamNetwork ι) :=
  ((net.nodes event.1).step blake3 event.2).map (fun node =>
    { nodes := Function.update net.nodes event.1 node
      segment := net.segment ++ node.sent.drop (net.nodes event.1).sent.length })

variable {blake3}

/-- The inversion of a step. -/
theorem step_eq_some [DecidableEq ι] {net next : StreamNetwork ι} {event : ι × L2Event}
    (h : net.step blake3 event = some next) :
    ∃ node, (net.nodes event.1).step blake3 event.2 = some node ∧
      next.nodes = Function.update net.nodes event.1 node ∧
      next.segment = net.segment ++ node.sent.drop (net.nodes event.1).sent.length := by
  obtain ⟨node, hnode, rfl⟩ := Option.map_eq_some_iff.mp h
  exact ⟨node, hnode, rfl, rfl⟩

end StreamNetwork

/-! ## More tagged messages -/

theorem L2Write.Justified.mono {tagged more : TaggedMessages} {inputs : List StreamConfig}
    {write : L2Write} (hsub : ∀ message ∈ tagged.l2, message ∈ more.l2)
    (h : write.Justified tagged inputs) : write.Justified more inputs := by
  obtain ⟨message, hmem, hrest⟩ := h
  exact ⟨message, hsub message hmem, hrest⟩

theorem WritesTagged.mono {secret : Secret} {tagged more : TaggedMessages}
    {inputs : List StreamConfig} {node : L2Node}
    (hsub : ∀ message ∈ tagged.l2, message ∈ more.l2)
    (h : WritesTagged secret tagged inputs node) : WritesTagged secret more inputs node :=
  ⟨h.streamMap, h.sharedSecret, fun write hwrite => (h.justified write hwrite).mono hsub, h.behind,
    h.increasing⟩

/-! ## What a sender has sent -/

/-- The messages of stream `id` that a node has sent are numbered in order, up to its counter. -/
structure SentInOrder (id : UInt16) (node : L2Node) : Prop where
  ordered : (messagesOf id node.sent).Pairwise (fun m n => m.sequenceNumber ≤ n.sequenceNumber)
  below : ∀ m ∈ messagesOf id node.sent,
    ∃ e, node.store.entry id = some e ∧ m.sequenceNumber ≤ e.sequenceNumber

/-- What an iteration of a node adds to the messages it has sent. -/
theorem L2Node.sent_step_cases {blake3 : KeyedHash} {node next : L2Node} {event : L2Event}
    (h : node.step blake3 event = some next) :
    next.sent = node.sent ∨
      ∃ frame message e, next.sent = node.sent ++ [frame] ∧ Frame.message frame = some message ∧
        (∃ stream ∈ node.outputStreams, stream.streamId.toUInt16 = message.header.streamId) ∧
        node.store.entry message.header.streamId = some e ∧
        message.sequenceNumber = e.sequenceNumber := by
  cases L2Node.step_effect h with
  | refused | accepted | unsent => exact .inl rfl
  | @sent state sourceMac destination readOutputs cycleCounter stream status payload e hmem
      hread hentry =>
    right
    refine ⟨_, _, e, rfl, Frame.message_of_parse (parseL2Frame_build _ _ _ _ _ _), ?_, hentry, rfl⟩
    exact ⟨stream, hmem, rfl⟩

theorem sentInOrder_step {blake3 : KeyedHash} {id : UInt16} {node next : L2Node} {event : L2Event}
    (h : SentInOrder id node) (hstep : node.step blake3 event = some next) :
    SentInOrder id next := by
  have hraise := L2Node.step_raises hstep
  -- earlier messages stay below the counter, which only rises
  have hold : ∀ m ∈ messagesOf id node.sent,
      ∃ e, next.store.entry id = some e ∧ m.sequenceNumber ≤ e.sequenceNumber := by
    intro m hm
    obtain ⟨e, hentry, hle⟩ := h.below m hm
    obtain ⟨e', hentry', -, hle'⟩ := hraise _ _ hentry
    exact ⟨e', hentry', UInt64.le_trans hle hle'⟩
  rcases L2Node.sent_step_cases hstep with
    hsame | ⟨frame, message, e, hsent, hmessage, -, hentry, hseq⟩
  · constructor
    · rw [hsame]
      exact h.ordered
    · rw [hsame]
      exact hold
  · have hnew : messagesOf id next.sent = messagesOf id node.sent ++
        if message.header.streamId = id then [message] else [] := by
      rw [hsent, messagesOf_append, messagesOf_singleton hmessage]
    by_cases hid : message.header.streamId = id
    · rw [if_pos hid] at hnew
      rw [hid] at hentry
      constructor
      · rw [hnew, List.pairwise_append]
        refine ⟨h.ordered, List.pairwise_singleton _ _, ?_⟩
        intro m hm n hn
        obtain ⟨e', hentry', hle⟩ := h.below m hm
        rw [hentry, Option.some.injEq] at hentry'
        subst hentry'
        rw [List.mem_singleton.mp hn, hseq]
        exact hle
      · intro m hm
        rw [hnew] at hm
        rcases List.mem_append.mp hm with hearlier | hlast
        · exact hold m hearlier
        · obtain ⟨e', hentry', -, hle'⟩ := hraise _ _ hentry
          rw [List.mem_singleton.mp hlast, hseq]
          exact ⟨e', hentry', hle'⟩
    · rw [if_neg hid, List.append_nil] at hnew
      constructor
      · rw [hnew]
        exact h.ordered
      · rw [hnew]
        exact hold

/-! ## The network -/

namespace StreamNetwork

variable {ι : Type*} {blake3 : KeyedHash} {id : UInt16} {sender : ι} {other : TaggedMessages}
  {party : ι → L2Party} {store : ι → StreamStore}

/-- The network with the one sender of stream `id`: the segment has the messages of the stream
that the sender has sent, and all nodes have written tagged messages only. -/
structure Carries (id : UInt16) (sender : ι) (other : TaggedMessages) (store : ι → StreamStore)
    (net : StreamNetwork ι) : Prop where
  outputs : ∀ i, (net.nodes i).outputStreams = (store i).getStreamsByDirection .output
  segment : messagesOf id net.segment = messagesOf id (net.nodes sender).sent
  sent : SentInOrder id (net.nodes sender)
  written : ∀ i, WritesTagged (store i).sharedSecret (net.tagged other)
    ((store i).getStreamsByDirection .input) (net.nodes i)

theorem carries_start (id : UInt16) (sender : ι) (other : TaggedMessages) (party : ι → L2Party)
    (store : ι → StreamStore) : Carries id sender other store (start party store) where
  outputs _ := rfl
  segment := rfl
  sent := ⟨List.Pairwise.nil, fun m hm => by cases hm⟩
  written i := writesTagged_start _ (party i) (store i)

theorem carries_step [DecidableEq ι]
    (honly : ∀ i ≠ sender, ∀ stream ∈ (store i).getStreamsByDirection .output,
      stream.streamId.toUInt16 ≠ id)
    (net : StreamNetwork ι) (event : ι × L2Event) (next : StreamNetwork ι)
    (h : Carries id sender other store net) (hforge : net.Unforged blake3 other event)
    (hstep : net.step blake3 event = some next) : Carries id sender other store next := by
  obtain ⟨i, event⟩ := event
  obtain ⟨node, hnode, hnodes, hsegment⟩ := step_eq_some hstep
  have hmore : ∀ message ∈ (net.tagged other).l2, message ∈ (next.tagged other).l2 := by
    intro message hmem
    change message ∈ next.segment.filterMap Frame.message
    rw [hsegment, List.filterMap_append]
    exact List.mem_append_left _ hmem
  -- the frames that the node has added
  have hadded : ∃ added, node.sent = (net.nodes i).sent ++ added ∧
      next.segment = net.segment ++ added ∧ (i ≠ sender → messagesOf id added = []) := by
    rcases L2Node.sent_step_cases hnode with
      hsame | ⟨frame, message, e, hsent, hmessage, ⟨stream, hmem, hid⟩, -⟩
    · refine ⟨[], ?_, ?_, fun _ => rfl⟩
      · rw [hsame, List.append_nil]
      · rw [hsegment, hsame, List.drop_length]
    · refine ⟨[frame], hsent, ?_, ?_⟩
      · rw [hsegment, hsent, List.drop_left]
      · intro hne
        rw [h.outputs] at hmem
        rw [messagesOf_singleton hmessage, ← hid]
        exact if_neg (honly i hne stream hmem)
  obtain ⟨added, hsent, hsegment, hforeign⟩ := hadded
  refine ⟨?_, ?_, ?_, ?_⟩
  · intro j
    rw [hnodes]
    by_cases hj : j = i
    · rw [hj, Function.update_self, ← h.outputs]
      exact (L2Node.step_fixed hnode).2.2.1
    · rw [Function.update_of_ne hj]
      exact h.outputs j
  · rw [hsegment, messagesOf_append, h.segment, hnodes]
    by_cases hi : i = sender
    · subst hi
      rw [Function.update_self, hsent, messagesOf_append]
    · rw [Function.update_of_ne (Ne.symm hi), hforeign hi, List.append_nil]
  · rw [hnodes]
    by_cases hi : i = sender
    · subst hi
      rw [Function.update_self]
      exact sentInOrder_step h.sent hnode
    · rw [Function.update_of_ne (Ne.symm hi)]
      exact h.sent
  · intro j
    rw [hnodes]
    by_cases hj : j = i
    · subst hj
      rw [Function.update_self]
      rw [Unforged, (h.written j).sharedSecret] at hforge
      exact (writesTagged_step _ _ _ (h.written j) hforge hnode).mono hmore
    · rw [Function.update_of_ne hj]
      exact (h.written j).mono hmore

/-- Writes of one stream in terms of its messages. -/
theorem writtenMessages_pairwise {node : L2Node} (h : node.writes.Pairwise L2Write.Before) :
    (node.writtenMessages id).Pairwise (fun m n => m.sequenceNumber < n.sequenceNumber) := by
  rw [L2Node.writtenMessages, messagesOf, List.pairwise_filter, List.pairwise_filterMap,
    List.pairwise_map]
  apply h.imp
  intro v w hbefore m hm n hn hmid hnid
  apply hbefore m hm n hn
  rw [decide_eq_true_iff] at hmid hnid
  rw [hmid, hnid]

/-- In a network in that state, what is written of the stream is a subsequence of what was sent. -/
theorem Carries.sublist {net : StreamNetwork ι} (h : Carries id sender other store net) (i : ι) :
    ((net.nodes i).writtenMessages id).Sublist (messagesOf id (net.nodes sender).sent) := by
  have hwritten : ((net.nodes i).writtenMessages id).Pairwise
      (fun m n => m.sequenceNumber.toNat < n.sequenceNumber.toNat) :=
    (writtenMessages_pairwise (h.written i).increasing).imp UInt64.lt_iff_toNat_lt.mp
  have hsent : (messagesOf id (net.nodes sender).sent).Pairwise
      (fun m n => m.sequenceNumber.toNat ≤ n.sequenceNumber.toNat) :=
    h.sent.ordered.imp UInt64.le_iff_toNat_le.mp
  apply sublist_of_increasing_keys hwritten hsent
  intro message hmem
  obtain ⟨⟨frame, hframe, hmessage⟩, hid⟩ := mem_messagesOf.mp hmem
  obtain ⟨write, hwrite, rfl⟩ := List.mem_map.mp hframe
  obtain ⟨original, htagged, horiginal, -⟩ := (h.written i).justified write hwrite
  have hsame : original = message := Option.some.inj (horiginal.symm.trans hmessage)
  subst hsame
  obtain ⟨frame', hframe', hmessage'⟩ := List.mem_filterMap.mp htagged
  rw [← h.segment]
  exact mem_messagesOf.mpr ⟨⟨frame', hframe', hmessage'⟩, hid⟩

/-- **A stream with one sender is a lossy channel.** In every reachable state of a network of any
nodes, whatever its nodes take from the segment, the messages of the stream that a node has
written to its process image are a subsequence of those that the sender has sent: messages may be
lost, but none is invented, altered, written twice or written out of order. -/
theorem written_sublist_sent [DecidableEq ι]
    (honly : ∀ i ≠ sender, ∀ stream ∈ (store i).getStreamsByDirection .output,
      stream.streamId.toUInt16 ≠ id)
    {events : List (ι × L2Event)} {net : StreamNetwork ι}
    (hrun : execute (step blake3) (start party store) events = some net)
    (hforge : EveryStep (step blake3) (Unforged blake3 other) (start party store) events)
    (receiver : ι) :
    ((net.nodes receiver).writtenMessages id).Sublist (messagesOf id (net.nodes sender).sent) := by
  have hcarries := execute_invariant_of_guarded (carries_step honly)
    (carries_start id sender other party store) hforge hrun
  exact hcarries.sublist receiver

/-! ## Segments that forward what they carry -/

/-- What is received has been put on the segment before. -/
def Forwarded (net : StreamNetwork ι) (event : ι × L2Event) : Prop :=
  match event.2 with
  | .receive _ frame => frame ∈ net.segment
  | .send .. => True

instance (net : StreamNetwork ι) (event : ι × L2Event) : Decidable (net.Forwarded event) := by
  unfold Forwarded
  cases event.2 <;> exact inferInstance

/-- A segment that loses, repeats, delays and reorders frames forges none. -/
theorem Forwarded.unforged {net : StreamNetwork ι} {event : ι × L2Event}
    (h : net.Forwarded event) : net.Unforged blake3 other event := by
  obtain ⟨i, event⟩ := event
  intro state frame hmem parsed hparse _
  cases List.mem_singleton.mp hmem
  left
  exact ⟨parsed.message, List.mem_filterMap.mpr ⟨frame, h, Frame.message_of_parse hparse⟩, rfl⟩

/-- A master sends two frames, and the slave takes the second one twice and then the first. -/
def overtakenFrame : List (Bool × L2Event) :=
  [(true, .send .op .zero (readByte 7) 0 (fifthStream .output)),
    (true, .send .op .zero (readByte 8) 0 (fifthStream .output)),
    (false, .receive .op (fifthStreamFrame [8] 2)),
    (false, .receive .op (fifthStreamFrame [8] 2)),
    (false, .receive .op (fifthStreamFrame [7] 1))]

/-- The second frame is written once, and the first one is lost. -/
theorem written_sublist_sent_overtaken :
    ∃ net, execute (step checksumHash)
        (start (fun sends => if sends then .master else .slave)
          (fun sends => singleStreamStore (if sends then .output else .input)))
        overtakenFrame = some net ∧
      ((net.nodes false).writes.map (fun write => write.input.data)) = [[8]] ∧
      ((net.nodes false).writtenMessages 5).Sublist (messagesOf 5 (net.nodes true).sent) := by
  have hwrites : (execute (step checksumHash)
      (start (fun sends => if sends then .master else .slave)
        (fun sends => singleStreamStore (if sends then .output else .input)))
      overtakenFrame).map (fun net => (net.nodes false).writes.map (fun write => write.input.data))
      = some [[8]] := by decide +kernel
  have hforwarded : EveryStep (step checksumHash) Forwarded
      (start (fun sends => if sends then .master else .slave)
        (fun sends => singleStreamStore (if sends then .output else .input)))
      overtakenFrame := by decide +kernel
  obtain ⟨net, hrun, hdata⟩ := Option.map_eq_some_iff.mp hwrites
  have honly : ∀ sends : Bool, sends ≠ true → ∀ stream ∈
      (singleStreamStore (if sends then .output else .input)).getStreamsByDirection .output,
      stream.streamId.toUInt16 ≠ 5 := by decide
  refine ⟨net, hrun, hdata, ?_⟩
  exact @written_sublist_sent _ checksumHash 5 true ⟨[], [], by simp⟩ _ _ _ honly _ _ hrun
    (hforwarded.imp fun _ _ => Forwarded.unforged) false

end StreamNetwork

end TsnFieldbus
