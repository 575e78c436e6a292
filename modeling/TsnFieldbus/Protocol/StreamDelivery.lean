import TsnFieldbus.Protocol.L2Node
import TsnFieldbus.Protocol.DomainSeparation
import TsnFieldbus.Protocol.StreamReplay

/-!
# Delivery of Stream Data

What reaches the process image of a node, and that it is what the sending side read.

- `inputs_stem_from_tagged_messages`: over any received byte strings, every call of
  `write_inputs` stems from a message of its own that a holder of the secret tagged.
- `outputs_delivered_as_inputs`: the next frame of a stream is written with exactly the bytes
  that were read, and not at all if reading failed.
-/

namespace TsnFieldbus

open Foundations StreamStore

/-! ## Tagged messages -/

/-- A constructed TLV has a type. -/
theorem BuiltTlv.tType_ne_zero {tlv : Tlv} (h : BuiltTlv tlv) : tlv.tType ≠ 0 := by
  cases h with
  | deviceInfo v d n =>
    show tlvTypeDeviceInfo ≠ 0
    decide
  | ipConfig ip netmask gateway =>
    show tlvTypeIpConfig ≠ 0
    decide
  | statusReport code =>
    show tlvTypeStatusReport ≠ 0
    decide
  | ipReport ip netmask gateway source =>
    show tlvTypeIpReport ≠ 0
    decide

/-- The messages that the holders of the secret have tagged, in both protocols. -/
structure TaggedMessages where
  l2 : List L2Message
  sdcp : List (SdcpHeader × List UInt8 × UInt64)
  built : ∀ message ∈ sdcp, BuiltSdcp message.1 message.2.1

namespace TaggedMessages

variable {tagged : TaggedMessages}

/-- One of the tagged messages has these authenticated bytes. -/
def Covers (tagged : TaggedMessages) (bytes : List UInt8) : Prop :=
  (∃ message ∈ tagged.l2, message.bytes = bytes) ∨
    ∃ message ∈ tagged.sdcp, signedBytes message.1 message.2.1 message.2.2 = bytes

instance (bytes : List UInt8) : Decidable (tagged.Covers bytes) :=
  inferInstanceAs (Decidable (_ ∨ _))

/-- With the status NoError, only an L2 message has these bytes: where the L2 header has its
status, an SDCP message has the type of its TLV. -/
theorem mem_l2_of_covers {message : L2Message} (h : tagged.Covers message.bytes)
    (hstatus : message.header.status = StatusCode.noError.toU8) : message ∈ tagged.l2 := by
  rcases h with ⟨original, hmem, heq⟩ | ⟨⟨header, tlv, seq⟩, hmem, heq⟩
  -- an L2 message is determined by its authenticated bytes
  · obtain ⟨hheader, hpayload, hseq⟩ := signedL2Bytes_injective heq
    have hsame : original = message := by
      cases original
      cases message
      simp_all
    exact hsame ▸ hmem
  -- the status byte would be the first byte of the TLV, and no TLV has type zero
  · obtain ⟨-, status, flags, hspell, htlv⟩ := (signedBytes_eq_signedL2Bytes_iff _ _ _ _ _ _).mp heq
    obtain ⟨-, -, -, htype, -⟩ := hspell.fields
    have hbuilt := tagged.built _ hmem
    dsimp only at hbuilt
    cases hbuilt with
    | bare opCode transactionId => cases htlv
    | @withTlv opCode transactionId original horiginal =>
      rw [Tlv.bytes_eq, List.cons.injEq] at htlv
      exact absurd (htlv.1.trans (htype.symm.trans hstatus)) horiginal.tType_ne_zero

end TaggedMessages

/-- Keyed BLAKE3 idealised as unforgeable: a received tag that verifies is the tag of a
message that a holder of the secret has tagged. -/
def UnforgeableFrames (blake3 : KeyedHash) (secret : Secret) (tagged : TaggedMessages)
    (events : List L2Event) : Prop :=
  ∀ state frame, .receive state frame ∈ events → ∀ parsed, parseL2Frame frame = .ok parsed →
    tagOf blake3 secret parsed.message.bytes = parsed.authTag →
    tagged.Covers parsed.message.bytes

/-! ## Writes -/

namespace L2Write

/-- The message in the frame the write stems from. -/
def message (write : L2Write) : Option L2Message := Frame.message write.frame

/-- The write carries out a tagged message of an input stream: status NoError, and the first
bytes of the payload at the position of the stream. -/
def Justified (tagged : TaggedMessages) (inputs : List StreamConfig) (write : L2Write) : Prop :=
  ∃ message ∈ tagged.l2, write.message = some message ∧
    message.header.status = StatusCode.noError.toU8 ∧
    ∃ stream ∈ inputs, stream.streamId.toUInt16 = message.header.streamId ∧
      ∃ content, stream.streamContent = some content ∧
        bitLenToByteLen content.bitLen ≤ message.payload.length ∧
        write.input = ⟨message.payload.take (bitLenToByteLen content.bitLen), content⟩

/-- Of two writes of one stream, the first has the smaller number. -/
def Before (v w : L2Write) : Prop :=
  ∀ m ∈ v.message, ∀ n ∈ w.message, m.header.streamId = n.header.streamId →
    m.sequenceNumber < n.sequenceNumber

end L2Write

/-- What the receiver writes for a message. -/
theorem L2Message.input_eq_some {message : L2Message} {stream : StreamConfig}
    {input : InputWrite} (h : message.input stream = some input) :
    message.header.status = StatusCode.noError.toU8 ∧
      ∃ content, stream.streamContent = some content ∧
        bitLenToByteLen content.bitLen ≤ message.payload.length ∧
        input = ⟨message.payload.take (bitLenToByteLen content.bitLen), content⟩ := by
  unfold L2Message.input at h
  split at h
  · rename_i hstatus
    refine ⟨hstatus, ?_⟩
    unfold handleInputPacket at h
    cases hcontent : stream.streamContent with
    | none =>
      rw [hcontent] at h
      cases h
    | some content =>
      rw [hcontent] at h
      dsimp only at h
      split at h
      · cases h
      · rename_i hlen
        cases h
        exact ⟨content, rfl, not_lt.mp hlen, rfl⟩
  · cases h

section Receiving

variable {blake3 : KeyedHash} {tagged : TaggedMessages}

/-- The message accepted from a frame is the message in it, and its tag verifies. -/
theorem accepted_spec {node : L2Node} {frame : Frame} {message : L2Message}
    (h : node.accepted blake3 frame = some message) :
    ∃ parsed, parseL2Frame frame = .ok parsed ∧ parsed.message = message ∧
      Frame.message frame = some message ∧
      tagOf blake3 node.store.sharedSecret message.bytes = parsed.authTag := by
  obtain ⟨parsed, stream, e, hparse, rfl, -, -, -, htag⟩ := acceptedMessage_eq_some_iff.mp h
  exact ⟨parsed, hparse, rfl, Frame.message_of_parse hparse, htag⟩

/-- The writes of a node so far, and that no mark is below a number written. -/
structure WritesTagged (secret : Secret) (tagged : TaggedMessages) (inputs : List StreamConfig)
    (node : L2Node) : Prop where
  streamMap : node.streamMap = receiverStreamMap inputs
  sharedSecret : node.store.sharedSecret = secret
  justified : ∀ write ∈ node.writes, write.Justified tagged inputs
  behind : ∀ write ∈ node.writes, ∀ m ∈ write.message,
    ∃ e, node.store.entry m.header.streamId = some e ∧ m.sequenceNumber ≤ e.sequenceNumber
  increasing : node.writes.Pairwise L2Write.Before

theorem writesTagged_start (tagged : TaggedMessages) (party : L2Party) (store : StreamStore) :
    WritesTagged store.sharedSecret tagged (store.getStreamsByDirection .input)
      (.start party store) where
  streamMap := rfl
  sharedSecret := rfl
  justified := by simp [L2Node.start]
  behind := by simp [L2Node.start]
  increasing := .nil

/-- The event brings no forged tag. -/
def L2Event.Unforged (blake3 : KeyedHash) (secret : Secret) (tagged : TaggedMessages)
    (event : L2Event) : Prop :=
  UnforgeableFrames blake3 secret tagged [event]

theorem writesTagged_step {secret : Secret} {inputs : List StreamConfig} (node : L2Node)
    (event : L2Event) (next : L2Node) (h : WritesTagged secret tagged inputs node)
    (hforge : event.Unforged blake3 secret tagged)
    (hstep : node.step blake3 event = some next) : WritesTagged secret tagged inputs next := by
  obtain ⟨-, hmap, -, hsecret⟩ := L2Node.step_fixed hstep
  -- numbers written before stay behind the marks, which only rise
  have hraise : ∀ write ∈ node.writes, ∀ m ∈ write.message,
      ∃ e, next.store.entry m.header.streamId = some e ∧ m.sequenceNumber ≤ e.sequenceNumber := by
    intro write hwrite m hm
    obtain ⟨e, hentry, hle⟩ := h.behind write hwrite m hm
    obtain ⟨e', hentry', -, hle'⟩ := L2Node.step_raises hstep _ _ hentry
    exact ⟨e', hentry', UInt64.le_trans hle hle'⟩
  -- it remains to see which writes are new
  suffices hnew : (∀ write ∈ next.writes, write.Justified tagged inputs) ∧
      (∀ write ∈ next.writes, ∀ m ∈ write.message, ∃ e,
        next.store.entry m.header.streamId = some e ∧ m.sequenceNumber ≤ e.sequenceNumber) ∧
      next.writes.Pairwise L2Write.Before from
    ⟨hmap.trans h.streamMap, hsecret.trans h.sharedSecret, hnew.1, hnew.2.1, hnew.2.2⟩
  cases L2Node.step_effect hstep with
  | refused => exact ⟨h.justified, hraise, h.increasing⟩
  | unsent => exact ⟨h.justified, hraise, h.increasing⟩
  | sent => exact ⟨h.justified, hraise, h.increasing⟩
  | @accepted state frame message stream e haccept hstream hentry hfresh =>
    cases hinput : message.input stream with
    | none =>
      -- accepted, but its status or its length keeps it from the process image
      simp only [Option.map_none, Option.toList_none, List.append_nil] at hraise ⊢
      exact ⟨h.justified, hraise, h.increasing⟩
    | some input =>
      obtain ⟨parsed, hparse, hparsed, hmessage, htag⟩ := accepted_spec haccept
      obtain ⟨hstatus, content, hcontent, hlen, hdata⟩ := L2Message.input_eq_some hinput
      rw [h.streamMap] at hstream
      obtain ⟨hmem, hkey⟩ := receiverStreamMap_lookup hstream
      subst hparsed
      rw [h.sharedSecret] at htag
      have hcovers := hforge state frame (by simp) parsed hparse htag
      have hl2 := TaggedMessages.mem_l2_of_covers hcovers hstatus
      simp only [Option.map_some, Option.toList_some] at hraise ⊢
      -- the new write is justified, leaves its number at the mark, and comes last
      refine ⟨?_, ?_, ?_⟩
      · intro write hwrite
        rcases List.mem_append.mp hwrite with hold | hlast
        · exact h.justified write hold
        · rw [List.mem_singleton] at hlast
          subst hlast
          exact ⟨_, hl2, hmessage, hstatus, stream, hmem, hkey, content, hcontent, hlen, hdata⟩
      · intro write hwrite m hm
        rcases List.mem_append.mp hwrite with hold | hlast
        · exact hraise write hold m hm
        · rw [List.mem_singleton] at hlast
          subst hlast
          have hsame : parsed.message = m := Option.some.inj (hmessage.symm.trans hm)
          subst hsame
          exact ⟨_, entry_withEntry _ _ _, UInt64.le_refl _⟩
      · rw [List.pairwise_append]
        refine ⟨h.increasing, List.pairwise_singleton _ _, ?_⟩
        intro write hold last hlast m hm n hn hid
        rw [List.mem_singleton] at hlast
        subst hlast
        have hsame : parsed.message = n := Option.some.inj (hmessage.symm.trans hn)
        subst hsame
        -- the old number is at most the mark, the new one is above it
        obtain ⟨e', hentry', hle⟩ := h.behind write hold m hm
        rw [hid, hentry, Option.some.injEq] at hentry'
        subst hentry'
        exact UInt64.lt_of_le_of_lt hle hfresh

/-- **Every write stems from a tagged message of its own**, whatever byte strings are received:
the stream is a configured input stream, the status NoError, the data the first bytes of the
payload, and the numbers of one stream rise. An accepted frame advances its stream and is
written at most once; any other frame changes nothing. -/
theorem inputs_stem_from_tagged_messages {party : L2Party} {store : StreamStore}
    {events : List L2Event} {node : L2Node}
    (hrun : execute (L2Node.step blake3) (.start party store) events = some node)
    (hforge : UnforgeableFrames blake3 store.sharedSecret tagged events) :
    (∀ write ∈ node.writes,
      write.Justified tagged (store.getStreamsByDirection .input)) ∧
    (node.writes.map L2Write.message).Nodup ∧
    node.writes.Pairwise L2Write.Before ∧
    (∀ (before after : L2Node) state frame,
      before.step blake3 (.receive state frame) = some after →
      (before.accepted blake3 frame = none → after = before) ∧
      ∀ message, before.accepted blake3 frame = some message →
        ∃ e, before.store.entry message.header.streamId = some e ∧
          e.sequenceNumber < message.sequenceNumber ∧
          after.store = before.store.withEntry message.header.streamId
            { e with sequenceNumber := message.sequenceNumber } ∧
          (after.writes = before.writes ∨
            ∃ input, after.writes = before.writes ++ [⟨frame, input⟩])) := by
  have hunforged : ∀ event ∈ events, event.Unforged blake3 store.sharedSecret tagged := by
    intro event hmem state frame hevent
    rw [List.mem_singleton] at hevent
    exact hforge state frame (hevent ▸ hmem)
  have hwrites := execute_invariant_of_guarded
    (G := fun _ event => event.Unforged blake3 store.sharedSecret tagged)
    writesTagged_step (writesTagged_start tagged party store) (.of_forall_mem hunforged) hrun
  refine ⟨hwrites.justified, ?_, hwrites.increasing, ?_⟩
  -- two writes with one message would have one number
  · rw [List.Nodup, List.pairwise_map]
    apply hwrites.increasing.imp_of_mem
    intro v w hv hw hbefore hsame
    obtain ⟨m, -, hm, -⟩ := hwrites.justified v hv
    exact absurd (hbefore m hm m (hsame ▸ hm) rfl) (UInt64.lt_irrefl _)
  -- a single iteration, in any state of the node
  · intro before after state frame hstep
    cases L2Node.step_effect hstep with
    | refused _ _ hnone =>
      refine ⟨fun _ => rfl, fun message haccept => ?_⟩
      rw [hnone] at haccept
      cases haccept
    | @accepted _ _ original stream e haccept hstream hentry hfresh =>
      refine ⟨fun hnone => ?_, fun message hmessage => ?_⟩
      · rw [haccept] at hnone
        cases hnone
      · rw [haccept, Option.some.injEq] at hmessage
        subst hmessage
        refine ⟨e, hentry, hfresh, rfl, ?_⟩
        cases original.input stream with
        | none => exact .inl (List.append_nil _)
        | some input => exact .inr ⟨input, rfl⟩

end Receiving

/-- A frame of stream 5 as the sender thread builds it. -/
def fifthStreamFrame (payload : List UInt8) (seq : UInt64) : Frame :=
  buildL2Frame .zero ⟨0, 1, 2, 3, 4, 5⟩ 0 (.new 5 0 0) payload
    ⟨seq, tagOf checksumHash zeroSecret (signedL2Bytes (.new 5 0 0) payload seq)⟩

/-- A frame, a string that is none, and the frame again. -/
def replayedFrame : List L2Event :=
  [.receive .op (fifthStreamFrame [7] 1), .receive .op [], .receive .op (fifthStreamFrame [7] 1)]

/-- The frame is written once. -/
theorem inputs_stem_from_tagged_messages_replayed :
    ∃ node tagged, execute (L2Node.step checksumHash) (.start .slave (singleStreamStore .input))
        replayedFrame = some node ∧ node.writes.length = 1 ∧
      (∀ write ∈ node.writes, write.Justified tagged
        ((singleStreamStore .input).getStreamsByDirection .input)) ∧
      (node.writes.map L2Write.message).Nodup := by
  have hcount : (execute (L2Node.step checksumHash) (.start .slave (singleStreamStore .input))
      replayedFrame).map (fun node => node.writes.length) = some 1 := by decide +kernel
  obtain ⟨node, hrun, hlength⟩ := Option.map_eq_some_iff.mp hcount
  have hforge : UnforgeableFrames checksumHash zeroSecret
      ⟨[⟨.new 5 0 0, [7], 1⟩], [], by simp⟩ replayedFrame := by
    intro state frame hmem parsed hparse htag
    have hframe : frame = fifthStreamFrame [7] 1 ∨ frame = [] := by
      simp only [replayedFrame, List.mem_cons, List.not_mem_nil, or_false, L2Event.receive.injEq]
        at hmem
      tauto
    rcases hframe with rfl | rfl
    · unfold fifthStreamFrame at hparse
      rw [parseL2Frame_build, Except.ok.injEq] at hparse
      subst hparse
      exact .inl ⟨_, List.mem_cons_self, rfl⟩
    · cases hparse
  obtain ⟨hwrites, hnodup, -, -⟩ := inputs_stem_from_tagged_messages hrun hforge
  exact ⟨node, _, hrun, hlength, hwrites, hnodup⟩

/-! ## The next frame of a stream -/

section Delivering

variable {blake3 : KeyedHash} {id : UInt16}

/-- Condition on an iteration: of stream `id`, the receiver accepts earlier frames only. -/
def L2Node.AcceptsOnly (blake3 : KeyedHash) (id : UInt16) (earlier : List Frame) (node : L2Node) :
    L2Event → Prop
  | .receive _ frame => ∀ message ∈ node.accepted blake3 frame, message.header.streamId = id →
      ∃ sent ∈ earlier, Frame.message sent = some message
  | .send .. => True

instance (earlier : List Frame) (node : L2Node) :
    ∀ event, Decidable (node.AcceptsOnly blake3 id earlier event)
  | .receive _ frame => inferInstanceAs (Decidable (∀ message ∈ node.accepted blake3 frame, _))
  | .send .. => inferInstanceAs (Decidable True)

/-- The number lies below the counter of stream `id`, or the counter is full. -/
def BelowCounter (id : UInt16) (number : UInt64) (store : StreamStore) : Prop :=
  ∃ e, store.entry id = some e ∧
    (number.toNat < e.sequenceNumber.toNat ∨ 2 ^ 64 - 1 ≤ e.sequenceNumber.toNat)

theorem BelowCounter.of_raises {number : UInt64} {store next : StreamStore}
    (h : BelowCounter id number store) (hraise : Raises store next) :
    BelowCounter id number next := by
  obtain ⟨e, hentry, hbelow⟩ := h
  obtain ⟨e', hentry', -, hle⟩ := hraise id e hentry
  rw [UInt64.le_iff_toNat_le] at hle
  refine ⟨e', hentry', ?_⟩
  omega

/-- The frames of stream `id` sent so far are numbered below its counter. -/
def SentBelow (id : UInt16) (node : L2Node) : Prop :=
  ∀ frame ∈ node.sent, ∀ m ∈ Frame.message frame, m.header.streamId = id →
    BelowCounter id m.sequenceNumber node.store

theorem sentBelow_step (node : L2Node) (event : L2Event) (next : L2Node) (h : SentBelow id node)
    (hstep : node.step blake3 event = some next) : SentBelow id next := by
  have hraise := L2Node.step_raises hstep
  cases L2Node.step_effect hstep with
  | refused => exact h
  | accepted =>
    intro frame hframe m hm hid
    exact (h frame hframe m hm hid).of_raises hraise
  | unsent => exact h
  | @sent state sourceMac destination readOutputs cycleCounter stream status payload e hmem
      hread hentry =>
    intro frame hframe m hm hid
    rcases List.mem_append.mp hframe with hold | hlast
    · exact (h frame hold m hm hid).of_raises hraise
    -- the frame just sent carries the number from which the counter has moved on
    · rw [List.mem_singleton] at hlast
      subst hlast
      rw [Frame.message_of_parse (parseL2Frame_build _ _ _ _ _ _), Option.mem_def,
        Option.some.injEq] at hm
      subst hm
      have hkey : stream.streamId.toUInt16 = id := hid
      subst hkey
      refine ⟨_, entry_withEntry _ _ _, ?_⟩
      show e.sequenceNumber.toNat < (saturatingAdd e.sequenceNumber 1).toNat ∨ _
      have hlt := e.sequenceNumber.toNat_lt
      rw [toNat_saturatingAdd, UInt64.toNat_one]
      omega

/-- The receiver's mark of stream `id` is its first one, or the number of an earlier frame. -/
structure MarkOfEarlier (id : UInt16) (config : StreamConfig) (outputs : List StreamConfig)
    (earlier : List Frame) (node : L2Node) : Prop where
  outputStreams : node.outputStreams = outputs
  mark : ∃ e, node.store.entry id = some e ∧ e.streamConfig = config ∧
    (e.sequenceNumber = 0 ∨ ∃ sent ∈ earlier, ∃ m ∈ Frame.message sent,
      m.header.streamId = id ∧ m.sequenceNumber = e.sequenceNumber)

theorem markOfEarlier_step {config : StreamConfig} {outputs : List StreamConfig}
    {earlier : List Frame} (hother : ∀ stream ∈ outputs, stream.streamId.toUInt16 ≠ id)
    (node : L2Node) (event : L2Event) (next : L2Node)
    (h : MarkOfEarlier id config outputs earlier node)
    (honly : node.AcceptsOnly blake3 id earlier event)
    (hstep : node.step blake3 event = some next) :
    MarkOfEarlier id config outputs earlier next := by
  obtain ⟨-, -, houtputs, -⟩ := L2Node.step_fixed hstep
  refine ⟨houtputs.trans h.outputStreams, ?_⟩
  obtain ⟨e, hentry, hconfig, hmark⟩ := h.mark
  cases L2Node.step_effect hstep with
  | refused => exact ⟨e, hentry, hconfig, hmark⟩
  | @accepted state frame message stream e' haccept hstream hentry' hfresh =>
    by_cases hid : message.header.streamId = id
    · subst hid
      rw [hentry', Option.some.injEq] at hentry
      subst hentry
      obtain ⟨sent, hsent, hmessage⟩ := honly message haccept rfl
      exact ⟨_, entry_withEntry _ _ _, hconfig, .inr ⟨sent, hsent, message, hmessage, rfl, rfl⟩⟩
    · exact ⟨e, (entry_withEntry_ne (Ne.symm hid)).trans hentry, hconfig, hmark⟩
  | unsent => exact ⟨e, hentry, hconfig, hmark⟩
  | @sent state sourceMac destination readOutputs cycleCounter stream status payload e' hmem =>
    -- the sender thread of the receiving node serves output streams only
    rw [h.outputStreams] at hmem
    have hne := hother stream hmem
    exact ⟨e, (entry_withEntry_ne (Ne.symm hne)).trans hentry, hconfig, hmark⟩

/-- The two ends of one stream as configured: an output of the sender, an input of the
receiver, of one size. -/
structure StreamEnds (sender receiver : StreamStore) (outConfig inConfig : StreamConfig)
    (outContent inContent : Position) : Prop where
  sameSecret : sender.sharedSecret = receiver.sharedSecret
  senderFresh : sender.FreshlyConfigured
  receiverFresh : receiver.FreshlyConfigured
  output : outConfig ∈ sender.getStreamsByDirection .output
  input : inConfig ∈ receiver.getStreamsByDirection .input
  sameId : outConfig.streamId = inConfig.streamId
  outputContent : outConfig.streamContent = some outContent
  inputContent : inConfig.streamContent = some inContent
  sameBits : outContent.bitLen = inContent.bitLen

namespace StreamEnds

variable {sender receiver : StreamStore} {outConfig inConfig : StreamConfig}
  {outContent inContent : Position} {sendEvents receiveEvents : List L2Event}
  {sendingParty receivingParty : L2Party} {sendNode receiveNode : L2Node}

/-- The counter of the sending end is above all numbers it has sent. -/
theorem sender_entry (ends : StreamEnds sender receiver outConfig inConfig outContent inContent)
    (hsend : execute (L2Node.step blake3) (.start sendingParty sender) sendEvents = some sendNode)
    (hcounter : ∀ e ∈ sendNode.store.entry outConfig.streamId.toUInt16,
      e.sequenceNumber.toNat < 2 ^ 64 - 1) :
    ∃ e, sendNode.store.entry outConfig.streamId.toUInt16 = some e ∧
      0 < e.sequenceNumber.toNat ∧
      ∀ frame ∈ sendNode.sent, ∀ m ∈ Frame.message frame,
        m.header.streamId = outConfig.streamId.toUInt16 →
        m.sequenceNumber.toNat < e.sequenceNumber.toNat := by
  obtain ⟨first, hfirst, hone⟩ := ends.senderFresh.entry_of_mem ends.output
  obtain ⟨e, hentry, -, hle⟩ := L2Node.execute_raises hsend _ _ hfirst
  have hinitial : (1 : UInt64) = first := Except.ok.inj hone
  -- outputs start at one
  have hpos : 0 < e.sequenceNumber.toNat := by
    rw [UInt64.le_iff_toNat_le, ← hinitial, UInt64.toNat_one] at hle
    exact hle
  refine ⟨e, hentry, hpos, ?_⟩
  have hbelow : SentBelow outConfig.streamId.toUInt16 sendNode := by
    apply execute_invariant sentBelow_step _ hsend
    intro frame h
    cases h
  intro frame hframe m hm hid
  obtain ⟨e', hentry', hlt⟩ := hbelow frame hframe m hm hid
  rw [hentry, Option.some.injEq] at hentry'
  subst hentry'
  have hbound := hcounter e hentry
  omega

/-- The receiving end finds its stream in the map and in the store, at the number of an
earlier frame. -/
theorem receiver_entry (ends : StreamEnds sender receiver outConfig inConfig outContent inContent)
    {earlier : List Frame}
    (hreceive : execute (L2Node.step blake3) (.start receivingParty receiver) receiveEvents
      = some receiveNode)
    (hearlier : EveryStep (L2Node.step blake3)
      (L2Node.AcceptsOnly blake3 outConfig.streamId.toUInt16 earlier)
      (.start receivingParty receiver) receiveEvents) :
    receiveNode.streamMap.lookup outConfig.streamId.toUInt16 = some inConfig ∧
    ∃ e, receiveNode.store.entry outConfig.streamId.toUInt16 = some e ∧
      (e.sequenceNumber = 0 ∨ ∃ sent ∈ earlier, ∃ m ∈ Frame.message sent,
        m.header.streamId = outConfig.streamId.toUInt16 ∧
          m.sequenceNumber = e.sequenceNumber) := by
  obtain ⟨first, hfirst, hzero⟩ := ends.receiverFresh.entry_of_mem ends.input
  have hinitial : (0 : UInt64) = first := Except.ok.inj hzero
  rw [ends.sameId] at hearlier ⊢
  -- one entry holds the identifier, so no other stream of the receiver has it
  have hunique : ∀ direction, ∀ other ∈ receiver.getStreamsByDirection direction,
      other.streamId.toUInt16 = inConfig.streamId.toUInt16 → other = inConfig := by
    intro direction other hother hid
    obtain ⟨seq, hentry, -⟩ := ends.receiverFresh.entry_of_mem hother
    rw [hid, hfirst, Option.some.injEq] at hentry
    exact (congrArg StreamEntry.streamConfig hentry).symm
  constructor
  · rw [(L2Node.execute_fixed hreceive).1]
    exact receiverStreamMap_lookup_of_mem ends.input (hunique .input)
  -- only the receiver thread moves the mark, since no output has the identifier
  · have houtputs : ∀ stream ∈ receiver.getStreamsByDirection .output,
        stream.streamId.toUInt16 ≠ inConfig.streamId.toUInt16 := by
      intro stream hstream hid
      have hsame := hunique .output stream hstream hid
      have hdirection := (mem_getStreamsByDirection.mp hstream).1
      rw [hsame, (mem_getStreamsByDirection.mp ends.input).1] at hdirection
      exact absurd hdirection (by decide)
    have hmark := execute_invariant_of_guarded (markOfEarlier_step houtputs)
      (⟨rfl, _, hfirst, rfl, .inl hinitial.symm⟩ :
        MarkOfEarlier _ inConfig _ earlier (.start receivingParty receiver)) hearlier hreceive
    obtain ⟨e, hentry, -, hnumber⟩ := hmark.mark
    exact ⟨e, hentry, hnumber⟩

/-- What the receiving end writes for a message made of the outputs. -/
theorem input_of_outputsRead
    (ends : StreamEnds sender receiver outConfig inConfig outContent inContent)
    {readOutputs : Position → Except StatusCode (List UInt8)} {status : StatusCode}
    {payload : List UInt8} (hread : OutputsRead readOutputs outConfig status payload)
    (hlength : ∀ bytes, readOutputs outContent = .ok bytes →
      bytes.length = bitLenToByteLen outContent.bitLen)
    {streamId cycleCounter : UInt16} {seq : UInt64} :
    let message : L2Message := ⟨.new streamId cycleCounter status.toU8, payload, seq⟩
    (∀ bytes, readOutputs outContent = .ok bytes →
      message.input inConfig = some ⟨bytes, inContent⟩) ∧
    (∀ code, readOutputs outContent = .error code → code ≠ .noError ∨ outContent.bitLen ≠ 0 →
      message.input inConfig = none) := by
  intro message
  have hbuild : buildFramePayload readOutputs outConfig = readOutputs outContent := by
    unfold buildFramePayload
    rw [ends.outputContent]
  have hsize : bitLenToByteLen inContent.bitLen = bitLenToByteLen outContent.bitLen := by
    rw [ends.sameBits]
  have hhandle : handleInputPacket inConfig payload =
      if payload.length < bitLenToByteLen outContent.bitLen then .error .errInvalidLen
      else .ok ⟨payload.take (bitLenToByteLen outContent.bitLen), inContent⟩ := by
    unfold handleInputPacket
    rw [ends.inputContent]
    dsimp only
    rw [hsize]
  have hinput : message.input inConfig =
      if status.toU8 = StatusCode.noError.toU8 then (handleInputPacket inConfig payload).toOption
      else none := rfl
  rw [hinput, hhandle]
  unfold OutputsRead at hread
  rw [hbuild] at hread
  constructor
  -- the payload has the size that the receiver expects, so nothing is cut off
  · intro bytes hok
    rcases hread with ⟨hpayload, rfl⟩ | ⟨hpayload, -⟩
    · rw [hok, Except.ok.injEq] at hpayload
      subst hpayload
      have hlen := hlength bytes hok
      rw [if_pos rfl, if_neg (by omega), ← hlen, List.take_length]
      rfl
    · rw [hok] at hpayload
      cases hpayload
  · intro code herror hcode
    rcases hread with ⟨hpayload, -⟩ | ⟨hpayload, rfl⟩
    · rw [herror] at hpayload
      cases hpayload
    · rw [herror, Except.error.injEq] at hpayload
      subst hpayload
      rcases hcode with hcode | hbits
      -- the status byte of an error is not that of NoError
      · rw [if_neg (fun h => hcode (StatusCode.toU8_injective h))]
      -- an empty payload is too short for a stream with content
      · have hshort : ([] : List UInt8).length < bitLenToByteLen outContent.bitLen := by
          have hpos : outContent.bitLen.toNat ≠ 0 := fun h => hbits (UInt32.toNat_inj.mp h)
          rw [List.length_nil, bitLenToByteLen]
          omega
        rw [if_pos hshort]
        split <;> rfl

end StreamEnds

/-- A destination is read from six bytes or more. -/
theorem isSome_parseDestinationMac_iff (stream : StreamConfig) :
    6 ≤ stream.destinationMac.length ↔ (parseDestinationMac stream).isSome := by
  unfold parseDestinationMac
  split
  · rename_i a b c d e f rest hbytes
    rw [hbytes]
    simp
  · rename_i hshort
    rw [Option.isSome_none, Bool.false_eq_true, iff_false]
    intro hlong
    obtain ⟨_ | ⟨a, _ | ⟨b, _ | ⟨c, _ | ⟨d, _ | ⟨e, _ | ⟨f, rest⟩⟩⟩⟩⟩⟩, hbytes⟩ :
      ∃ bytes, stream.destinationMac = bytes := ⟨_, rfl⟩
    all_goals rw [hbytes] at hlong hshort
    case cons.cons.cons.cons.cons.cons => exact hshort a b c d e f rest rfl
    all_goals simp at hlong

/-- A built frame above the mark is received as its message. -/
theorem receiveFrame_buildL2Frame {streamMap : HashMap UInt16 StreamConfig}
    {store : StreamStore} (party : L2Party) (src dst : MacAddr) (vlan : UInt16)
    {header : L2Header} (payload : List UInt8) {seq : UInt64} {stream : StreamConfig}
    {e : StreamEntry} (hstream : streamMap.lookup header.streamId = some stream)
    (hentry : store.entry header.streamId = some e) (hfresh : e.sequenceNumber < seq) :
    (party.receiveFrame blake3 streamMap store (buildL2Frame src dst vlan header payload
      ⟨seq, tagOf blake3 store.sharedSecret (signedL2Bytes header payload seq)⟩)).1 =
      L2Message.input ⟨header, payload, seq⟩ stream := by
  obtain ⟨frame, hframe⟩ : ∃ frame, frame = buildL2Frame src dst vlan header payload
      ⟨seq, tagOf blake3 store.sharedSecret (signedL2Bytes header payload seq)⟩ := ⟨_, rfl⟩
  have hparse := parseL2Frame_build src dst vlan header payload
    ⟨seq, tagOf blake3 store.sharedSecret (signedL2Bytes header payload seq)⟩
  rw [← hframe] at hparse ⊢
  -- a frame built under the shared secret parses back and has the right tag
  have haccept : acceptedMessage blake3 streamMap store frame = some ⟨header, payload, seq⟩ :=
    acceptedMessage_eq_some_iff.mpr ⟨_, stream, e, hparse, rfl, hstream, hentry, hfresh, rfl⟩
  rcases @receiveFrame_cases blake3 streamMap store frame party with
    ⟨hnone, -⟩ | ⟨message, stream', e', hsome, hstream', -, -, heq⟩
  · rw [haccept] at hnone
    cases hnone
  · rw [haccept, Option.some.injEq] at hsome
    subst hsome
    rw [hstream, Option.some.injEq] at hstream'
    rw [heq, hstream']

/-- **Outputs arrive as inputs**: the frame built by one sender iteration, received as the next
frame of its stream, is written at the position of the receiver with exactly the bytes read,
and is not written if reading failed. -/
theorem outputs_delivered_as_inputs {sender receiver : StreamStore}
    {outConfig inConfig : StreamConfig} {outContent inContent : Position}
    {sendEvents receiveEvents : List L2Event} {sendingParty receivingParty : L2Party}
    {sendNode receiveNode : L2Node}
    (ends : StreamEnds sender receiver outConfig inConfig outContent inContent)
    (hsend : execute (L2Node.step blake3) (.start sendingParty sender) sendEvents = some sendNode)
    (hcounter : ∀ e ∈ sendNode.store.entry outConfig.streamId.toUInt16,
      e.sequenceNumber.toNat < 2 ^ 64 - 1)
    (hreceive : execute (L2Node.step blake3) (.start receivingParty receiver) receiveEvents
      = some receiveNode)
    (hearlier : EveryStep (L2Node.step blake3)
      (L2Node.AcceptsOnly blake3 outConfig.streamId.toUInt16 sendNode.sent)
      (.start receivingParty receiver) receiveEvents)
    (sourceMac : MacAddr) {readOutputs : Position → Except StatusCode (List UInt8)}
    (cycleCounter : UInt16)
    (hlength : ∀ bytes, readOutputs outContent = .ok bytes →
      bytes.length = bitLenToByteLen outContent.bitLen) :
    ((sendingParty.sendFrame blake3 sourceMac readOutputs cycleCounter sendNode.store
      outConfig).1.isSome ↔ 6 ≤ outConfig.destinationMac.length) ∧
    ∀ frame, (sendingParty.sendFrame blake3 sourceMac readOutputs cycleCounter sendNode.store
        outConfig).1 = some frame →
      (∀ bytes, readOutputs outContent = .ok bytes →
        (receivingParty.receiveFrame blake3 receiveNode.streamMap receiveNode.store frame).1
          = some ⟨bytes, inContent⟩) ∧
      (∀ code, readOutputs outContent = .error code → code ≠ .noError ∨ outContent.bitLen ≠ 0 →
        (receivingParty.receiveFrame blake3 receiveNode.streamMap receiveNode.store frame).1
          = none) := by
  obtain ⟨e, hentry, hpos, habove⟩ := ends.sender_entry hsend hcounter
  obtain ⟨hstream, mark, hmark, hnumber⟩ := ends.receiver_entry hreceive hearlier
  -- the mark of the receiver is zero or the number of an earlier frame, so it is below
  have hfresh : mark.sequenceNumber < e.sequenceNumber := by
    rw [UInt64.lt_iff_toNat_lt]
    rcases hnumber with hzero | ⟨sent, hsent, m, hm, hid, hseq⟩
    · rw [hzero]
      exact hpos
    · rw [← hseq]
      exact habove sent hsent m hm hid
  have hsecret : sendNode.store.sharedSecret = receiveNode.store.sharedSecret := by
    rw [(L2Node.execute_fixed hsend).2, (L2Node.execute_fixed hreceive).2]
    exact ends.sameSecret
  obtain ⟨status, payload, hread⟩ := exists_outputsRead readOutputs outConfig
  rw [isSome_parseDestinationMac_iff]
  rcases @sendFrame_cases blake3 sendNode.store sendingParty sourceMac readOutputs cycleCounter
    outConfig status payload hread with ⟨hno, heq⟩ | ⟨destination, e', hdestination, hentry', heq⟩
  -- nothing is built, and only the destination can be the reason
  · rw [heq]
    rcases hno with hno | hno
    · rw [hno]
      exact ⟨Iff.rfl, by simp⟩
    · rw [hentry] at hno
      cases hno
  -- the frame is built, and received as its message
  · rw [hentry, Option.some.injEq] at hentry'
    subst hentry'
    rw [heq, hdestination]
    refine ⟨Iff.rfl, ?_⟩
    intro frame hframe
    rw [Option.some.injEq] at hframe
    subst hframe
    rw [hsecret, receiveFrame_buildL2Frame receivingParty _ _ _ payload hstream hmark hfresh]
    exact ends.input_of_outputsRead hread hlength

end Delivering

/-- Stream 5 at one of its ends. -/
def fifthStream (direction : Direction) : StreamConfig :=
  { streamId := 5
    destinationMac := [0, 1, 2, 3, 4, 5]
    vlanIdPcp := 0
    cycleTimeNano := 250000
    direction := direction.toI32
    streamContent := some ⟨0, 0, 8⟩ }

/-- A process image of one byte. -/
def readByte (byte : UInt8) (_ : Position) : Except StatusCode (List UInt8) := .ok [byte]

/-- The master sends two frames to a slave, which writes the byte read for the second. -/
theorem outputs_delivered_as_inputs_second_frame :
    ∃ master slave frame,
      execute (L2Node.step checksumHash) (.start .master (singleStreamStore .output))
        [.send .op .zero (readByte 7) 0 (fifthStream .output)] = some master ∧
      execute (L2Node.step checksumHash) (.start .slave (singleStreamStore .input))
        [.receive .op (fifthStreamFrame [7] 1)] = some slave ∧
      (L2Party.master.sendFrame checksumHash .zero (readByte 9) 0 master.store
        (fifthStream .output)).1 = some frame ∧
      (L2Party.slave.receiveFrame checksumHash slave.streamMap slave.store frame).1
        = some ⟨[9], ⟨0, 0, 8⟩⟩ := by
  -- the master has sent 7 already, and the slave has received it
  have hmaster : (execute (L2Node.step checksumHash) (.start .master (singleStreamStore .output))
      [.send .op .zero (readByte 7) 0 (fifthStream .output)]).map
        (fun node => (node.sent, (node.store.entry 5).map (·.sequenceNumber)))
      = some ([fifthStreamFrame [7] 1], some 2) := by decide +kernel
  obtain ⟨master, hsend, hfacts⟩ := Option.map_eq_some_iff.mp hmaster
  obtain ⟨hsent, hnumber⟩ := Prod.mk.inj hfacts
  have hslave : (execute (L2Node.step checksumHash) (.start .slave (singleStreamStore .input))
      [.receive .op (fifthStreamFrame [7] 1)]).isSome := by decide +kernel
  obtain ⟨slave, hreceive⟩ := Option.isSome_iff_exists.mp hslave
  have hends : StreamEnds (singleStreamStore .output) (singleStreamStore .input)
      (fifthStream .output) (fifthStream .input) ⟨0, 0, 8⟩ ⟨0, 0, 8⟩ :=
    { sameSecret := rfl
      senderFresh := (freshlyConfigured_new _).insertStreamConfigs _
      receiverFresh := (freshlyConfigured_new _).insertStreamConfigs _
      output := by decide
      input := by decide
      sameId := rfl
      outputContent := rfl
      inputContent := rfl
      sameBits := rfl }
  -- so the next number of the stream is 2
  have hcounter : ∀ e ∈ master.store.entry (fifthStream .output).streamId.toUInt16,
      e.sequenceNumber.toNat < 2 ^ 64 - 1 := by
    intro e he
    have hentry : master.store.entry 5 = some e := he
    rw [hentry, Option.map_some, Option.some.injEq] at hnumber
    rw [hnumber]
    decide
  have hearlier : EveryStep (L2Node.step checksumHash)
      (L2Node.AcceptsOnly checksumHash (fifthStream .output).streamId.toUInt16 master.sent)
      (.start .slave (singleStreamStore .input)) [.receive .op (fifthStreamFrame [7] 1)] := by
    rw [hsent]
    decide +kernel
  have hlength : ∀ bytes, readByte 9 ⟨0, 0, 8⟩ = .ok bytes → bytes.length = bitLenToByteLen 8 := by
    intro bytes h
    cases h
    rfl
  obtain ⟨hbuilt, hdelivered⟩ :=
    outputs_delivered_as_inputs hends hsend hcounter hreceive hearlier .zero 0 hlength
  obtain ⟨frame, hframe⟩ := Option.isSome_iff_exists.mp (hbuilt.mpr (by decide))
  exact ⟨master, slave, frame, hsend, hreceive, hframe, (hdelivered frame hframe).1 [9] rfl⟩

end TsnFieldbus
