import TsnFieldbus.Foundations.HighWaterMark
import TsnFieldbus.Common.StreamStore

/-!
# Replay Protection of L2 Streams

A sender store generates tags for a sequence of messages; a receiver store validates any
sequence of frames: the sender's in any order, with loss and duplication, between frames of
other streams, of unknown streams and with wrong tags.

- `sendAll_spec`: the sender numbers the frames of one stream strictly increasingly.
- `entry_receiveAll`: the receiver's mark is the high-water mark of the genuine frames.
- `accepts_genuine_iff_above_all`, `genuine_stream_replay_protection`: the receiver accepts
  a genuine frame exactly when it is newer than every genuine frame before it.
-/

namespace TsnFieldbus

open Foundations

/-- An L2 message with its footer, as sent or as received. -/
structure StreamFrame where
  header : L2Header
  payload : List UInt8
  sequenceNumber : UInt64
  authTag : AuthTag
deriving DecidableEq

namespace StreamStore

variable (blake3 : KeyedHash)

/-- Generate tags for the messages in order; messages of unknown streams give no frame. -/
def sendAll (store : StreamStore) : List (L2Header × List UInt8) → List StreamFrame × StreamStore
  | [] => ([], store)
  | (header, payload) :: rest =>
    match store.generateStreamTag blake3 header payload with
    | (.error _, store) => store.sendAll rest
    | (.ok (sequenceNumber, authTag), store) =>
      let (frames, store) := store.sendAll rest
      (⟨header, payload, sequenceNumber, authTag⟩ :: frames, store)

/-- Validate one received frame. -/
def receive (store : StreamStore) (frame : StreamFrame) : Except StatusCode Bool × StreamStore :=
  store.validateStreamTag blake3 frame.header frame.payload frame.sequenceNumber frame.authTag

/-- The store after receiving the frames in order. -/
def receiveAll (store : StreamStore) (frames : List StreamFrame) : StreamStore :=
  frames.foldl (fun store frame => (store.receive blake3 frame).2) store

/-- The entry of a stream as adding its configuration leaves it. -/
def FreshlyAdded (store : StreamStore) (id : UInt16) (direction : Direction) : Prop :=
  ∃ e ∈ store.entry id, Direction.tryFrom e.streamConfig.direction = some direction ∧
    initialSequenceNumber e.streamConfig.direction = .ok e.sequenceNumber

instance (store : StreamStore) (id : UInt16) (direction : Direction) :
    Decidable (store.FreshlyAdded id direction) :=
  have : ∀ e : StreamEntry,
      Decidable (initialSequenceNumber e.streamConfig.direction = .ok e.sequenceNumber) :=
    fun e =>
      match h : initialSequenceNumber e.streamConfig.direction with
      | .ok seq => decidable_of_iff (seq = e.sequenceNumber) (by simp)
      | .error _ => .isFalse (by simp)
  inferInstanceAs (Decidable (∃ e ∈ store.entry id, _ ∧ _))

/-- `add_stream_config` leaves a freshly added entry. -/
theorem freshlyAdded_addStreamConfig {store next : StreamStore} {config : StreamConfig}
    {id : UInt16} {direction : Direction} (h : store.addStreamConfig config = .ok next)
    (hid : streamIdAsU16 config.streamId = .ok id)
    (hdir : Direction.tryFrom config.direction = some direction) :
    next.FreshlyAdded id direction := by
  obtain ⟨newId, seq, hnew, -, hseq, rfl⟩ := addStreamConfig_eq_ok h
  rw [hid, Except.ok.injEq] at hnew
  subst hnew
  exact ⟨_, entry_withEntry _ _ _, hdir, hseq⟩

/-- `add_stream_configs` leaves freshly added entries. -/
theorem freshlyAdded_insertStreamConfigs {store : StreamStore} {configs : List StreamConfig}
    {config : StreamConfig} {id : UInt16} {direction : Direction} (hmem : config ∈ configs)
    (hok : (store.insertStreamConfigs configs).1 = .ok ())
    (hid : streamIdAsU16 config.streamId = .ok id)
    (hdir : Direction.tryFrom config.direction = some direction) :
    (store.insertStreamConfigs configs).2.FreshlyAdded id direction := by
  induction configs generalizing store with
  | nil => cases hmem
  | cons first rest ih =>
    unfold insertStreamConfigs at hok ⊢
    split at hok
    · cases hok
    · rename_i next hadd
      rcases List.mem_cons.mp hmem with rfl | hrest
      · obtain ⟨e, hentry, hfresh⟩ := freshlyAdded_addStreamConfig hadd hid hdir
        exact ⟨e, insertStreamConfigs_keeps hentry, hfresh⟩
      · exact ih hrest hok

theorem FreshlyAdded.entry_output {store : StreamStore} {id : UInt16}
    (h : store.FreshlyAdded id .output) : ∃ e, store.entry id = some e ∧ e.sequenceNumber = 1 := by
  obtain ⟨e, hentry, hdir, hseq⟩ := h
  refine ⟨e, hentry, ?_⟩
  simp only [initialSequenceNumber, hdir, Except.ok.injEq] at hseq
  exact hseq.symm

theorem FreshlyAdded.entry_input {store : StreamStore} {id : UInt16}
    (h : store.FreshlyAdded id .input) : ∃ e, store.entry id = some e ∧ e.sequenceNumber = 0 := by
  obtain ⟨e, hentry, hdir, hseq⟩ := h
  refine ⟨e, hentry, ?_⟩
  simp only [initialSequenceNumber, hdir, Except.ok.injEq] at hseq
  exact hseq.symm

/-! ## Sending -/

/-- The frames the sender generates for one stream are authentic and numbered strictly
increasingly from the entry's sequence number. -/
theorem sendAll_spec {store : StreamStore} {id : UInt16} {e : StreamEntry}
    (hentry : store.entry id = some e) {messages : List (L2Header × List UInt8)}
    (hlen : e.sequenceNumber.toNat + messages.length < 2 ^ 64) :
    ((store.sendAll blake3 messages).1.filter (·.header.streamId = id)).Pairwise
        (fun f g => f.sequenceNumber < g.sequenceNumber) ∧
      ∀ f ∈ (store.sendAll blake3 messages).1, f.header.streamId = id →
        e.sequenceNumber ≤ f.sequenceNumber ∧
          store.Authentic blake3 f.header f.payload f.sequenceNumber f.authTag := by
  induction messages generalizing store e with
  | nil => exact ⟨List.Pairwise.nil, by simp [sendAll]⟩
  | cons message rest ih =>
    obtain ⟨header, payload⟩ := message
    rw [List.length_cons] at hlen
    by_cases hid : header.streamId = id
    -- a frame of the stream: it takes the current number, the rest starts one higher
    · subst hid
      have hnext : (saturatingAdd e.sequenceNumber 1).toNat = e.sequenceNumber.toNat + 1 := by
        rw [toNat_saturatingAdd, UInt64.toNat_one]
        omega
      obtain ⟨hinc, hrest⟩ := @ih (store.withEntry header.streamId
        { e with sequenceNumber := saturatingAdd e.sequenceNumber 1 }) _
        (entry_withEntry _ _ _) (by simp only [hnext]; omega)
      simp only [sendAll, generateStreamTag_eq blake3 hentry, decide_true, List.filter_cons_of_pos,
        List.pairwise_cons, List.mem_filter, decide_eq_true_eq, List.mem_cons, and_imp]
      -- all later numbers are at least one higher than the current one
      refine ⟨⟨?_, hinc⟩, ?_⟩
      · intro g hg hgid
        have hle := (hrest g hg hgid).1
        rw [UInt64.le_iff_toNat_le, hnext] at hle
        rw [UInt64.lt_iff_toNat_lt]
        omega
      · rintro f (rfl | hf) hfid
        · exact ⟨UInt64.le_refl _, rfl⟩
        · obtain ⟨hle, hauth⟩ := hrest f hf hfid
          rw [UInt64.le_iff_toNat_le, hnext] at hle
          refine ⟨?_, hauth⟩
          rw [UInt64.le_iff_toNat_le]
          omega
    -- a frame of another stream leaves the entry alone
    · have hother : ∀ next : StreamStore, next.entry id = some e →
          next.sharedSecret = store.sharedSecret → _ := fun next hnext hsecret =>
        @ih next e hnext (by omega)
      cases hentry' : store.entry header.streamId with
      | none =>
        -- an unknown stream gives no frame
        simp only [sendAll, generateStreamTag, hentry']
        exact hother store hentry rfl
      | some e' =>
        obtain ⟨hinc, hrest⟩ := hother (store.withEntry header.streamId
          { e' with sequenceNumber := saturatingAdd e'.sequenceNumber 1 })
          ((entry_withEntry_ne (Ne.symm hid)).trans hentry) rfl
        simp only [sendAll, generateStreamTag_eq blake3 hentry', List.mem_cons]
        rw [List.filter_cons_of_neg (by simpa using hid)]
        refine ⟨hinc, ?_⟩
        rintro f (rfl | hf) hfid
        · exact absurd hfid hid
        · exact hrest f hf hfid

/-! ## Receiving -/

@[simp] theorem receiveAll_nil (store : StreamStore) : store.receiveAll blake3 [] = store := rfl

theorem receiveAll_concat (store : StreamStore) (frames : List StreamFrame)
    (frame : StreamFrame) : store.receiveAll blake3 (frames ++ [frame]) =
      ((store.receiveAll blake3 frames).receive blake3 frame).2 := by
  simp only [receiveAll, List.foldl_append, List.foldl_cons, List.foldl_nil]

@[simp] theorem sharedSecret_receive (store : StreamStore) (frame : StreamFrame) :
    (store.receive blake3 frame).2.sharedSecret = store.sharedSecret := by
  rcases validateStreamTag_cases blake3 store frame.header frame.payload frame.sequenceNumber
    frame.authTag with ⟨-, -, hstore⟩ | ⟨e, -, -, -, heq⟩
  · rw [receive, hstore]
  · rw [receive, heq, sharedSecret_withEntry]

@[simp] theorem sharedSecret_receiveAll (store : StreamStore) (frames : List StreamFrame) :
    (store.receiveAll blake3 frames).sharedSecret = store.sharedSecret := by
  induction frames using List.reverseRecOn with
  | nil => rfl
  | append_singleton frames frame ih => rw [receiveAll_concat, sharedSecret_receive, ih]

/-- A call that does not accept leaves the store unchanged. -/
theorem receive_eq_self_of_not_accepted {store : StreamStore} {frame : StreamFrame}
    (h : (store.receive blake3 frame).1 ≠ .ok true) : (store.receive blake3 frame).2 = store := by
  rcases validateStreamTag_cases blake3 store frame.header frame.payload frame.sequenceNumber
    frame.authTag with ⟨-, -, hstore⟩ | ⟨e, -, -, -, heq⟩
  · exact hstore
  · exact absurd (congrArg Prod.fst heq) h

/-- Receiving never lowers a mark and never removes a stream. -/
theorem receive_mark_mono {store : StreamStore} {id : UInt16} {e : StreamEntry}
    (h : store.entry id = some e) (frame : StreamFrame) :
    ∃ e', (store.receive blake3 frame).2.entry id = some e' ∧
      e.sequenceNumber ≤ e'.sequenceNumber := by
  rcases validateStreamTag_cases blake3 store frame.header frame.payload frame.sequenceNumber
    frame.authTag with ⟨-, -, hstore⟩ | ⟨e', hentry, hlt, -, heq⟩
  · exact ⟨e, by rw [receive, hstore, h], UInt64.le_refl _⟩
  · rw [receive, heq]
    by_cases hid : id = frame.header.streamId
    · subst hid
      rw [hentry, Option.some.injEq] at h
      subst h
      exact ⟨_, entry_withEntry _ _ _, UInt64.le_of_lt hlt⟩
    · exact ⟨e, (entry_withEntry_ne hid).trans h, UInt64.le_refl _⟩

theorem receiveAll_mark_mono {store : StreamStore} {id : UInt16} {e : StreamEntry}
    (h : store.entry id = some e) (frames : List StreamFrame) :
    ∃ e', (store.receiveAll blake3 frames).entry id = some e' ∧
      e.sequenceNumber ≤ e'.sequenceNumber := by
  induction frames using List.reverseRecOn with
  | nil => exact ⟨e, h, UInt64.le_refl _⟩
  | append_singleton frames frame ih =>
    obtain ⟨e', he', hle⟩ := ih
    obtain ⟨e'', he'', hle'⟩ := receive_mark_mono blake3 he' frame
    exact ⟨e'', by rw [receiveAll_concat, he''], UInt64.le_trans hle hle'⟩

/-- An accepted frame raises the mark of its stream to its own number. -/
theorem mark_of_accepted {store : StreamStore} {frame : StreamFrame}
    (h : (store.receive blake3 frame).1 = .ok true) :
    ∃ e, (store.receive blake3 frame).2.entry frame.header.streamId = some e ∧
      e.sequenceNumber = frame.sequenceNumber := by
  rcases validateStreamTag_cases blake3 store frame.header frame.payload frame.sequenceNumber
    frame.authTag with ⟨-, hno, -⟩ | ⟨e, -, -, -, heq⟩
  · exact absurd h hno
  · exact ⟨_, by rw [receive, heq, entry_withEntry], rfl⟩

/-- No frame is accepted twice, whatever is received in between. -/
theorem not_accepted_twice {store : StreamStore} {frame : StreamFrame}
    (h : (store.receive blake3 frame).1 = .ok true) (frames : List StreamFrame) :
    ((((store.receive blake3 frame).2).receiveAll blake3 frames).receive blake3 frame).1
      ≠ .ok true := by
  obtain ⟨e, he, hmark⟩ := mark_of_accepted blake3 h
  obtain ⟨e', he', hle⟩ := receiveAll_mark_mono blake3 he frames
  intro haccept
  obtain ⟨e'', he'', hlt, -⟩ := (validateStreamTag_eq_ok_true_iff blake3 _ _ _ _ _).mp haccept
  rw [he', Option.some.injEq] at he''
  subst he''
  exact absurd (UInt64.lt_of_le_of_lt (hmark ▸ hle) hlt) (UInt64.lt_irrefl _)

end StreamStore

/-! ## Sender and receiver together -/

section Link

variable (blake3 : KeyedHash) (sender receiver : StreamStore) (id : UInt16)
variable (messages : List (L2Header × List UInt8)) (deliveries : List StreamFrame)

/-- The genuine frames of the stream: those the sender generated for it. -/
def genuineFrames : List StreamFrame :=
  (sender.sendAll blake3 messages).1.filter (·.header.streamId = id)

variable {blake3 sender id messages} in
/-- A freshly added output stream numbers its frames strictly increasingly. -/
theorem genuineFrames_increasing (houtput : sender.FreshlyAdded id .output)
    (hbound : messages.length < 2 ^ 64 - 1) :
    (genuineFrames blake3 sender id messages).Pairwise
      (fun f g => f.sequenceNumber < g.sequenceNumber) := by
  obtain ⟨e, hentry, hone⟩ := houtput.entry_output
  refine (StreamStore.sendAll_spec blake3 hentry ?_).1
  rw [hone, UInt64.toNat_one]
  omega

variable {blake3 sender id messages} in
/-- Its frames are told apart by their numbers. -/
theorem genuineFrames_eq_of_sequenceNumber (houtput : sender.FreshlyAdded id .output)
    (hbound : messages.length < 2 ^ 64 - 1) {f g : StreamFrame}
    (hf : f ∈ genuineFrames blake3 sender id messages)
    (hg : g ∈ genuineFrames blake3 sender id messages)
    (hseq : f.sequenceNumber = g.sequenceNumber) : f = g := by
  have hne : (genuineFrames blake3 sender id messages).Pairwise
      (fun f g => f.sequenceNumber ≠ g.sequenceNumber) :=
    (genuineFrames_increasing houtput hbound).imp (fun hlt => UInt64.ne_of_lt hlt)
  have hsymm : Std.Symm (fun f g : StreamFrame => f.sequenceNumber ≠ g.sequenceNumber) :=
    ⟨fun _ _ h => h.symm⟩
  by_contra hdistinct
  exact hne.forall hf hg hdistinct hseq

/-- Only tags computed by the sender's `generate_stream_tag` verify on the stream. -/
def UnforgeableStream : Prop :=
  ∀ f ∈ deliveries, f.header.streamId = id →
    receiver.Authentic blake3 f.header f.payload f.sequenceNumber f.authTag →
    f ∈ genuineFrames blake3 sender id messages

instance : Decidable (UnforgeableStream blake3 sender receiver id messages deliveries) :=
  inferInstanceAs (Decidable (∀ f ∈ deliveries, _ → _ → _))

/-- The setting of the section: both ends share the secret, the stream is freshly added as
output at the sender and as input at the receiver, and counters do not saturate. -/
structure StreamLink : Prop where
  sameSecret : sender.sharedSecret = receiver.sharedSecret
  output : sender.FreshlyAdded id .output
  input : receiver.FreshlyAdded id .input
  bounded : messages.length < 2 ^ 64 - 1
  unforgeable : UnforgeableStream blake3 sender receiver id messages deliveries

variable {blake3 sender receiver id messages deliveries}

namespace StreamLink

/-- Genuine frames belong to the stream, verify at the receiver and are numbered from one. -/
theorem genuine_spec (link : StreamLink blake3 sender receiver id messages deliveries)
    {f : StreamFrame} (hf : f ∈ genuineFrames blake3 sender id messages) :
    f.header.streamId = id ∧ 0 < f.sequenceNumber.toNat ∧
      receiver.Authentic blake3 f.header f.payload f.sequenceNumber f.authTag := by
  obtain ⟨e, hentry, hone⟩ := link.output.entry_output
  have hbound := link.bounded
  have hlen : e.sequenceNumber.toNat + messages.length < 2 ^ 64 := by
    rw [hone, UInt64.toNat_one]
    omega
  obtain ⟨hmem, hid⟩ := List.mem_filter.mp hf
  have hid' : f.header.streamId = id := by simpa using hid
  obtain ⟨hle, hauth⟩ := (StreamStore.sendAll_spec blake3 hentry hlen).2 f hmem hid'
  rw [hone, UInt64.le_iff_toNat_le, UInt64.toNat_one] at hle
  refine ⟨hid', hle, ?_⟩
  unfold StreamStore.Authentic at hauth ⊢
  rw [← link.sameSecret]
  exact hauth

/-- The sender numbers genuine frames strictly increasingly. -/
theorem genuine_increasing (link : StreamLink blake3 sender receiver id messages deliveries) :
    (genuineFrames blake3 sender id messages).Pairwise
      (fun f g => f.sequenceNumber < g.sequenceNumber) :=
  genuineFrames_increasing link.output link.bounded

/-- The receiver's mark is the high-water mark of the genuine frames received so far. -/
theorem entry_receiveAll (link : StreamLink blake3 sender receiver id messages deliveries)
    {pre : List StreamFrame} (hpre : ∀ f ∈ pre, f ∈ deliveries) :
    ∃ e, (receiver.receiveAll blake3 pre).entry id = some e ∧
      e.sequenceNumber.toNat = HighWaterMark.offers 0
        ((pre.filter (· ∈ genuineFrames blake3 sender id messages)).map
          (·.sequenceNumber.toNat)) := by
  induction pre using List.reverseRecOn with
  | nil =>
    obtain ⟨e, hentry, hzero⟩ := link.input.entry_input
    exact ⟨e, hentry, by simp [hzero]⟩
  | append_singleton pre f ih =>
    obtain ⟨e, hentry, hmark⟩ := ih (fun g hg => hpre g (List.mem_append_left _ hg))
    rw [StreamStore.receiveAll_concat, List.filter_append, List.map_append]
    by_cases hgen : f ∈ genuineFrames blake3 sender id messages
    -- a genuine frame is offered to the mark
    · obtain ⟨hid, -, hauth⟩ := link.genuine_spec hgen
      rw [List.filter_cons_of_pos (by simpa using hgen), List.filter_nil, List.map_cons,
        List.map_nil, HighWaterMark.offers_concat, ← hmark, HighWaterMark.offer]
      rcases StreamStore.validateStreamTag_cases blake3 (receiver.receiveAll blake3 pre) f.header
        f.payload f.sequenceNumber f.authTag with ⟨hno, -, hstore⟩ | ⟨e', hentry', hlt, -, heq⟩
      · have hge : ¬ e.sequenceNumber < f.sequenceNumber := by
          intro hlt
          refine hno e (hid ▸ hentry) ⟨hlt, ?_⟩
          unfold StreamStore.Authentic at hauth ⊢
          rw [StreamStore.sharedSecret_receiveAll]
          exact hauth
        refine ⟨e, by rw [StreamStore.receive, hstore, hentry], ?_⟩
        rw [if_neg (fun h => hge (UInt64.lt_iff_toNat_lt.mpr h))]
      · rw [hid, hentry, Option.some.injEq] at hentry'
        subst hentry'
        refine ⟨_, by rw [StreamStore.receive, heq, hid, StreamStore.entry_withEntry], ?_⟩
        rw [if_pos (UInt64.lt_iff_toNat_lt.mp hlt)]
    -- any other frame is of another stream or has a tag that does not verify
    · rw [List.filter_cons_of_neg (by simpa using hgen), List.filter_nil, List.map_nil,
        List.append_nil, ← hmark]
      refine ⟨e, ?_, rfl⟩
      by_cases hid : id = f.header.streamId
      · rw [StreamStore.receive_eq_self_of_not_accepted, hentry]
        intro haccept
        obtain ⟨-, -, -, hauth⟩ :=
          (StreamStore.validateStreamTag_eq_ok_true_iff blake3 _ _ _ _ _).mp haccept
        unfold StreamStore.Authentic at hauth
        rw [StreamStore.sharedSecret_receiveAll] at hauth
        exact hgen (link.unforgeable f (hpre f (by simp)) hid.symm hauth)
      · rw [StreamStore.receive, StreamStore.entry_validateStreamTag_ne blake3 _ hid, hentry]

/-- The receiver accepts a genuine frame exactly when it is newer than every genuine frame
delivered before it. -/
theorem accepts_genuine_iff_above_all
    (link : StreamLink blake3 sender receiver id messages deliveries)
    {pre post : List StreamFrame} {f : StreamFrame} (hsplit : deliveries = pre ++ f :: post)
    (hgen : f ∈ genuineFrames blake3 sender id messages) :
    ((receiver.receiveAll blake3 pre).receive blake3 f).1 = .ok true ↔
      ∀ g ∈ pre, g ∈ genuineFrames blake3 sender id messages →
        g.sequenceNumber < f.sequenceNumber := by
  obtain ⟨hid, hpos, hauth⟩ := link.genuine_spec hgen
  obtain ⟨e, hentry, hmark⟩ := @entry_receiveAll _ _ _ _ _ _ link pre
    (fun g hg => by rw [hsplit]; exact List.mem_append_left _ hg)
  -- above the high-water mark means above every genuine frame before
  have hlt : e.sequenceNumber < f.sequenceNumber ↔ ∀ g ∈ pre,
      g ∈ genuineFrames blake3 sender id messages → g.sequenceNumber < f.sequenceNumber := by
    rw [UInt64.lt_iff_toNat_lt, hmark, HighWaterMark.offer_accepts_iff_above_all 0 _ _ hpos]
    rw [List.forall_mem_map]
    simp only [List.mem_filter, decide_eq_true_eq, and_imp, UInt64.lt_iff_toNat_lt]
  rw [← hlt, StreamStore.receive, StreamStore.validateStreamTag_eq_ok_true_iff, hid]
  constructor
  · rintro ⟨e', hentry', hlt', -⟩
    rw [hentry, Option.some.injEq] at hentry'
    exact hentry' ▸ hlt'
  · intro h
    refine ⟨e, hentry, h, ?_⟩
    unfold StreamStore.Authentic at hauth ⊢
    rw [StreamStore.sharedSecret_receiveAll]
    exact hauth

/-- On a channel that keeps the order, no genuine frame is rejected. -/
theorem accepts_genuine_of_in_order
    (link : StreamLink blake3 sender receiver id messages deliveries)
    (horder : (deliveries.filter (· ∈ genuineFrames blake3 sender id messages)).Sublist
      (genuineFrames blake3 sender id messages))
    {pre post : List StreamFrame} {f : StreamFrame} (hsplit : deliveries = pre ++ f :: post)
    (hgen : f ∈ genuineFrames blake3 sender id messages) :
    ((receiver.receiveAll blake3 pre).receive blake3 f).1 = .ok true := by
  rw [link.accepts_genuine_iff_above_all hsplit hgen]
  intro g hg hggen
  have hpairs := link.genuine_increasing.sublist horder
  rw [hsplit, List.filter_append, List.filter_cons_of_pos (by simpa using hgen)] at hpairs
  obtain ⟨-, -, hcross⟩ := List.pairwise_append.mp hpairs
  exact hcross g (List.mem_filter.mpr ⟨hg, by simpa using hggen⟩) f List.mem_cons_self

end StreamLink

/-- **Replay protection of one stream**: a genuine frame is accepted exactly when it is newer
than all genuine frames delivered before it; no frame is accepted twice; a channel that keeps
the order has no genuine frame rejected; whatever is not accepted changes nothing, and no
call touches another stream. -/
theorem genuine_stream_replay_protection
    (link : StreamLink blake3 sender receiver id messages deliveries) :
    (∀ pre f post, deliveries = pre ++ f :: post → f ∈ genuineFrames blake3 sender id messages →
      (((receiver.receiveAll blake3 pre).receive blake3 f).1 = .ok true ↔
        ∀ g ∈ pre, g ∈ genuineFrames blake3 sender id messages →
          g.sequenceNumber < f.sequenceNumber)) ∧
    (∀ pre f mid post, deliveries = pre ++ f :: (mid ++ f :: post) →
      ((receiver.receiveAll blake3 pre).receive blake3 f).1 = .ok true →
      ((receiver.receiveAll blake3 (pre ++ f :: mid)).receive blake3 f).1 ≠ .ok true) ∧
    ((deliveries.filter (· ∈ genuineFrames blake3 sender id messages)).Sublist
        (genuineFrames blake3 sender id messages) →
      ∀ pre f post, deliveries = pre ++ f :: post → f ∈ genuineFrames blake3 sender id messages →
        ((receiver.receiveAll blake3 pre).receive blake3 f).1 = .ok true) ∧
    (∀ (store : StreamStore) f, (store.receive blake3 f).1 ≠ .ok true →
      (store.receive blake3 f).2 = store) ∧
    (∀ (store : StreamStore) f other, other ≠ f.header.streamId →
      (store.receive blake3 f).2.entry other = store.entry other) := by
  refine ⟨?_, ?_, ?_, ?_, ?_⟩
  · intro pre f post hsplit hgen
    exact link.accepts_genuine_iff_above_all hsplit hgen
  · intro pre f mid post _ haccept
    -- what is delivered between the two is received by the store after the first
    have hmid : receiver.receiveAll blake3 (pre ++ f :: mid) =
        ((receiver.receiveAll blake3 pre).receive blake3 f).2.receiveAll blake3 mid := by
      simp only [StreamStore.receiveAll, List.foldl_append, List.foldl_cons]
    rw [hmid]
    exact StreamStore.not_accepted_twice blake3 haccept mid
  · intro horder pre f post hsplit hgen
    exact link.accepts_genuine_of_in_order horder hsplit hgen
  -- the rest holds of every store, and of every frame
  · intro store f h
    exact StreamStore.receive_eq_self_of_not_accepted blake3 h
  · intro store f other hne
    exact StreamStore.entry_validateStreamTag_ne blake3 store hne _ _ _

end Link

/-! ### Two frames in the wrong order -/

/-- A store whose only stream has identifier 5. -/
def singleStreamStore (direction : Direction) : StreamStore :=
  ((StreamStore.new zeroSecret).insertStreamConfigs
    [{ streamId := 5, destinationMac := [0, 1, 2, 3, 4, 5], vlanIdPcp := 0, cycleTimeNano := 250000,
       direction := direction.toI32, streamContent := some ⟨0, 0, 8⟩ }]).2

/-- The frame of stream 5 with number `seq`. -/
def singleStreamFrame (seq : UInt64) : StreamFrame :=
  { header := .new 5 0 0
    payload := [7]
    sequenceNumber := seq
    authTag := tagOf checksumHash zeroSecret (signedL2Bytes (.new 5 0 0) [7] seq) }

/-- Of two frames delivered in the wrong order, the late one is refused. -/
theorem genuine_stream_replay_protection_two_frames :
    (((singleStreamStore .input).receiveAll checksumHash []).receive checksumHash
        (singleStreamFrame 2)).1 = .ok true ∧
      (((singleStreamStore .input).receiveAll checksumHash [singleStreamFrame 2]).receive
        checksumHash (singleStreamFrame 1)).1 ≠ .ok true := by
  have hlink : StreamLink checksumHash (singleStreamStore .output) (singleStreamStore .input) 5
      [(.new 5 0 0, [7]), (.new 5 0 0, [7])] [singleStreamFrame 2, singleStreamFrame 1] :=
    ⟨rfl, by decide, by decide, by decide, by decide +kernel⟩
  obtain ⟨hfilter, -⟩ := genuine_stream_replay_protection hlink
  refine ⟨(hfilter [] _ _ rfl (by decide +kernel)).mpr (by simp), ?_⟩
  rw [Ne, hfilter [singleStreamFrame 2] _ _ rfl (by decide +kernel)]
  decide +kernel

end TsnFieldbus
