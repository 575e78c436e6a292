import TsnFieldbus.Common.L2Types

/-!
# Stream Store

`stream_store.rs`: the configured streams with one sequence number each. For an output
stream it is the next number to send, for an input stream the last one accepted. The lock
of the source serialises the methods, so each method is a function from store to store.

- `signedL2Bytes`: the byte string a stream tag authenticates.
- `generateStreamTag_eq`, `validateStreamTag_cases`: everything the two main methods can do.
- `insertStreamConfigs_entry`: what configuring streams writes.
-/

namespace TsnFieldbus

open Foundations

/-- A configured stream with its sequence state. -/
structure StreamEntry where
  streamConfig : StreamConfig
  sequenceNumber : UInt64
deriving DecidableEq, Repr

/-- Stream configurations and sequence numbers of one party. -/
structure StreamStore where
  sharedSecret : Secret
  streams : HashMap UInt16 StreamEntry

/-- `serialize_l2_header`. -/
def serializeL2Header (header : L2Header) : List UInt8 :=
  [header.version, (header.streamId >>> 8).toUInt8, header.streamId.toUInt8,
    (header.cycleCounter >>> 8).toUInt8, header.cycleCounter.toUInt8, header.status, header.flags]

theorem serializeL2Header_eq (header : L2Header) : serializeL2Header header = header.bytes :=
  header.bytes_eq.symm

/-- The byte string authenticated for an L2 message. -/
def signedL2Bytes (header : L2Header) (payload : List UInt8) (sequenceNumber : UInt64) :
    List UInt8 :=
  header.bytes ++ payload ++ sequenceBytes sequenceNumber

@[simp] theorem length_signedL2Bytes (header : L2Header) (payload : List UInt8) (seq : UInt64) :
    (signedL2Bytes header payload seq).length = 15 + payload.length := by
  simp [signedL2Bytes, l2HeaderSize]
  omega

/-- The signed bytes determine header, payload and sequence number. -/
theorem signedL2Bytes_injective {h h' : L2Header} {p p' : List UInt8} {n n' : UInt64}
    (heq : signedL2Bytes h p n = signedL2Bytes h' p' n') : h = h' ∧ p = p' ∧ n = n' := by
  unfold signedL2Bytes at heq
  obtain ⟨hfront, hseq⟩ := List.append_inj' heq (by simp)
  obtain ⟨hheader, hpayload⟩ := List.append_inj hfront (by simp)
  exact ⟨L2Header.bytes_injective hheader, hpayload, sequenceBytes_injective hseq⟩

/-- `initial_sequence_number`. -/
def initialSequenceNumber (direction : Int32) : Except StatusCode UInt64 :=
  match Direction.tryFrom direction with
  | none => .error .errParamInvalid
  | some .output => .ok 1
  | some .input => .ok 0

/-- `stream_id_as_u16`. -/
def streamIdAsU16 (streamId : UInt32) : Except StatusCode UInt16 :=
  if streamId > 65535 then .error .errParamInvalid
  else .ok streamId.toUInt16

namespace StreamStore

variable (blake3 : KeyedHash)

/-- `StreamStore::new`. -/
def new (sharedSecret : Secret) : StreamStore :=
  { sharedSecret := sharedSecret
    streams := ∅ }

/-- The entry of a stream, when it is configured. -/
def entry (store : StreamStore) (streamId : UInt16) : Option StreamEntry :=
  store.streams.lookup streamId

/-- The store with the entry of one stream replaced. -/
def withEntry (store : StreamStore) (streamId : UInt16) (e : StreamEntry) : StreamStore :=
  { store with streams := store.streams.insert streamId e }

@[simp] theorem entry_new (secret : Secret) (id : UInt16) : (new secret).entry id = none := rfl

@[simp] theorem entry_withEntry (store : StreamStore) (id : UInt16) (e : StreamEntry) :
    (store.withEntry id e).entry id = some e :=
  AList.lookup_insert _

theorem entry_withEntry_ne {store : StreamStore} {id other : UInt16} {e : StreamEntry}
    (h : other ≠ id) : (store.withEntry id e).entry other = store.entry other :=
  AList.lookup_insert_ne h

@[simp] theorem sharedSecret_withEntry (store : StreamStore) (id : UInt16) (e : StreamEntry) :
    (store.withEntry id e).sharedSecret = store.sharedSecret := rfl

/-! ## Configuration -/

/-- `reset`. -/
def reset (store : StreamStore) : StreamStore := { store with streams := ∅ }

/-- `add_stream_config`. -/
def addStreamConfig (store : StreamStore) (streamConfig : StreamConfig) :
    Except StatusCode StreamStore :=
  match streamIdAsU16 streamConfig.streamId with
  | .error code => .error code
  | .ok streamId =>
    match store.entry streamId with
    | some _ => .error .errParamInvalid
    | none =>
      match initialSequenceNumber streamConfig.direction with
      | .error code => .error code
      | .ok sequenceNumber =>
        .ok (store.withEntry streamId
          { streamConfig := streamConfig, sequenceNumber := sequenceNumber })

/-- The first loop of `add_stream_configs`: identifiers fit, are distinct, and the
directions are known. -/
def checkStreamConfigs (seenStreamIds : List UInt16) :
    List StreamConfig → Except StatusCode Unit
  | [] => .ok ()
  | streamConfig :: rest =>
    match streamIdAsU16 streamConfig.streamId with
    | .error code => .error code
    | .ok streamId =>
      if streamId ∈ seenStreamIds then .error .errParamInvalid
      else
        match initialSequenceNumber streamConfig.direction with
        | .error code => .error code
        | .ok _ => checkStreamConfigs (streamId :: seenStreamIds) rest

/-- The second loop of `add_stream_configs`, whose body is that of `add_stream_config`. A
failure keeps what was inserted before it. -/
def insertStreamConfigs (store : StreamStore) :
    List StreamConfig → Except StatusCode Unit × StreamStore
  | [] => (.ok (), store)
  | streamConfig :: rest =>
    match store.addStreamConfig streamConfig with
    | .error code => (.error code, store)
    | .ok store => insertStreamConfigs store rest

/-- `add_stream_configs`. -/
def addStreamConfigs (store : StreamStore) (streamConfigurations : List StreamConfig) :
    Except StatusCode Unit × StreamStore :=
  match checkStreamConfigs [] streamConfigurations with
  | .error code => (.error code, store)
  | .ok () => store.insertStreamConfigs streamConfigurations

/-- `get_stream_config`. -/
def getStreamConfig (store : StreamStore) (streamId : UInt16) : Option StreamConfig :=
  (store.entry streamId).map (·.streamConfig)

/-- `get_streams_by_direction`. -/
def getStreamsByDirection (store : StreamStore) (direction : Direction) : List StreamConfig :=
  (store.streams.entries.map (·.2.streamConfig)).filter (·.direction = direction.toI32)

/-! ## Authentication -/

/-- `generate_stream_tag`. -/
def generateStreamTag (store : StreamStore) (header : L2Header) (payload : List UInt8) :
    Except StatusCode (UInt64 × AuthTag) × StreamStore :=
  match store.entry header.streamId with
  | none => (.error .errStreamIdUnknown, store)
  | some streamEntry =>
    let sequenceNumber := streamEntry.sequenceNumber
    let sequenceBytes := sequenceBytes sequenceNumber
    let headerBytes := serializeL2Header header
    let tag := calculateHmac blake3 store.sharedSecret [headerBytes, payload, sequenceBytes]
    (.ok (sequenceNumber, tag), store.withEntry header.streamId
      { streamEntry with sequenceNumber := saturatingAdd streamEntry.sequenceNumber 1 })

/-- `validate_stream_tag`. -/
def validateStreamTag (store : StreamStore) (header : L2Header) (payload : List UInt8)
    (receivedSequenceNumber : UInt64) (receivedAuthTag : AuthTag) :
    Except StatusCode Bool × StreamStore :=
  match store.entry header.streamId with
  | none => (.error .errStreamIdUnknown, store)
  | some streamEntry =>
    if receivedSequenceNumber ≤ streamEntry.sequenceNumber then
      (.ok false, store)
    else
      let headerBytes := serializeL2Header header
      let sequenceBytes := sequenceBytes receivedSequenceNumber
      let valid := verifyHmac blake3 store.sharedSecret [headerBytes, payload, sequenceBytes]
        receivedAuthTag
      if valid then
        (.ok valid, store.withEntry header.streamId
          { streamEntry with sequenceNumber := receivedSequenceNumber })
      else
        (.ok valid, store)

/-! ## What the methods do -/

/-- The tag is the one the holder of the secret computes for this message. -/
def Authentic (store : StreamStore) (header : L2Header) (payload : List UInt8) (seq : UInt64)
    (tag : AuthTag) : Prop :=
  tagOf blake3 store.sharedSecret (signedL2Bytes header payload seq) = tag

instance (store : StreamStore) (header : L2Header) (payload : List UInt8) (seq : UInt64)
    (tag : AuthTag) : Decidable (Authentic blake3 store header payload seq tag) :=
  inferInstanceAs (Decidable (_ = _))

theorem verifyHmac_iff_authentic (store : StreamStore) (header : L2Header)
    (payload : List UInt8) (seq : UInt64) (tag : AuthTag) :
    verifyHmac blake3 store.sharedSecret [serializeL2Header header, payload, sequenceBytes seq]
      tag = true ↔ store.Authentic blake3 header payload seq tag := by
  rw [verifyHmac_iff, Authentic, serializeL2Header_eq]
  simp [signedL2Bytes]

theorem generateStreamTag_eq {store : StreamStore} {header : L2Header} {e : StreamEntry}
    (h : store.entry header.streamId = some e) (payload : List UInt8) :
    store.generateStreamTag blake3 header payload =
      (.ok (e.sequenceNumber, tagOf blake3 store.sharedSecret
          (signedL2Bytes header payload e.sequenceNumber)),
        store.withEntry header.streamId
          { e with sequenceNumber := saturatingAdd e.sequenceNumber 1 }) := by
  simp [generateStreamTag, h, calculateHmac_eq_tagOf, serializeL2Header_eq, signedL2Bytes]

/-- A stream tag is refused without effect, or it is fresh and authentic and raises the
mark of its own stream. -/
theorem validateStreamTag_cases (store : StreamStore) (header : L2Header) (payload : List UInt8)
    (seq : UInt64) (tag : AuthTag) :
    ((∀ e, store.entry header.streamId = some e →
        ¬ (e.sequenceNumber < seq ∧ store.Authentic blake3 header payload seq tag)) ∧
      (store.validateStreamTag blake3 header payload seq tag).1 ≠ .ok true ∧
      (store.validateStreamTag blake3 header payload seq tag).2 = store) ∨
    (∃ e, store.entry header.streamId = some e ∧ e.sequenceNumber < seq ∧
      store.Authentic blake3 header payload seq tag ∧
      store.validateStreamTag blake3 header payload seq tag =
        (.ok true, store.withEntry header.streamId { e with sequenceNumber := seq })) := by
  unfold validateStreamTag
  cases hentry : store.entry header.streamId with
  | none => simp
  | some e =>
    -- the number is checked before the tag
    by_cases hseq : seq ≤ e.sequenceNumber
    · left
      simp [hseq, UInt64.not_lt.mpr hseq]
    · by_cases hver : store.Authentic blake3 header payload seq tag
      · right
        refine ⟨e, rfl, UInt64.not_le.mp hseq, hver, ?_⟩
        simp [hseq, (verifyHmac_iff_authentic blake3 store header payload seq tag).mpr hver]
      · left
        have hfalse : verifyHmac blake3 store.sharedSecret
            [serializeL2Header header, payload, sequenceBytes seq] tag = false := by
          rw [Bool.eq_false_iff]
          exact fun h => hver ((verifyHmac_iff_authentic blake3 store _ _ _ _).mp h)
        simp [hseq, hver, hfalse]

/-- Acceptance is existence of the stream, freshness and authenticity together. -/
theorem validateStreamTag_eq_ok_true_iff (store : StreamStore) (header : L2Header)
    (payload : List UInt8) (seq : UInt64) (tag : AuthTag) :
    (store.validateStreamTag blake3 header payload seq tag).1 = .ok true ↔
      ∃ e, store.entry header.streamId = some e ∧ e.sequenceNumber < seq ∧
        store.Authentic blake3 header payload seq tag := by
  rcases validateStreamTag_cases blake3 store header payload seq tag with
    ⟨hno, hres, -⟩ | ⟨e, hentry, hlt, hauth, heq⟩
  · exact ⟨fun h => absurd h hres, fun ⟨e, he, hlt, hauth⟩ => absurd ⟨hlt, hauth⟩ (hno e he)⟩
  · simp only [heq, true_iff]
    exact ⟨e, hentry, hlt, hauth⟩

/-- No call on one stream changes another stream's entry. -/
theorem entry_validateStreamTag_ne (store : StreamStore) {header : L2Header} {id : UInt16}
    (hid : id ≠ header.streamId) (payload : List UInt8) (seq : UInt64) (tag : AuthTag) :
    (store.validateStreamTag blake3 header payload seq tag).2.entry id = store.entry id := by
  rcases validateStreamTag_cases blake3 store header payload seq tag with
    ⟨-, -, hstore⟩ | ⟨e, -, -, -, heq⟩
  · rw [hstore]
  · rw [heq]
    exact entry_withEntry_ne hid

/-! ### Sequence numbers only rise -/

/-- No stream loses its configuration or its place. -/
def Raises (store next : StreamStore) : Prop :=
  ∀ id e, store.entry id = some e →
    ∃ e', next.entry id = some e' ∧ e'.streamConfig = e.streamConfig ∧
      e.sequenceNumber ≤ e'.sequenceNumber

theorem Raises.refl (store : StreamStore) : Raises store store :=
  fun _ e h => ⟨e, h, rfl, UInt64.le_refl _⟩

theorem Raises.trans {store mid next : StreamStore} (h : Raises store mid)
    (h' : Raises mid next) : Raises store next := by
  intro id e hentry
  obtain ⟨e₁, hentry₁, hconfig₁, hle₁⟩ := h id e hentry
  obtain ⟨e₂, hentry₂, hconfig₂, hle₂⟩ := h' id e₁ hentry₁
  exact ⟨e₂, hentry₂, hconfig₂.trans hconfig₁, UInt64.le_trans hle₁ hle₂⟩

theorem raises_withEntry {store : StreamStore} {id : UInt16} {e : StreamEntry} {seq : UInt64}
    (hentry : store.entry id = some e) (hle : e.sequenceNumber ≤ seq) :
    Raises store (store.withEntry id { e with sequenceNumber := seq }) := by
  intro other e' h
  by_cases hid : other = id
  · subst hid
    rw [hentry, Option.some.injEq] at h
    subst h
    exact ⟨_, entry_withEntry _ _ _, rfl, hle⟩
  · exact ⟨e', (entry_withEntry_ne hid).trans h, rfl, UInt64.le_refl _⟩

/-! ### Fresh entries -/

/-- A successful insertion writes exactly one entry, at its initial sequence number. -/
theorem addStreamConfig_eq_ok {store next : StreamStore} {config : StreamConfig}
    (h : store.addStreamConfig config = .ok next) :
    ∃ id seq, streamIdAsU16 config.streamId = .ok id ∧ store.entry id = none ∧
      initialSequenceNumber config.direction = .ok seq ∧
      next = store.withEntry id ⟨config, seq⟩ := by
  unfold addStreamConfig at h
  split at h
  · cases h
  · rename_i id hid
    split at h
    · cases h
    · rename_i hnone
      split at h
      · cases h
      · rename_i seq hseq
        cases h
        exact ⟨id, seq, hid, hnone, hseq, rfl⟩

/-- Inserting streams leaves existing entries as they are. -/
theorem insertStreamConfigs_keeps {store : StreamStore} {configs : List StreamConfig}
    {id : UInt16} {e : StreamEntry} (h : store.entry id = some e) :
    (store.insertStreamConfigs configs).2.entry id = some e := by
  induction configs generalizing store with
  | nil => exact h
  | cons config rest ih =>
    unfold insertStreamConfigs
    split
    · exact h
    · rename_i next hadd
      obtain ⟨newId, seq, -, hnone, -, rfl⟩ := addStreamConfig_eq_ok hadd
      have hne : id ≠ newId := fun heq => by simp [heq ▸ h] at hnone
      exact ih ((entry_withEntry_ne hne).trans h)

/-- Inserting streams keeps the old entries and adds only entries at initial numbers. -/
theorem insertStreamConfigs_entry {store : StreamStore} {configs : List StreamConfig}
    {id : UInt16} {e : StreamEntry}
    (h : (store.insertStreamConfigs configs).2.entry id = some e) :
    store.entry id = some e ∨
      (e.streamConfig ∈ configs ∧ streamIdAsU16 e.streamConfig.streamId = .ok id ∧
        initialSequenceNumber e.streamConfig.direction = .ok e.sequenceNumber) := by
  induction configs generalizing store with
  | nil => exact .inl h
  | cons config rest ih =>
    unfold insertStreamConfigs at h
    split at h
    · exact .inl h
    · rename_i next hadd
      obtain ⟨newId, seq, hid, -, hseq, rfl⟩ := addStreamConfig_eq_ok hadd
      rcases ih h with hold | ⟨hmem, hrest⟩
      -- the entry of the head is its own, any other is older
      · by_cases heq : id = newId
        · subst heq
          rw [entry_withEntry, Option.some.injEq] at hold
          subst hold
          exact .inr ⟨List.mem_cons_self, hid, hseq⟩
        · rw [entry_withEntry_ne heq] at hold
          exact .inl hold
      · exact .inr ⟨List.mem_cons_of_mem _ hmem, hrest⟩

@[simp] theorem sharedSecret_insertStreamConfigs (store : StreamStore)
    (configs : List StreamConfig) :
    (store.insertStreamConfigs configs).2.sharedSecret = store.sharedSecret := by
  induction configs generalizing store with
  | nil => rfl
  | cons config rest ih =>
    unfold insertStreamConfigs
    split
    · rfl
    · rename_i next hadd
      obtain ⟨id, seq, -, -, -, rfl⟩ := addStreamConfig_eq_ok hadd
      rw [ih, sharedSecret_withEntry]

/-! ### Stores that were only configured -/

/-- Every entry is filed under its own identifier and stands at its initial number. -/
def FreshlyConfigured (store : StreamStore) : Prop :=
  ∀ id e, store.entry id = some e → streamIdAsU16 e.streamConfig.streamId = .ok id ∧
    initialSequenceNumber e.streamConfig.direction = .ok e.sequenceNumber

theorem freshlyConfigured_new (secret : Secret) : (new secret).FreshlyConfigured := by
  intro id e h
  cases h

theorem FreshlyConfigured.addStreamConfig {store next : StreamStore} {config : StreamConfig}
    (hfresh : store.FreshlyConfigured) (h : store.addStreamConfig config = .ok next) :
    next.FreshlyConfigured := by
  obtain ⟨newId, seq, hid, -, hseq, rfl⟩ := addStreamConfig_eq_ok h
  intro id e hentry
  by_cases heq : id = newId
  · subst heq
    rw [entry_withEntry, Option.some.injEq] at hentry
    subst hentry
    exact ⟨hid, hseq⟩
  · rw [entry_withEntry_ne heq] at hentry
    exact hfresh id e hentry

theorem FreshlyConfigured.insertStreamConfigs {store : StreamStore}
    (hfresh : store.FreshlyConfigured) (configs : List StreamConfig) :
    (store.insertStreamConfigs configs).2.FreshlyConfigured := by
  intro id e hentry
  rcases insertStreamConfigs_entry hentry with hold | ⟨-, hid, hseq⟩
  · exact hfresh id e hold
  · exact ⟨hid, hseq⟩

/-- The entry behind a stream that the store lists. -/
theorem mem_getStreamsByDirection {store : StreamStore} {direction : Direction}
    {config : StreamConfig} :
    config ∈ store.getStreamsByDirection direction ↔
      config.direction = direction.toI32 ∧
        ∃ id e, store.entry id = some e ∧ e.streamConfig = config := by
  simp only [getStreamsByDirection, List.mem_filter, List.mem_map, decide_eq_true_eq]
  constructor
  · intro h
    obtain ⟨⟨⟨id, e⟩, hmem, heq⟩, hdirection⟩ := h
    exact ⟨hdirection, id, e, AList.mem_lookup_iff.mpr hmem, heq⟩
  · intro h
    obtain ⟨hdirection, id, e, hentry, heq⟩ := h
    exact ⟨⟨⟨id, e⟩, AList.mem_lookup_iff.mp hentry, heq⟩, hdirection⟩

theorem streamIdAsU16_eq_ok {streamId : UInt32} {id : UInt16}
    (h : streamIdAsU16 streamId = .ok id) :
    streamId.toUInt16 = id := by
  unfold streamIdAsU16 at h
  split at h
  · cases h
  · exact Except.ok.inj h

/-- The streams of a configured store are found under their identifiers. -/
theorem FreshlyConfigured.entry_of_mem {store : StreamStore} (hfresh : store.FreshlyConfigured)
    {direction : Direction} {config : StreamConfig}
    (hmem : config ∈ store.getStreamsByDirection direction) :
    ∃ seq, store.entry config.streamId.toUInt16 = some ⟨config, seq⟩ ∧
      initialSequenceNumber direction.toI32 = .ok seq := by
  obtain ⟨hdirection, id, e, hentry, rfl⟩ := mem_getStreamsByDirection.mp hmem
  obtain ⟨hid, hseq⟩ := hfresh id e hentry
  rw [streamIdAsU16_eq_ok hid]
  exact ⟨e.sequenceNumber, hentry, hdirection ▸ hseq⟩

end StreamStore

end TsnFieldbus
