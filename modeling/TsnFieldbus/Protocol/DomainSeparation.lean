import TsnFieldbus.Common.DiscoveryAuth
import TsnFieldbus.Common.StreamStore

/-!
# Authenticated Bytes of the Two Protocols

SDCP and L2 share one secret, and both authenticate `header ++ payload ++ sequence number`
without a domain tag.

- `signedBytes_eq_signedL2Bytes_iff`: the two byte strings coincide exactly when the SDCP
  header and two more payload bytes spell the L2 header.
- `built_messages_never_coincide`: this never happens between messages the code builds,
  whose L2 flags are zero and whose TLV lengths are not.
- `tags_cross_protocols`: with a received L2 header it does happen.
-/

namespace TsnFieldbus

/-! ## Overlap of the two formats -/

/-- The SDCP header followed by the bytes `status` and `flags` spells the L2 header. -/
def SdcpHeader.Spells (header : SdcpHeader) (status flags : UInt8) (l2 : L2Header) : Prop :=
  l2.bytes = header.bytes ++ [status, flags]

instance (header : SdcpHeader) (status flags : UInt8) (l2 : L2Header) :
    Decidable (header.Spells status flags l2) :=
  inferInstanceAs (Decidable (_ = _))

/-- Two bytes further, the two formats read the same string. -/
theorem signedBytes_eq_signedL2Bytes_iff (header : SdcpHeader) (tlv : List UInt8)
    (seq : UInt64) (l2 : L2Header) (payload : List UInt8) (l2Seq : UInt64) :
    signedBytes header tlv seq = signedL2Bytes l2 payload l2Seq ↔
      seq = l2Seq ∧ ∃ status flags, header.Spells status flags l2 ∧
        tlv = status :: flags :: payload := by
  constructor
  · intro heq
    unfold signedBytes signedL2Bytes at heq
    obtain ⟨hfront, hseq⟩ := List.append_inj' heq (by simp)
    refine ⟨sequenceBytes_injective hseq, ?_⟩
    -- the L2 header is two bytes longer, so the TLV payload starts with them
    have hlen := congrArg List.length hfront
    simp only [List.length_append, SdcpHeader.length_bytes, L2Header.length_bytes] at hlen
    obtain _ | ⟨status, _ | ⟨flags, rest⟩⟩ := tlv
    · simp only [List.length_nil, sdcpHeaderSize, l2HeaderSize] at hlen
      omega
    · simp only [List.length_singleton, sdcpHeaderSize, l2HeaderSize] at hlen
      omega
    · refine ⟨status, flags, ?_⟩
      have hsplit : header.bytes ++ status :: flags :: rest
          = (header.bytes ++ [status, flags]) ++ rest := by simp
      rw [hsplit] at hfront
      obtain ⟨hheader, hrest⟩ := List.append_inj hfront (by simp)
      exact ⟨hheader.symm, by rw [hrest]⟩
  · rintro ⟨rfl, status, flags, hspell, rfl⟩
    unfold SdcpHeader.Spells at hspell
    simp [signedBytes, signedL2Bytes, hspell]

/-- What `Spells` says of the fields. -/
theorem SdcpHeader.Spells.fields {header : SdcpHeader} {status flags : UInt8} {l2 : L2Header}
    (h : header.Spells status flags l2) :
    l2.version = header.version ∧
      l2.streamId = u16OfBytes header.opCode.toU8 (header.transactionId >>> 8).toUInt8 ∧
      l2.cycleCounter = u16OfBytes header.transactionId.toUInt8 header.flags ∧
      l2.status = status ∧ l2.flags = flags := by
  unfold Spells at h
  rw [L2Header.bytes_eq, SdcpHeader.bytes_eq] at h
  simp only [List.cons_append, List.nil_append, List.cons.injEq, and_true] at h
  obtain ⟨hversion, hs1, hs0, hc1, hc0, hstatus, hflags⟩ := h
  refine ⟨hversion, ?_, ?_, hstatus, hflags⟩
  · rw [← hs1, ← hs0, u16OfBytes_shifts]
  · rw [← hc1, ← hc0, u16OfBytes_shifts]

/-! ## Messages the code builds -/

/-- A constructed TLV is not empty and its length byte says so. -/
theorem BuiltTlv.length_ne_zero {tlv : Tlv} (h : BuiltTlv tlv) : tlv.length ≠ 0 := by
  obtain ⟨hlen, hpos, -⟩ := h.length_spec
  intro hzero
  rw [hzero, UInt8.toNat_zero] at hlen
  omega

/-- An SDCP message as the frame builders authenticate it: a new header, and no TLV or a
constructed one. -/
inductive BuiltSdcp : SdcpHeader → List UInt8 → Prop where
  | bare (opCode : SdcpOpCode) (transactionId : UInt16) :
      BuiltSdcp (.new opCode transactionId) []
  | withTlv (opCode : SdcpOpCode) (transactionId : UInt16) {tlv : Tlv} (h : BuiltTlv tlv) :
      BuiltSdcp (.new opCode transactionId) tlv.bytes

/-- Messages built by the code never have the same authenticated bytes. -/
theorem built_messages_never_coincide {header : SdcpHeader} {tlv : List UInt8}
    (h : BuiltSdcp header tlv) (seq : UInt64) (streamId cycleCounter : UInt16) (status : UInt8)
    (payload : List UInt8) (l2Seq : UInt64) :
    signedBytes header tlv seq
      ≠ signedL2Bytes (.new streamId cycleCounter status) payload l2Seq := by
  intro heq
  obtain ⟨-, s, flags, hspell, htlv⟩ := (signedBytes_eq_signedL2Bytes_iff _ _ _ _ _ _).mp heq
  obtain ⟨-, -, -, -, hflags⟩ := hspell.fields
  cases h with
  | bare opCode transactionId => cases htlv
  | withTlv opCode transactionId hbuilt =>
    -- the second TLV byte is the length, the L2 flags are zero
    rw [Tlv.bytes_eq, List.cons.injEq, List.cons.injEq] at htlv
    exact hbuilt.length_ne_zero (htlv.2.1.trans hflags.symm)

/-! ## Tags across the protocols -/

section CrossProtocol

variable (blake3 : KeyedHash) (secret : Secret)

/-- Keyed BLAKE3 idealised on one pair of inputs: equal tags only for equal inputs. -/
def CollisionFree (a b : List UInt8) : Prop :=
  tagOf blake3 secret a = tagOf blake3 secret b → a = b

instance (a b : List UInt8) : Decidable (CollisionFree blake3 secret a b) :=
  inferInstanceAs (Decidable (_ → _))

/-- The tag of an SDCP message as `create_auth_tag` computes it. -/
def sdcpTag (header : SdcpHeader) (tlv : List UInt8) (seq : UInt64) : AuthTag :=
  tagOf blake3 secret (signedBytes header tlv seq)

/-- The tag of an L2 message as `generate_stream_tag` computes it. -/
def l2Tag (header : L2Header) (payload : List UInt8) (seq : UInt64) : AuthTag :=
  tagOf blake3 secret (signedL2Bytes header payload seq)

/-- **Separation of the two protocols**: the authenticated bytes coincide exactly when the
SDCP header and the first two TLV bytes spell the L2 header. Messages the code builds never
coincide, so the tag of one is refused for the other in every state of the receiver. -/
theorem protocols_separated_for_built_messages {header : SdcpHeader} {tlv : List UInt8}
    (h : BuiltSdcp header tlv) (seq : UInt64) (streamId cycleCounter : UInt16) (status : UInt8)
    (payload : List UInt8) (l2Seq : UInt64)
    (hfree : CollisionFree blake3 secret (signedBytes header tlv seq)
      (signedL2Bytes (.new streamId cycleCounter status) payload l2Seq)) :
    (∀ (header : SdcpHeader) tlv seq (l2 : L2Header) payload l2Seq,
      signedBytes header tlv seq = signedL2Bytes l2 payload l2Seq ↔
        seq = l2Seq ∧ ∃ status flags, header.Spells status flags l2 ∧
          tlv = status :: flags :: payload) ∧
    signedBytes header tlv seq
      ≠ signedL2Bytes (.new streamId cycleCounter status) payload l2Seq ∧
    (∀ store : StreamStore, store.sharedSecret = secret →
      (store.validateStreamTag blake3 (.new streamId cycleCounter status) payload l2Seq
        (sdcpTag blake3 secret header tlv seq)).1 ≠ .ok true) ∧
    (∀ (handler : DiscoveryAuthHandler) mac, handler.sharedSecret = secret →
      (handler.validateAuthTag blake3 mac header tlv seq
        (l2Tag blake3 secret (.new streamId cycleCounter status) payload l2Seq)).1 = false) := by
  have hne := built_messages_never_coincide h seq streamId cycleCounter status payload l2Seq
  refine ⟨signedBytes_eq_signedL2Bytes_iff, hne, ?_, ?_⟩
  -- an accepted tag is the tag of the bytes, and the hash tells them apart
  · rintro store rfl haccept
    obtain ⟨-, -, -, hauth⟩ :=
      (StreamStore.validateStreamTag_eq_ok_true_iff blake3 _ _ _ _ _).mp haccept
    exact hne (hfree hauth.symm)
  · rintro handler mac rfl
    rw [Bool.eq_false_iff]
    intro haccept
    obtain ⟨-, hauth⟩ :=
      (DiscoveryAuthHandler.validateAuthTag_eq_true_iff blake3 _ _ _ _ _ _).mp haccept
    exact hne (hfree hauth)

end CrossProtocol

/-- A store with one input stream. -/
def inputStream (id : UInt16) : StreamStore :=
  (StreamStore.new zeroSecret).withEntry id
    { streamConfig := ⟨id.toUInt32, [], 0, 0, 0, none⟩, sequenceNumber := 0 }

/-- The tag of a DiscoverReq is refused for a frame of stream 5. -/
theorem protocols_separated_for_built_messages_discover_req :
    ((inputStream 5).validateStreamTag checksumHash (.new 5 0 0) [7] 1
      (sdcpTag checksumHash zeroSecret (.new .discoverReq 1) [] 1)).1 ≠ .ok true :=
  (protocols_separated_for_built_messages checksumHash zeroSecret
    (.bare .discoverReq 1) 1 5 0 0 [7] 1 (by decide +kernel)).2.2.1 (inputStream 5) rfl

/-- A store with one output stream. -/
def outputStream (id : UInt16) : StreamStore :=
  (StreamStore.new zeroSecret).withEntry id
    { streamConfig := ⟨id.toUInt32, [], 0, 0, 1, none⟩, sequenceNumber := 1 }

/-- The tag the master creates for a SetIpReq is accepted for an L2 frame whose header is
spelled by the message, and the tag a sender creates for stream 0x0101 is accepted for a
DiscoverReq. -/
theorem tags_cross_protocols :
    (∃ (handler : DiscoveryAuthHandler) (mac : MacAddr) (tlv : Tlv) (l2 : L2Header)
        (payload : List UInt8) (store : StreamStore) (seq : UInt64) (tag : AuthTag),
      store.sharedSecret = handler.sharedSecret ∧
      (handler.createAuthTag checksumHash mac (.new .setIpReq 1) tlv.bytes).map (·.1)
        = some (seq, tag) ∧
      signedBytes (.new .setIpReq 1) tlv.bytes seq = signedL2Bytes l2 payload seq ∧
      (store.validateStreamTag checksumHash l2 payload seq tag).1 = .ok true) ∧
    (∃ (store : StreamStore) (l2 : L2Header) (payload tlv : List UInt8) (header : SdcpHeader)
        (handler : DiscoveryAuthHandler) (mac : MacAddr) (seq : UInt64) (tag : AuthTag),
      store.sharedSecret = handler.sharedSecret ∧ header.opCode = .discoverReq ∧
      (store.generateStreamTag checksumHash l2 payload).1 = .ok (seq, tag) ∧
      signedBytes header tlv seq = signedL2Bytes l2 payload seq ∧
      (handler.validateAuthTag checksumHash mac header tlv seq tag).1 = true) := by
  -- one message of each protocol whose bytes are those of the other
  refine ⟨⟨(DiscoveryAuthHandler.new zeroSecret).addNewDevice .zero, .zero,
    .ipConfig ⟨[10, 0, 0, 2], rfl⟩ ⟨[255, 255, 255, 0], rfl⟩ ⟨[10, 0, 0, 1], rfl⟩,
    { version := 1, streamId := 0x0300, cycleCounter := 0x0100, status := 2, flags := 12 },
    [10, 0, 0, 2, 255, 255, 255, 0, 10, 0, 0, 1], inputStream 0x0300, _, _, rfl, rfl, ?_, ?_⟩,
    ⟨outputStream 0x0101, .new 0x0101 0x0102 0, [9], [0, 0, 9], ⟨1, .discoverReq, 0x0101, 2⟩,
    (DiscoveryAuthHandler.new zeroSecret).addNewDevice .zero, .zero, _, _, rfl, rfl, rfl, ?_, ?_⟩⟩
  all_goals decide +kernel

end TsnFieldbus
