import TsnFieldbus.Common.DiscoveryAuth

/-!
# The SDCP Payload Format

Authentication of an SDCP message is computed over a re-encoding of its parsed fields. The
re-encoding is lossless but for one byte: every operation code outside the documented ones
reads as `unknownOperation` and is written as `0x09`.

- `parseSdcpPayload_ok`: an accepted payload, byte by byte.
- `reserialize_eq_canonicalPayload`: what re-encoding gives.
- `authenticatedParts_eq_iff`: when two accepted payloads authenticate the same bytes.
-/

namespace TsnFieldbus

/-! ## Canonical payloads -/

/-- The byte an operation code byte is re-encoded as. -/
def canonicalOpByte (op : UInt8) : UInt8 :=
  if 0x01 ≤ op ∧ op ≤ 0x09 then op else 0x09

/-- A payload with its operation code byte re-encoded. -/
def canonicalPayload (payload : List UInt8) : List UInt8 :=
  match payload[1]? with
  | some op => payload.set 1 (canonicalOpByte op)
  | none => payload

/-- All 256 operation code bytes, read and written. -/
private theorem opCodeTable : ∀ i : Fin 256,
    (SdcpOpCode.fromU8 (UInt8.ofNat i.val)).toU8 = canonicalOpByte (UInt8.ofNat i.val) ∧
    (SdcpOpCode.fromU8 (UInt8.ofNat i.val) ≠ .unknownOperation →
      canonicalOpByte (UInt8.ofNat i.val) = UInt8.ofNat i.val) := by
  decide +kernel

/-- Reading and writing an operation code. -/
theorem SdcpOpCode.toU8_fromU8 (op : UInt8) : (fromU8 op).toU8 = canonicalOpByte op := by
  have hrow := (opCodeTable ⟨op.toNat, op.toNat_lt⟩).1
  rwa [UInt8.ofNat_toNat] at hrow

/-- A documented code is its own re-encoding. -/
theorem canonicalOpByte_of_known {op : UInt8}
    (h : SdcpOpCode.fromU8 op ≠ .unknownOperation) : canonicalOpByte op = op := by
  have hrow := (opCodeTable ⟨op.toNat, op.toNat_lt⟩).2
  rw [UInt8.ofNat_toNat] at hrow
  exact hrow h

/-- Two codes are re-encoded alike when they are equal or neither is documented. -/
theorem canonicalOpByte_eq_iff (op op' : UInt8) :
    canonicalOpByte op = canonicalOpByte op' ↔
      op = op' ∨ (SdcpOpCode.fromU8 op = .unknownOperation ∧
        SdcpOpCode.fromU8 op' = .unknownOperation) := by
  constructor
  · intro hcode
    -- equal bytes are read back as the same code
    have hsame : SdcpOpCode.fromU8 op = SdcpOpCode.fromU8 op' := by
      apply SdcpOpCode.toU8_injective
      rw [SdcpOpCode.toU8_fromU8, SdcpOpCode.toU8_fromU8, hcode]
    by_cases hunknown : SdcpOpCode.fromU8 op = .unknownOperation
    · exact .inr ⟨hunknown, hsame ▸ hunknown⟩
    · left
      rw [← canonicalOpByte_of_known hunknown, hcode]
      exact canonicalOpByte_of_known (hsame ▸ hunknown)
  · intro hcases
    rcases hcases with hsame | ⟨hleft, hright⟩
    · rw [hsame]
    · rw [← SdcpOpCode.toU8_fromU8, ← SdcpOpCode.toU8_fromU8, hleft, hright]

/-! ## Accepted payloads -/

/-- Write the parsed fields again: header, TLV payload, footer. -/
def ParsedSdcpPayload.reserialize (parsed : ParsedSdcpPayload) : List UInt8 :=
  appendSdcpFooter (parsed.header.writeTo [] ++ parsed.tlvPayload)
    { sequenceNumber := parsed.sequenceNumber, authTag := parsed.authTag }

/-- The parts of a received message that are fed to the MAC, in order. -/
def ParsedSdcpPayload.authenticatedParts (parsed : ParsedSdcpPayload) : List (List UInt8) :=
  [serializeHeader parsed.header, parsed.tlvPayload, sequenceBytes parsed.sequenceNumber]

/-- An accepted payload, byte by byte. -/
theorem parseSdcpPayload_ok {payload : List UInt8} {parsed : ParsedSdcpPayload}
    (h : parseSdcpPayload payload = .ok parsed) :
    ∃ op hi lo, payload = [parsed.header.version, op, hi, lo, parsed.header.flags] ++
        (parsed.tlvPayload ++
          (SecurityFooter.mk parsed.sequenceNumber parsed.authTag).bytes) ∧
      parsed.header.opCode = SdcpOpCode.fromU8 op ∧
      u16Bytes parsed.header.transactionId = [hi, lo] := by
  unfold parseSdcpPayload at h
  split at h
  · cases h
  · rename_i front footer hsplit
    split at h
    · cases h
    · rename_i hlen
      rw [splitPayloadAndFooter_eq_ok hsplit]
      -- five bytes in front of the footer are the header
      match front, hlen with
      | version :: op :: hi :: lo :: flags :: tlv, _ =>
        cases h
        exact ⟨op, hi, lo, rfl, rfl, u16Bytes_u16OfBytes hi lo⟩
      | [], hlen => simp [sdcpHeaderSize] at hlen
      | [_], hlen => simp [sdcpHeaderSize] at hlen
      | [_, _], hlen => simp [sdcpHeaderSize] at hlen
      | [_, _, _], hlen => simp [sdcpHeaderSize] at hlen
      | [_, _, _, _], hlen => simp [sdcpHeaderSize] at hlen

/-- Re-encoding an accepted payload changes nothing but an undocumented operation code. -/
theorem reserialize_eq_canonicalPayload {payload : List UInt8} {parsed : ParsedSdcpPayload}
    (h : parseSdcpPayload payload = .ok parsed) :
    parsed.reserialize = canonicalPayload payload := by
  obtain ⟨op, hi, lo, hpayload, hop, htid⟩ := parseSdcpPayload_ok h
  have hheader : parsed.header.writeTo [] =
      [parsed.header.version, canonicalOpByte op, hi, lo, parsed.header.flags] := by
    simp only [SdcpHeader.writeTo, htid, hop, SdcpOpCode.toU8_fromU8]
    rfl
  rw [ParsedSdcpPayload.reserialize, appendSdcpFooter, SecurityFooter.writeTo_eq, hheader,
    hpayload, List.append_assoc]
  rfl

/-- The re-encoding is the bytes fed to the MAC and the tag. -/
theorem reserialize_eq_append (parsed : ParsedSdcpPayload) :
    parsed.reserialize = parsed.authenticatedParts.flatten ++ parsed.authTag.toList := by
  simp [ParsedSdcpPayload.reserialize, ParsedSdcpPayload.authenticatedParts, appendSdcpFooter,
    SecurityFooter.writeTo, SdcpHeader.writeTo_nil, serializeHeader_eq]

theorem length_canonicalPayload (payload : List UInt8) :
    (canonicalPayload payload).length = payload.length := by
  unfold canonicalPayload
  split
  · exact List.length_set
  · rfl

/-- The bytes fed to the MAC are those of the canonical payload in front of the tag. -/
theorem authenticatedParts_eq_take {payload : List UInt8} {parsed : ParsedSdcpPayload}
    (h : parseSdcpPayload payload = .ok parsed) :
    parsed.authenticatedParts.flatten =
      (canonicalPayload payload).take (payload.length - authTagSize) := by
  have hcanonical : canonicalPayload payload =
      parsed.authenticatedParts.flatten ++ parsed.authTag.toList := by
    rw [← reserialize_eq_canonicalPayload h, reserialize_eq_append]
  have hlength : payload.length - authTagSize = parsed.authenticatedParts.flatten.length := by
    rw [← length_canonicalPayload, hcanonical, List.length_append, List.Vector.toList_length,
      Nat.add_sub_cancel]
  rw [hcanonical, hlength, List.take_left]

/-! ## Payloads with the same authenticated bytes -/

/-- Two payloads have one canonical form when they differ at most between undocumented codes. -/
theorem canonicalPayload_eq_iff (p q : List UInt8) :
    canonicalPayload p = canonicalPayload q ↔
      p = q ∨ ∃ op op', p[1]? = some op ∧ q = p.set 1 op' ∧
        SdcpOpCode.fromU8 op = .unknownOperation ∧
        SdcpOpCode.fromU8 op' = .unknownOperation := by
  constructor
  · intro hcanonical
    have hlength : p.length = q.length := by
      rw [← length_canonicalPayload p, hcanonical, length_canonicalPayload]
    by_cases hshort : p.length ≤ 1
    -- no operation code in either
    · left
      have hp : p[1]? = none := List.getElem?_eq_none hshort
      have hq : q[1]? = none := List.getElem?_eq_none (hlength ▸ hshort)
      simpa only [canonicalPayload, hp, hq] using hcanonical
    · have hp : p[1]? = some p[1] := List.getElem?_eq_getElem (by omega)
      have hq : q[1]? = some q[1] := List.getElem?_eq_getElem (by omega)
      simp only [canonicalPayload, hp, hq] at hcanonical
      -- overwriting the code again gives either payload
      have hset (op : UInt8) : p.set 1 op = q.set 1 op := by
        have hagain := congrArg (List.set · 1 op) hcanonical
        simpa only [List.set_set] using hagain
      have hcode : canonicalOpByte p[1] = canonicalOpByte q[1] := by
        have hat := congrArg (·[1]?) hcanonical
        simpa only [List.getElem?_set_self (show 1 < p.length by omega),
          List.getElem?_set_self (show 1 < q.length by omega), Option.some.injEq] using hat
      rcases (canonicalOpByte_eq_iff _ _).mp hcode with hsame | ⟨hleft, hright⟩
      · left
        calc p = p.set 1 p[1] := (List.set_getElem_self _).symm
          _ = q.set 1 q[1] := by rw [hset, hsame]
          _ = q := List.set_getElem_self _
      · right
        refine ⟨p[1], q[1], hp, ?_, hleft, hright⟩
        rw [hset, List.set_getElem_self]
  · intro hcases
    rcases hcases with hsame | ⟨op, op', hp, hq, hleft, hright⟩
    · rw [hsame]
    · have hlt : 1 < p.length := (List.getElem?_eq_some_iff.mp hp).1
      have hq' : q[1]? = some op' := by rw [hq, List.getElem?_set_self hlt]
      simp only [canonicalPayload, hp, hq']
      rw [hq, List.set_set, (canonicalOpByte_eq_iff op op').mpr (.inr ⟨hleft, hright⟩)]

/-- When two accepted payloads with one tag authenticate the same bytes. -/
theorem authenticatedParts_eq_iff {p q : List UInt8} {parsed parsed' : ParsedSdcpPayload}
    (hp : parseSdcpPayload p = .ok parsed) (hq : parseSdcpPayload q = .ok parsed')
    (htag : parsed.authTag = parsed'.authTag) :
    parsed.authenticatedParts.flatten = parsed'.authenticatedParts.flatten ↔
      canonicalPayload p = canonicalPayload q := by
  rw [← reserialize_eq_canonicalPayload hp, ← reserialize_eq_canonicalPayload hq,
    reserialize_eq_append, reserialize_eq_append, htag, List.append_left_inj]

/-- The tag of a received message is checked against its authenticated parts. -/
theorem authentic_iff_authenticatedParts (blake3 : KeyedHash) (handler : DiscoveryAuthHandler)
    (parsed : ParsedSdcpPayload) :
    handler.Authentic blake3 parsed.header parsed.tlvPayload parsed.sequenceNumber
        parsed.authTag ↔
      tagOf blake3 handler.sharedSecret parsed.authenticatedParts.flatten = parsed.authTag := by
  rw [← DiscoveryAuthHandler.verifyHmac_iff_authentic, verifyHmac_iff]
  rfl

/-- A received message is authenticated byte for byte, up to undocumented operation codes,
which all count as `0x09`. -/
theorem authentication_up_to_unknown_operations :
    (∀ (payload : List UInt8) (parsed : ParsedSdcpPayload),
      parseSdcpPayload payload = .ok parsed →
      (∃ op, payload[1]? = some op ∧
        parsed.reserialize =
          if 0x01 ≤ op ∧ op ≤ 0x09 then payload else payload.set 1 0x09) ∧
      parsed.authenticatedParts.flatten =
        parsed.reserialize.take (payload.length - authTagSize)) ∧
    (∀ (p q : List UInt8) (parsed parsed' : ParsedSdcpPayload),
      parseSdcpPayload p = .ok parsed → parseSdcpPayload q = .ok parsed' →
      parsed.authTag = parsed'.authTag →
      (parsed.authenticatedParts.flatten = parsed'.authenticatedParts.flatten ↔
        p = q ∨ ∃ op op', p[1]? = some op ∧ q = p.set 1 op' ∧
          SdcpOpCode.fromU8 op = .unknownOperation ∧
          SdcpOpCode.fromU8 op' = .unknownOperation)) ∧
    (∀ (blake3 : KeyedHash) (handler : DiscoveryAuthHandler) (mac : MacAddr)
        (parsed : ParsedSdcpPayload),
      (handler.validateAuthTag blake3 mac parsed.header parsed.tlvPayload
          parsed.sequenceNumber parsed.authTag).1 = true ↔
        handler.Fresh mac parsed.sequenceNumber ∧
          tagOf blake3 handler.sharedSecret parsed.authenticatedParts.flatten =
            parsed.authTag) := by
  refine ⟨?_, ?_, ?_⟩
  · intro payload parsed hparse
    refine ⟨?_, ?_⟩
    · obtain ⟨op, hi, lo, hpayload, -, -⟩ := parseSdcpPayload_ok hparse
      have hop : payload[1]? = some op := by
        rw [hpayload]
        rfl
      refine ⟨op, hop, ?_⟩
      rw [reserialize_eq_canonicalPayload hparse]
      simp only [canonicalPayload, hop, canonicalOpByte]
      split
      -- the byte is written back where it stood
      · obtain ⟨hlt, hget⟩ := List.getElem?_eq_some_iff.mp hop
        rw [← hget, List.set_getElem_self]
      · rfl
    · rw [reserialize_eq_canonicalPayload hparse]
      exact authenticatedParts_eq_take hparse
  · intro p q parsed parsed' hp hq htag
    rw [authenticatedParts_eq_iff hp hq htag]
    exact canonicalPayload_eq_iff p q
  · intro blake3 handler mac parsed
    rw [DiscoveryAuthHandler.validateAuthTag_eq_true_iff, authentic_iff_authenticatedParts]

/-- A payload of 21 bytes with the given operation code byte and no TLV. -/
def payloadWithOpCode (op : UInt8) : List UInt8 :=
  [0x01, op, 0, 7, 0] ++ [0, 0, 0, 0, 0, 0, 0, 1] ++ [1, 2, 3, 4, 5, 6, 7, 8]

theorem authentication_up_to_unknown_operations_of_payloads :
    (∃ parsed, parseSdcpPayload (payloadWithOpCode 0x01) = .ok parsed ∧
      ∃ op, (payloadWithOpCode 0x01)[1]? = some op ∧
        parsed.reserialize =
          if 0x01 ≤ op ∧ op ≤ 0x09 then payloadWithOpCode 0x01
          else (payloadWithOpCode 0x01).set 1 0x09) ∧
    ∃ parsed parsed', parseSdcpPayload (payloadWithOpCode 0xFE) = .ok parsed ∧
      parseSdcpPayload (payloadWithOpCode 0xFF) = .ok parsed' ∧
      parsed.authenticatedParts.flatten = parsed'.authenticatedParts.flatten :=
  ⟨⟨_, rfl, (authentication_up_to_unknown_operations.1 (payloadWithOpCode 0x01) _ rfl).1⟩,
    ⟨_, _, rfl, rfl,
      (authentication_up_to_unknown_operations.2.1 (payloadWithOpCode 0xFE)
        (payloadWithOpCode 0xFF) _ _ rfl rfl rfl).mpr (.inr ⟨0xFE, 0xFF, rfl, rfl, rfl, rfl⟩)⟩⟩

/-- Two payloads that differ in an undocumented code authenticate the same bytes, and
re-encoding gives neither. -/
theorem unknown_operations_are_authenticated_alike :
    ∃ parsed parsed', parseSdcpPayload (payloadWithOpCode 0x0A) = .ok parsed ∧
      parseSdcpPayload (payloadWithOpCode 0x0B) = .ok parsed' ∧
      parsed.authTag = parsed'.authTag ∧
      parsed.authenticatedParts.flatten = parsed'.authenticatedParts.flatten ∧
      payloadWithOpCode 0x0A ≠ payloadWithOpCode 0x0B ∧
      parsed.reserialize ≠ payloadWithOpCode 0x0A :=
  ⟨_, _, rfl, rfl, rfl, rfl, by decide, by decide +kernel⟩

end TsnFieldbus
