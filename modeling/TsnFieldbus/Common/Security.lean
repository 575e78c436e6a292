import TsnFieldbus.Foundations.BigEndian
import TsnFieldbus.Common.SlaveApiTypes

/-!
# Message Authentication and the Security Footer

`security/crypto.rs` and `security/auth_footer.rs`. Keyed BLAKE3 is a third-party
primitive: the model takes it as a parameter `blake3`, a function from the secret and
the concatenated input to the 32-byte digest. No property of it is assumed here.
-/

namespace TsnFieldbus

open Foundations

/-! ## Sizes -/

/-- `AUTH_TAG_SIZE`. -/
abbrev authTagSize : ℕ := 8

/-- `SECURITY_FOOTER_SIZE`: an 8-byte sequence number and the tag. -/
abbrev securityFooterSize : ℕ := 8 + authTagSize

/-- A truncated authentication tag. -/
abbrev AuthTag := ByteArray8 authTagSize

/-- The shared secret of master and slaves. -/
abbrev Secret := ByteArray8 32

/-- `blake3::Hasher::new_keyed(secret)`, updated with the input and finalised. -/
abbrev KeyedHash := Secret → List UInt8 → ByteArray8 32

/-! ## Keyed tags -/

/-- `calculate_hmac`: hash the parts in order and keep the first `AUTH_TAG_SIZE` bytes. -/
def calculateHmac (blake3 : KeyedHash) (secret : Secret) (parts : List (List UInt8)) : AuthTag :=
  ⟨(blake3 secret parts.flatten).toList.take authTagSize, by simp [authTagSize]⟩

/-- The tag of a byte string. -/
def tagOf (blake3 : KeyedHash) (secret : Secret) (bytes : List UInt8) : AuthTag :=
  calculateHmac blake3 secret [bytes]

/-- The tag depends on the concatenation of the parts alone. -/
theorem calculateHmac_eq_tagOf (blake3 : KeyedHash) (secret : Secret)
    (parts : List (List UInt8)) :
    calculateHmac blake3 secret parts = tagOf blake3 secret parts.flatten := by
  apply List.Vector.eq
  simp only [tagOf, calculateHmac, List.flatten_singleton]

/-- `verify_hmac`: accumulate the differences of all bytes, then compare with zero. -/
def verifyHmac (blake3 : KeyedHash) (secret : Secret) (parts : List (List UInt8))
    (expectedTag : AuthTag) : Bool :=
  let calculated := calculateHmac blake3 secret parts
  let diff := (calculated.toList.zip expectedTag.toList).foldl
    (fun (diff : UInt8) (pair : UInt8 × UInt8) => diff ||| (pair.1 ^^^ pair.2)) 0
  diff == 0

/-- The accumulated difference vanishes exactly on equal lists. -/
private theorem foldl_diff_eq_zero_iff (d : UInt8) :
    ∀ (l r : List UInt8), l.length = r.length →
      ((l.zip r).foldl (fun (diff : UInt8) (pair : UInt8 × UInt8) =>
        diff ||| (pair.1 ^^^ pair.2)) d = 0 ↔ d = 0 ∧ l = r) := by
  intro l
  induction l generalizing d with
  | nil =>
    intro r hlen
    have hr : r = [] := List.length_eq_zero_iff.mp hlen.symm
    simp [hr]
  | cons a l ih =>
    intro r hlen
    cases r with
    | nil => simp at hlen
    | cons b r =>
      have hlen' : l.length = r.length := by simpa using hlen
      rw [List.zip_cons_cons, List.foldl_cons, ih _ r hlen', UInt8.or_eq_zero_iff,
        UInt8.xor_eq_zero_iff, List.cons.injEq, and_assoc]

/-- The byte-wise comparison decides equality with the tag of the concatenation. -/
theorem verifyHmac_iff (blake3 : KeyedHash) (secret : Secret) (parts : List (List UInt8))
    (tag : AuthTag) :
    verifyHmac blake3 secret parts tag = true ↔ tagOf blake3 secret parts.flatten = tag := by
  unfold verifyHmac
  simp only [beq_iff_eq]
  rw [foldl_diff_eq_zero_iff 0 _ _ (by simp)]
  simp only [true_and, calculateHmac_eq_tagOf]
  exact ⟨fun h => List.Vector.eq _ _ h, fun h => h ▸ rfl⟩

/-- A computable keyed checksum for evaluating the model on concrete messages. -/
def checksumHash : KeyedHash := fun secret bytes =>
  ⟨BigEndian.encode 8 (BigEndian.decode (secret.toList ++ bytes) % (2 ^ 61 - 1))
    ++ List.replicate 24 0, by simp⟩

/-- The secret of the concrete messages. -/
def zeroSecret : Secret := ⟨List.replicate 32 0, rfl⟩

/-! ## Security footer -/

/-- Authentication footer appended to protocol payloads. -/
structure SecurityFooter where
  sequenceNumber : UInt64
  authTag : AuthTag
deriving DecidableEq

/-- `u64::to_be_bytes`. -/
def sequenceBytes (n : UInt64) : List UInt8 := BigEndian.encode 8 n.toNat

/-- `u64::from_be_bytes`. -/
def sequenceOfBytes (bytes : List UInt8) : UInt64 := UInt64.ofNat (BigEndian.decode bytes)

@[simp] theorem length_sequenceBytes (n : UInt64) : (sequenceBytes n).length = 8 :=
  BigEndian.length_encode 8 _

@[simp] theorem sequenceOfBytes_sequenceBytes (n : UInt64) :
    sequenceOfBytes (sequenceBytes n) = n := by
  unfold sequenceOfBytes sequenceBytes
  rw [BigEndian.decode_encode (by have := n.toNat_lt; norm_num; omega), UInt64.ofNat_toNat]

theorem sequenceBytes_injective {m n : UInt64} (h : sequenceBytes m = sequenceBytes n) : m = n := by
  rw [← sequenceOfBytes_sequenceBytes m, h, sequenceOfBytes_sequenceBytes]

theorem sequenceBytes_sequenceOfBytes {bytes : List UInt8} (h : bytes.length = 8) :
    sequenceBytes (sequenceOfBytes bytes) = bytes := by
  unfold sequenceOfBytes sequenceBytes
  have hlt : BigEndian.decode bytes < 2 ^ 64 := by
    have := BigEndian.decode_lt bytes
    rw [h] at this
    norm_num at this ⊢
    exact this
  rw [UInt64.toNat_ofNat_of_lt' hlt, ← h, BigEndian.encode_decode]

namespace SecurityFooter

/-- `SecurityFooter::write_to`. -/
def writeTo (footer : SecurityFooter) (output : List UInt8) : List UInt8 :=
  output ++ sequenceBytes footer.sequenceNumber ++ footer.authTag.toList

/-- `SecurityFooter::read_from`. -/
def readFrom (input : List UInt8) : Except StatusCode SecurityFooter :=
  if h : input.length ≠ securityFooterSize then
    .error .errInvalidLen
  else
    .ok
      { sequenceNumber := sequenceOfBytes (input.take 8)
        authTag := ⟨(input.drop 8).take authTagSize, by
          simp only [ne_eq, not_not] at h
          simp [h]⟩ }

/-- The footer as bytes. -/
def bytes (footer : SecurityFooter) : List UInt8 :=
  sequenceBytes footer.sequenceNumber ++ footer.authTag.toList

@[simp] theorem length_bytes (footer : SecurityFooter) :
    footer.bytes.length = securityFooterSize := by
  simp [bytes]

theorem writeTo_eq (footer : SecurityFooter) (output : List UInt8) :
    footer.writeTo output = output ++ footer.bytes := by
  simp [writeTo, bytes]

/-- Reading a written footer gives it back. -/
@[simp] theorem readFrom_bytes (footer : SecurityFooter) :
    readFrom footer.bytes = .ok footer := by
  have hlen : ¬ footer.bytes.length ≠ securityFooterSize := by simp
  have hseq : footer.bytes.take 8 = sequenceBytes footer.sequenceNumber := by
    simp [bytes]
  have htag : (footer.bytes.drop 8).take authTagSize = footer.authTag.toList := by
    simp [bytes]
  unfold readFrom
  rw [dif_neg hlen]
  congr 1
  obtain ⟨seq, tag⟩ := footer
  congr 1
  · simp only [hseq, sequenceOfBytes_sequenceBytes]
  · exact List.Vector.eq _ _ htag

/-- Every 16-byte input reads as a footer whose bytes are the input. -/
theorem readFrom_of_length {input : List UInt8} (h : input.length = securityFooterSize) :
    ∃ footer, readFrom input = .ok footer ∧ footer.bytes = input := by
  refine ⟨_, dif_neg (not_not.mpr h), ?_⟩
  have htake : (input.take 8).length = 8 := by simp [h]
  have hdrop : (input.drop 8).take authTagSize = input.drop 8 :=
    List.take_of_length_le (by simp [h])
  simp only [bytes, sequenceBytes_sequenceOfBytes htake]
  exact (congrArg (input.take 8 ++ ·) hdrop).trans (List.take_append_drop 8 input)

end SecurityFooter

/-- `split_payload_and_footer`: the footer is the last `SECURITY_FOOTER_SIZE` bytes. -/
def splitPayloadAndFooter (payload : List UInt8) :
    Except StatusCode (List UInt8 × SecurityFooter) :=
  if payload.length < securityFooterSize then
    .error .errInvalidLen
  else
    let footerStart := payload.length - securityFooterSize
    match SecurityFooter.readFrom (payload.drop footerStart) with
    | .error code => .error code
    | .ok footer => .ok (payload.take footerStart, footer)

/-- Splitting undoes appending a footer. -/
@[simp] theorem splitPayloadAndFooter_append (payload : List UInt8) (footer : SecurityFooter) :
    splitPayloadAndFooter (payload ++ footer.bytes) = .ok (payload, footer) := by
  have hlen : (payload ++ footer.bytes).length - securityFooterSize = payload.length := by simp
  unfold splitPayloadAndFooter
  rw [if_neg (by simp)]
  simp only [hlen, List.drop_left, List.take_left, SecurityFooter.readFrom_bytes]

/-- What splitting returns puts the input together again. -/
theorem splitPayloadAndFooter_eq_ok {payload front : List UInt8} {footer : SecurityFooter}
    (h : splitPayloadAndFooter payload = .ok (front, footer)) :
    payload = front ++ footer.bytes := by
  unfold splitPayloadAndFooter at h
  split at h
  · cases h
  · rename_i hlen
    have hdrop : (payload.drop (payload.length - securityFooterSize)).length
        = securityFooterSize := by
      rw [List.length_drop]; omega
    obtain ⟨read, hread, hbytes⟩ := SecurityFooter.readFrom_of_length hdrop
    simp only [hread, Except.ok.injEq, Prod.mk.injEq] at h
    obtain ⟨rfl, rfl⟩ := h
    rw [hbytes, List.take_append_drop]

/-- Whatever is long enough to hold a footer splits. -/
theorem exists_splitPayloadAndFooter {payload : List UInt8}
    (h : securityFooterSize ≤ payload.length) :
    ∃ front footer, splitPayloadAndFooter payload = .ok (front, footer) := by
  have hdrop : (payload.drop (payload.length - securityFooterSize)).length
      = securityFooterSize := by
    rw [List.length_drop]; omega
  obtain ⟨footer, hread, -⟩ := SecurityFooter.readFrom_of_length hdrop
  refine ⟨payload.take (payload.length - securityFooterSize), footer, ?_⟩
  simp only [splitPayloadAndFooter, if_neg (not_lt.mpr h), hread]

/-- Behind at least a footer's worth of zero bytes the footer carries the number zero. -/
theorem sequenceNumber_of_zeros {payload front : List UInt8} {n : ℕ} {footer : SecurityFooter}
    (hn : securityFooterSize ≤ n)
    (h : splitPayloadAndFooter (payload ++ List.replicate n 0) = .ok (front, footer)) :
    footer.sequenceNumber = 0 := by
  have hsplit := splitPayloadAndFooter_eq_ok h
  obtain ⟨k, rfl⟩ := Nat.exists_eq_add_of_le' hn
  rw [List.replicate_add, ← List.append_assoc] at hsplit
  obtain ⟨-, hzeros⟩ := List.append_inj' hsplit (by simp)
  have hseq : sequenceBytes footer.sequenceNumber = List.replicate 8 0 := by
    have htake := congrArg (List.take 8) hzeros
    rw [SecurityFooter.bytes, List.take_left' (length_sequenceBytes _)] at htake
    exact htake.symm
  exact sequenceBytes_injective (hseq.trans rfl)

end TsnFieldbus
