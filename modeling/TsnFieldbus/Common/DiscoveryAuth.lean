import TsnFieldbus.Common.DiscoveryTypes

/-!
# Discovery Authentication Handler

`security/discovery_auth.rs`: one security context for each known MAC address, holding the
next sequence number to send and the last one accepted. The locks of the source serialise
the methods, so each method is a function from handler to handler.

- `signedBytes`: the byte string a tag authenticates. It holds no MAC address.
- `createAuthTag_eq`, `validateAuthTag_cases`: everything the two main methods can do.
-/

namespace TsnFieldbus

open Foundations

/-! ## Contexts -/

/-- Per-device discovery security state. -/
structure DeviceSecurityContext where
  transmitterSequenceNumber : UInt64
  lastValidReceivedSequenceNumber : UInt64
deriving DecidableEq, Repr

/-- `DeviceSecurityContext::default`. -/
def DeviceSecurityContext.default : DeviceSecurityContext :=
  { transmitterSequenceNumber := 1
    lastValidReceivedSequenceNumber := 0 }

/-- Discovery authentication state of one party. -/
structure DiscoveryAuthHandler where
  sharedSecret : Secret
  devices : HashMap MacAddr DeviceSecurityContext

/-- `serialize_header`. -/
def serializeHeader (header : SdcpHeader) : List UInt8 :=
  [header.version, header.opCode.toU8, (header.transactionId >>> 8).toUInt8,
    header.transactionId.toUInt8, header.flags]

theorem serializeHeader_eq (header : SdcpHeader) : serializeHeader header = header.bytes :=
  header.bytes_eq.symm

/-- The byte string authenticated for an SDCP message. -/
def signedBytes (header : SdcpHeader) (payload : List UInt8) (sequenceNumber : UInt64) :
    List UInt8 :=
  header.bytes ++ payload ++ sequenceBytes sequenceNumber

@[simp] theorem length_signedBytes (header : SdcpHeader) (payload : List UInt8) (seq : UInt64) :
    (signedBytes header payload seq).length = 13 + payload.length := by
  simp [signedBytes, sdcpHeaderSize]
  omega

/-- The signed bytes determine header, payload and sequence number. -/
theorem signedBytes_injective {h h' : SdcpHeader} {p p' : List UInt8} {n n' : UInt64}
    (heq : signedBytes h p n = signedBytes h' p' n') : h = h' ∧ p = p' ∧ n = n' := by
  unfold signedBytes at heq
  obtain ⟨hfront, hseq⟩ := List.append_inj' heq (by simp)
  obtain ⟨hheader, hpayload⟩ := List.append_inj hfront (by simp)
  exact ⟨SdcpHeader.bytes_injective hheader, hpayload, sequenceBytes_injective hseq⟩

namespace DiscoveryAuthHandler

variable (blake3 : KeyedHash)

/-- `DiscoveryAuthHandler::new`. -/
def new (sharedSecret : Secret) : DiscoveryAuthHandler :=
  { sharedSecret := sharedSecret
    devices := ∅ }

/-- The context of a MAC address, when there is one. -/
def context (handler : DiscoveryAuthHandler) (deviceMac : MacAddr) :
    Option DeviceSecurityContext :=
  handler.devices.lookup deviceMac

/-- The handler with the context of one MAC address replaced. -/
def withContext (handler : DiscoveryAuthHandler) (deviceMac : MacAddr)
    (ctx : DeviceSecurityContext) : DiscoveryAuthHandler :=
  { handler with devices := handler.devices.insert deviceMac ctx }

/-- The context of a MAC address, or the default one it would be registered with. -/
def sendContext (handler : DiscoveryAuthHandler) (mac : MacAddr) : DeviceSecurityContext :=
  (handler.context mac).getD .default

/-- The handler after a message of this number has been accepted from a MAC address. -/
def raiseMark (handler : DiscoveryAuthHandler) (mac : MacAddr) (sequenceNumber : UInt64) :
    DiscoveryAuthHandler :=
  handler.withContext mac
    { handler.sendContext mac with lastValidReceivedSequenceNumber := sequenceNumber }

theorem sendContext_of_context {handler : DiscoveryAuthHandler} {mac : MacAddr}
    {ctx : DeviceSecurityContext} (h : handler.context mac = some ctx) :
    handler.sendContext mac = ctx := by
  rw [sendContext, h, Option.getD_some]

@[simp] theorem context_new (secret : Secret) (mac : MacAddr) :
    (new secret).context mac = none := rfl

@[simp] theorem context_withContext (handler : DiscoveryAuthHandler) (mac : MacAddr)
    (ctx : DeviceSecurityContext) : (handler.withContext mac ctx).context mac = some ctx :=
  AList.lookup_insert _

theorem context_withContext_ne {handler : DiscoveryAuthHandler} {mac other : MacAddr}
    {ctx : DeviceSecurityContext} (h : other ≠ mac) :
    (handler.withContext mac ctx).context other = handler.context other :=
  AList.lookup_insert_ne h

@[simp] theorem sharedSecret_withContext (handler : DiscoveryAuthHandler) (mac : MacAddr)
    (ctx : DeviceSecurityContext) :
    (handler.withContext mac ctx).sharedSecret = handler.sharedSecret := rfl

/-! ## Methods -/

/-- `add_new_device`: `entry(device_mac).or_default()`. -/
def addNewDevice (handler : DiscoveryAuthHandler) (deviceMac : MacAddr) :
    DiscoveryAuthHandler :=
  match handler.context deviceMac with
  | some _ => handler
  | none => handler.withContext deviceMac .default

/-- `has_device`. -/
def hasDevice (handler : DiscoveryAuthHandler) (deviceMac : MacAddr) : Bool :=
  (handler.context deviceMac).isSome

/-- `set_last_valid_received_sequence_number`. -/
def setLastValidReceivedSequenceNumber (handler : DiscoveryAuthHandler) (deviceMac : MacAddr)
    (sequenceNumber : UInt64) : Bool × DiscoveryAuthHandler :=
  match handler.context deviceMac with
  | some ctx =>
    (true, handler.withContext deviceMac
      { ctx with lastValidReceivedSequenceNumber := sequenceNumber })
  | none => (false, handler)

/-- `create_auth_tag`. -/
def createAuthTag (handler : DiscoveryAuthHandler) (deviceMac : MacAddr) (header : SdcpHeader)
    (payload : List UInt8) : Option ((UInt64 × AuthTag) × DiscoveryAuthHandler) :=
  match handler.context deviceMac with
  | none => none
  | some ctx =>
    let sequenceNumber := ctx.transmitterSequenceNumber
    let headerBytes := serializeHeader header
    let sequenceBytes := sequenceBytes sequenceNumber
    let tag := calculateHmac blake3 handler.sharedSecret [headerBytes, payload, sequenceBytes]
    some ((sequenceNumber, tag), handler.withContext deviceMac
      { ctx with transmitterSequenceNumber := saturatingAdd ctx.transmitterSequenceNumber 1 })

/-- `validate_auth_tag`. -/
def validateAuthTag (handler : DiscoveryAuthHandler) (deviceMac : MacAddr) (header : SdcpHeader)
    (payload : List UInt8) (receivedSequenceNumber : UInt64) (authTag : AuthTag) :
    Bool × DiscoveryAuthHandler :=
  match handler.context deviceMac with
  | none => (false, handler)
  | some ctx =>
    if receivedSequenceNumber ≤ ctx.lastValidReceivedSequenceNumber then
      (false, handler)
    else
      let headerBytes := serializeHeader header
      let sequenceBytes := sequenceBytes receivedSequenceNumber
      let valid := verifyHmac blake3 handler.sharedSecret [headerBytes, payload, sequenceBytes]
        authTag
      if valid then
        (valid, handler.withContext deviceMac
          { ctx with lastValidReceivedSequenceNumber := receivedSequenceNumber })
      else
        (valid, handler)

/-- `validate_discovery_response`: the bootstrap check for unknown devices. -/
def validateDiscoveryResponse (handler : DiscoveryAuthHandler) (header : SdcpHeader)
    (payload : List UInt8) (sequenceNumber : UInt64) (authTag : AuthTag) : Bool :=
  if sequenceNumber ≠ 1 then
    false
  else
    let headerBytes := serializeHeader header
    let sequenceBytes := sequenceBytes sequenceNumber
    verifyHmac blake3 handler.sharedSecret [headerBytes, payload, sequenceBytes] authTag

/-! ## What the methods do -/

/-- The tag is the one the holder of the secret computes for this message. -/
def Authentic (handler : DiscoveryAuthHandler) (header : SdcpHeader) (payload : List UInt8)
    (seq : UInt64) (tag : AuthTag) : Prop :=
  tagOf blake3 handler.sharedSecret (signedBytes header payload seq) = tag

instance (handler : DiscoveryAuthHandler) (header : SdcpHeader) (payload : List UInt8)
    (seq : UInt64) (tag : AuthTag) : Decidable (Authentic blake3 handler header payload seq tag) :=
  inferInstanceAs (Decidable (_ = _))

/-- A context for the MAC address exists and its mark is below the sequence number. -/
def Fresh (handler : DiscoveryAuthHandler) (mac : MacAddr) (seq : UInt64) : Prop :=
  ∃ ctx ∈ handler.context mac, ctx.lastValidReceivedSequenceNumber < seq

instance (handler : DiscoveryAuthHandler) (mac : MacAddr) (seq : UInt64) :
    Decidable (handler.Fresh mac seq) :=
  inferInstanceAs (Decidable (∃ ctx ∈ handler.context mac, _))

theorem verifyHmac_iff_authentic (handler : DiscoveryAuthHandler) (header : SdcpHeader)
    (payload : List UInt8) (seq : UInt64) (tag : AuthTag) :
    verifyHmac blake3 handler.sharedSecret [serializeHeader header, payload, sequenceBytes seq]
      tag = true ↔ handler.Authentic blake3 header payload seq tag := by
  rw [verifyHmac_iff, Authentic, serializeHeader_eq]
  simp [signedBytes]

@[simp] theorem hasDevice_iff (handler : DiscoveryAuthHandler) (mac : MacAddr) :
    handler.hasDevice mac = true ↔ ∃ ctx, handler.context mac = some ctx :=
  Option.isSome_iff_exists

/-- Registering a device leaves known contexts alone and gives the others the default. -/
theorem context_addNewDevice (handler : DiscoveryAuthHandler) (mac : MacAddr) :
    (handler.addNewDevice mac).context mac = some ((handler.context mac).getD .default) := by
  unfold addNewDevice
  cases h : handler.context mac with
  | some ctx => simp [h]
  | none => simp

theorem context_addNewDevice_ne {handler : DiscoveryAuthHandler} {mac other : MacAddr}
    (h : other ≠ mac) : (handler.addNewDevice mac).context other = handler.context other := by
  unfold addNewDevice
  split
  · rfl
  · exact context_withContext_ne h

@[simp] theorem sharedSecret_addNewDevice (handler : DiscoveryAuthHandler) (mac : MacAddr) :
    (handler.addNewDevice mac).sharedSecret = handler.sharedSecret := by
  unfold addNewDevice
  split <;> rfl

/-- The guarded registration of the callers is the registration itself. -/
@[simp] theorem ite_hasDevice_addNewDevice (handler : DiscoveryAuthHandler) (mac : MacAddr) :
    (if handler.hasDevice mac then handler else handler.addNewDevice mac)
      = handler.addNewDevice mac := by
  unfold hasDevice addNewDevice
  cases handler.context mac <;> rfl

theorem createAuthTag_eq {handler : DiscoveryAuthHandler} {mac : MacAddr}
    {ctx : DeviceSecurityContext} (h : handler.context mac = some ctx) (header : SdcpHeader)
    (payload : List UInt8) :
    handler.createAuthTag blake3 mac header payload =
      some ((ctx.transmitterSequenceNumber, tagOf blake3 handler.sharedSecret
          (signedBytes header payload ctx.transmitterSequenceNumber)),
        handler.withContext mac
          { ctx with transmitterSequenceNumber :=
              saturatingAdd ctx.transmitterSequenceNumber 1 }) := by
  simp [createAuthTag, h, calculateHmac_eq_tagOf, serializeHeader_eq, signedBytes]

/-- A tag is rejected without effect, or it is fresh and authentic and raises the mark. -/
theorem validateAuthTag_cases (handler : DiscoveryAuthHandler) (mac : MacAddr)
    (header : SdcpHeader) (payload : List UInt8) (seq : UInt64) (tag : AuthTag) :
    (¬ (handler.Fresh mac seq ∧ handler.Authentic blake3 header payload seq tag) ∧
      handler.validateAuthTag blake3 mac header payload seq tag = (false, handler)) ∨
    (handler.Fresh mac seq ∧ handler.Authentic blake3 header payload seq tag ∧
      handler.validateAuthTag blake3 mac header payload seq tag =
        (true, handler.raiseMark mac seq)) := by
  unfold validateAuthTag Fresh
  cases hctx : handler.context mac with
  | none => simp
  | some ctx =>
    -- the number first: an old one is refused whatever its tag
    by_cases hseq : seq ≤ ctx.lastValidReceivedSequenceNumber
    · left
      simp [hseq, UInt64.not_lt.mpr hseq]
    · by_cases hver : handler.Authentic blake3 header payload seq tag
      · right
        refine ⟨⟨ctx, rfl, UInt64.not_le.mp hseq⟩, hver, ?_⟩
        simp [hseq, (verifyHmac_iff_authentic blake3 handler header payload seq tag).mpr hver,
          raiseMark, sendContext_of_context hctx]
      · left
        have hfalse : verifyHmac blake3 handler.sharedSecret
            [serializeHeader header, payload, sequenceBytes seq] tag = false := by
          rw [Bool.eq_false_iff]
          exact fun h => hver ((verifyHmac_iff_authentic blake3 handler _ _ _ _).mp h)
        simp [hseq, hver, hfalse]

theorem validateAuthTag_eq_true_iff (handler : DiscoveryAuthHandler) (mac : MacAddr)
    (header : SdcpHeader) (payload : List UInt8) (seq : UInt64) (tag : AuthTag) :
    (handler.validateAuthTag blake3 mac header payload seq tag).1 = true ↔
      handler.Fresh mac seq ∧ handler.Authentic blake3 header payload seq tag := by
  rcases validateAuthTag_cases blake3 handler mac header payload seq tag with
    ⟨hno, heq⟩ | ⟨hfresh, hauth, heq⟩
  · simp only [heq, Bool.false_eq_true, false_iff]
    exact hno
  · simp only [heq, true_iff]
    exact ⟨hfresh, hauth⟩

theorem validateDiscoveryResponse_iff (handler : DiscoveryAuthHandler) (header : SdcpHeader)
    (payload : List UInt8) (seq : UInt64) (tag : AuthTag) :
    handler.validateDiscoveryResponse blake3 header payload seq tag = true ↔
      seq = 1 ∧ handler.Authentic blake3 header payload seq tag := by
  unfold validateDiscoveryResponse
  by_cases h : seq = 1
  · simp only [h, ne_eq, not_true_eq_false, if_false, true_and]
    exact verifyHmac_iff_authentic blake3 handler header payload 1 tag
  · simp [h]

/-! ## Marks and counters -/

/-- The last number accepted from a MAC address, zero for unknown ones. -/
def mark (handler : DiscoveryAuthHandler) (mac : MacAddr) : ℕ :=
  (handler.sendContext mac).lastValidReceivedSequenceNumber.toNat

/-- The next number sent under a MAC address. -/
def nextNumber (handler : DiscoveryAuthHandler) (mac : MacAddr) : ℕ :=
  (handler.sendContext mac).transmitterSequenceNumber.toNat

theorem nextNumber_le (handler : DiscoveryAuthHandler) (mac : MacAddr) :
    handler.nextNumber mac ≤ 2 ^ 64 - 1 := by
  have := (handler.sendContext mac).transmitterSequenceNumber.toNat_lt
  unfold nextNumber
  omega

@[simp] theorem sendContext_withContext (handler : DiscoveryAuthHandler) (mac : MacAddr)
    (ctx : DeviceSecurityContext) : (handler.withContext mac ctx).sendContext mac = ctx :=
  sendContext_of_context (context_withContext _ _ _)

theorem sendContext_withContext_ne {handler : DiscoveryAuthHandler} {mac other : MacAddr}
    {ctx : DeviceSecurityContext} (h : other ≠ mac) :
    (handler.withContext mac ctx).sendContext other = handler.sendContext other := by
  rw [sendContext, context_withContext_ne h, sendContext]

/-- Registering a device changes no mark and no counter. -/
@[simp] theorem sendContext_addNewDevice (handler : DiscoveryAuthHandler) (mac other : MacAddr) :
    (handler.addNewDevice mac).sendContext other = handler.sendContext other := by
  by_cases h : other = mac
  · subst h
    exact sendContext_of_context (context_addNewDevice _ _)
  · rw [sendContext, context_addNewDevice_ne h, sendContext]

@[simp] theorem mark_addNewDevice (handler : DiscoveryAuthHandler) (mac other : MacAddr) :
    (handler.addNewDevice mac).mark other = handler.mark other := by
  rw [mark, sendContext_addNewDevice, mark]

@[simp] theorem nextNumber_addNewDevice (handler : DiscoveryAuthHandler) (mac other : MacAddr) :
    (handler.addNewDevice mac).nextNumber other = handler.nextNumber other := by
  rw [nextNumber, sendContext_addNewDevice, nextNumber]

@[simp] theorem sharedSecret_raiseMark (handler : DiscoveryAuthHandler) (mac : MacAddr)
    (seq : UInt64) : (handler.raiseMark mac seq).sharedSecret = handler.sharedSecret := rfl

@[simp] theorem mark_raiseMark (handler : DiscoveryAuthHandler) (mac : MacAddr) (seq : UInt64) :
    (handler.raiseMark mac seq).mark mac = seq.toNat := by
  simp [mark, raiseMark]

theorem mark_raiseMark_ne {handler : DiscoveryAuthHandler} {mac other : MacAddr} {seq : UInt64}
    (h : other ≠ mac) : (handler.raiseMark mac seq).mark other = handler.mark other := by
  rw [mark, raiseMark, sendContext_withContext_ne h, mark]

/-- Accepting a message changes no counter. -/
@[simp] theorem nextNumber_raiseMark (handler : DiscoveryAuthHandler) (mac other : MacAddr)
    (seq : UInt64) : (handler.raiseMark mac seq).nextNumber other = handler.nextNumber other := by
  by_cases h : other = mac
  · subst h
    simp [nextNumber, raiseMark]
  · rw [nextNumber, raiseMark, sendContext_withContext_ne h, nextNumber]

theorem hasDevice_addNewDevice {handler : DiscoveryAuthHandler} {mac other : MacAddr} :
    (handler.addNewDevice mac).hasDevice other = true ↔
      other = mac ∨ handler.hasDevice other = true := by
  unfold hasDevice
  by_cases h : other = mac
  · subst h
    simp [context_addNewDevice]
  · rw [context_addNewDevice_ne h]
    simp [h]

/-- Freshness in terms of the mark. -/
theorem fresh_iff {handler : DiscoveryAuthHandler} {mac : MacAddr} {seq : UInt64} :
    handler.Fresh mac seq ↔ handler.hasDevice mac = true ∧ handler.mark mac < seq.toNat := by
  rw [hasDevice_iff]
  constructor
  · rintro ⟨ctx, hctx, hlt⟩
    exact ⟨⟨ctx, hctx⟩, by
      rw [mark, sendContext_of_context hctx]; exact UInt64.lt_iff_toNat_lt.mp hlt⟩
  · rintro ⟨⟨ctx, hctx⟩, hlt⟩
    rw [mark, sendContext_of_context hctx] at hlt
    exact ⟨ctx, hctx, UInt64.lt_iff_toNat_lt.mpr hlt⟩

end DiscoveryAuthHandler

end TsnFieldbus
