import TsnFieldbus.Common.DiscoveryAuth
import TsnFieldbus.Common.Ethernet

/-!
# SDCP Messages in Ethernet Frames

What a receiver of either party reads from a frame before it authenticates anything, and
the frame that both frame builders lay out.

Main results:
- `sdcpMessage_sdcpFrame`: a laid out frame is read back as its message.
- `createAuthTag_addNewDevice`: what sending a message under one's own address does.
-/

namespace TsnFieldbus

/-- An SDCP message as received: the parsed payload and the claimed source address. -/
structure SdcpMessage where
  source : MacAddr
  parsed : ParsedSdcpPayload
deriving DecidableEq

/-- The byte string the message's tag authenticates. The source address is not part of it. -/
def ParsedSdcpPayload.signedBytes (parsed : ParsedSdcpPayload) : List UInt8 :=
  TsnFieldbus.signedBytes parsed.header parsed.tlvPayload parsed.sequenceNumber

/-- The checks every receiver makes first: Ethernet frame, SDCP ethertype, payload layout. -/
def Frame.sdcpMessage (frame : Frame) : Option SdcpMessage :=
  match EthernetPacket.new frame with
  | none => none
  | some ethernetFrame =>
    if ethernetFrame.getEthertype ≠ ethertypeSdcp then none
    else
      match parseSdcpPayload ethernetFrame.payload with
      | .error _ => none
      | .ok parsed => some { source := ethernetFrame.getSource, parsed := parsed }

/-- What a received message says about its frame. -/
theorem Frame.sdcpMessage_eq_some {frame : Frame} {message : SdcpMessage}
    (h : frame.sdcpMessage = some message) :
    14 ≤ frame.length ∧ parseSdcpPayload (frame.drop 14) = .ok message.parsed := by
  unfold Frame.sdcpMessage at h
  split at h
  · cases h
  · rename_i eth hnew
    obtain ⟨hmin, heth⟩ := Option.dite_none_right_eq_some.mp hnew
    cases heth
    split at h
    · cases h
    · split at h
      · cases h
      · rename_i parsed hparse
        cases h
        exact ⟨hmin, hparse⟩

/-- A received message accounts for every byte of its frame. -/
theorem Frame.length_of_sdcpMessage {frame : Frame} {message : SdcpMessage}
    (h : frame.sdcpMessage = some message) :
    frame.length = 35 + message.parsed.tlvPayload.length := by
  obtain ⟨hmin, hparse⟩ := Frame.sdcpMessage_eq_some h
  have hlength := length_of_parseSdcpPayload hparse
  have hsizes : sdcpHeaderSize = 5 ∧ securityFooterSize = 16 := ⟨rfl, rfl⟩
  rw [List.length_drop] at hlength
  omega

/-- The SDCP frame with the given addresses and contents. -/
def sdcpFrame (destination source : MacAddr) (header : SdcpHeader) (tlvPayload : List UInt8)
    (footer : SecurityFooter) : Frame :=
  ethernetFrame destination source ethertypeSdcp (header.bytes ++ tlvPayload ++ footer.bytes)

@[simp] theorem length_sdcpFrame (dst src : MacAddr) (header : SdcpHeader)
    (tlvPayload : List UInt8) (footer : SecurityFooter) :
    (sdcpFrame dst src header tlvPayload footer).length = 35 + tlvPayload.length := by
  simp [sdcpFrame, sdcpHeaderSize, securityFooterSize, authTagSize]
  omega

/-- A laid out frame is read back as its message. -/
@[simp] theorem sdcpMessage_sdcpFrame (dst src : MacAddr) (header : SdcpHeader)
    (tlvPayload : List UInt8) (footer : SecurityFooter) :
    Frame.sdcpMessage (sdcpFrame dst src header tlvPayload footer) =
      some ⟨src, ⟨header, tlvPayload, footer.sequenceNumber, footer.authTag⟩⟩ := by
  obtain ⟨eth, hnew, -, hsrc, htype, hpayload⟩ := EthernetPacket.new_ethernetFrame dst src
    ethertypeSdcp (header.bytes ++ tlvPayload ++ footer.bytes)
  simp only [Frame.sdcpMessage, sdcpFrame, hnew, htype, ne_eq, not_true_eq_false, if_false,
    hpayload, parseSdcpPayload_layout, hsrc]

/-! ## Sending under one's own address -/

namespace DiscoveryAuthHandler

variable (blake3 : KeyedHash)

/-- The footer of the party's next message. -/
def nextFooter (handler : DiscoveryAuthHandler) (mac : MacAddr) (header : SdcpHeader)
    (tlvPayload : List UInt8) : SecurityFooter :=
  { sequenceNumber := (handler.sendContext mac).transmitterSequenceNumber
    authTag := tagOf blake3 handler.sharedSecret
      (signedBytes header tlvPayload (handler.sendContext mac).transmitterSequenceNumber) }

/-- The frame of the party's next message. -/
def nextFrame (handler : DiscoveryAuthHandler) (mac destination : MacAddr) (header : SdcpHeader)
    (tlvPayload : List UInt8) : Frame :=
  sdcpFrame destination mac header tlvPayload (handler.nextFooter blake3 mac header tlvPayload)

/-- The handler after the party has sent a message. -/
def afterSend (handler : DiscoveryAuthHandler) (mac : MacAddr) : DiscoveryAuthHandler :=
  (handler.addNewDevice mac).withContext mac
    { handler.sendContext mac with
      transmitterSequenceNumber :=
        Foundations.saturatingAdd (handler.sendContext mac).transmitterSequenceNumber 1 }

/-- Registering one's own address and creating a tag gives the next footer. -/
theorem createAuthTag_addNewDevice (handler : DiscoveryAuthHandler) (mac : MacAddr)
    (header : SdcpHeader) (tlvPayload : List UInt8) :
    (handler.addNewDevice mac).createAuthTag blake3 mac header tlvPayload =
      some (((handler.nextFooter blake3 mac header tlvPayload).sequenceNumber,
        (handler.nextFooter blake3 mac header tlvPayload).authTag), handler.afterSend mac) := by
  rw [createAuthTag_eq blake3 (context_addNewDevice handler mac), sharedSecret_addNewDevice]
  rfl

@[simp] theorem context_afterSend (handler : DiscoveryAuthHandler) (mac : MacAddr) :
    (handler.afterSend mac).context mac = some
      { handler.sendContext mac with
        transmitterSequenceNumber :=
          Foundations.saturatingAdd (handler.sendContext mac).transmitterSequenceNumber 1 } :=
  context_withContext _ _ _

theorem context_afterSend_ne {handler : DiscoveryAuthHandler} {mac other : MacAddr}
    (h : other ≠ mac) : (handler.afterSend mac).context other = handler.context other := by
  rw [afterSend, context_withContext_ne h, context_addNewDevice_ne h]

@[simp] theorem sharedSecret_afterSend (handler : DiscoveryAuthHandler) (mac : MacAddr) :
    (handler.afterSend mac).sharedSecret = handler.sharedSecret := by
  rw [afterSend, sharedSecret_withContext, sharedSecret_addNewDevice]

/-- Sending changes no mark. -/
@[simp] theorem mark_afterSend (handler : DiscoveryAuthHandler) (mac other : MacAddr) :
    (handler.afterSend mac).mark other = handler.mark other := by
  by_cases h : other = mac
  · subst h
    rw [mark, sendContext_of_context (context_afterSend _ _), mark]
  · rw [mark, sendContext, context_afterSend_ne h, mark, sendContext]

/-- Sending advances the party's own counter, which stays at the largest number. -/
theorem nextNumber_afterSend (handler : DiscoveryAuthHandler) (mac : MacAddr) :
    (handler.afterSend mac).nextNumber mac = min (handler.nextNumber mac + 1) (2 ^ 64 - 1) := by
  rw [nextNumber, sendContext_of_context (context_afterSend _ _)]
  simp only [Foundations.toNat_saturatingAdd, UInt64.toNat_one, nextNumber]

end DiscoveryAuthHandler

/-- Filling a buffer of the right size with a message lays out its frame. -/
theorem fillBuffer_eq_sdcpFrame (dst src : MacAddr) (header : SdcpHeader)
    (tlvPayload : List UInt8) (footer : SecurityFooter) {size : ℕ}
    (hsize : size = 14 + 5 + tlvPayload.length + securityFooterSize) :
    MutableEthernetPacket.setPayload (MutableEthernetPacket.setEthertype
      (MutableEthernetPacket.setSource (MutableEthernetPacket.setDestination
        (List.replicate size 0) dst) src) ethertypeSdcp)
      (header.bytes ++ tlvPayload ++ footer.bytes)
      = sdcpFrame dst src header tlvPayload footer := by
  refine fillBuffer_eq_ethernetFrame dst src ethertypeSdcp _ ?_
  simp only [List.length_append, SdcpHeader.length_bytes, SecurityFooter.length_bytes, hsize,
    sdcpHeaderSize]
  omega

end TsnFieldbus
