import TsnFieldbus.Common.Ethernet

/-!
# L2 Frames

`l2_types.rs`: the 7-byte L2 header and the frame layout
`destination ++ source ++ VLAN tag ++ ethertype ++ header ++ payload ++ footer`.

Main result: `parseL2Frame_build`, the parser undoes the builder for every header,
payload and footer.
-/

namespace TsnFieldbus

open Foundations

/-- `ETHERTYPE_L2_PROTOCOL`. -/
def ethertypeL2Protocol : UInt16 := 0x88B6

/-- `L2_PROTOCOL_VERSION`. -/
def l2ProtocolVersion : UInt8 := 0x01

/-- `L2_PROTOCOL_FLAGS`. -/
def l2ProtocolFlags : UInt8 := 0x00

/-- `L2_HEADER_SIZE`. -/
abbrev l2HeaderSize : ℕ := 7

/-- `VLAN_ETHERTYPE`. -/
def vlanEthertype : UInt16 := 0x8100

/-! ## Header -/

/-- L2 protocol message header. -/
structure L2Header where
  version : UInt8
  streamId : UInt16
  cycleCounter : UInt16
  status : UInt8
  flags : UInt8
deriving DecidableEq, Repr

namespace L2Header

/-- `L2Header::new`. -/
def new (streamId cycleCounter : UInt16) (status : UInt8) : L2Header :=
  { version := l2ProtocolVersion
    streamId := streamId
    cycleCounter := cycleCounter
    status := status
    flags := l2ProtocolFlags }

/-- `L2Header::write_to`. -/
def writeTo (header : L2Header) (buf : List UInt8) : List UInt8 :=
  buf ++ [header.version] ++ u16Bytes header.streamId ++ u16Bytes header.cycleCounter
    ++ [header.status] ++ [header.flags]

/-- `L2Header::read_from`; fails when fewer than seven bytes are left. -/
def readFrom (buf : List UInt8) : Option L2Header :=
  match buf with
  | version :: s1 :: s0 :: c1 :: c0 :: status :: flags :: _ =>
    some
      { version := version
        streamId := u16OfBytes s1 s0
        cycleCounter := u16OfBytes c1 c0
        status := status
        flags := flags }
  | _ => none

/-- The seven bytes of a header. -/
def bytes (header : L2Header) : List UInt8 := header.writeTo []

theorem bytes_eq (header : L2Header) :
    header.bytes = [header.version, (header.streamId >>> 8).toUInt8, header.streamId.toUInt8,
      (header.cycleCounter >>> 8).toUInt8, header.cycleCounter.toUInt8, header.status,
      header.flags] := by
  simp [bytes, writeTo, u16Bytes_eq_shifts]

theorem writeTo_eq (header : L2Header) (buf : List UInt8) :
    header.writeTo buf = buf ++ header.bytes := by
  simp [bytes, writeTo]

@[simp] theorem length_bytes (header : L2Header) : header.bytes.length = l2HeaderSize := by
  simp [bytes_eq]

@[simp] theorem readFrom_bytes (header : L2Header) : readFrom header.bytes = some header := by
  simp [bytes_eq, readFrom]

/-- The header bytes determine the header. -/
theorem bytes_injective {a b : L2Header} (h : a.bytes = b.bytes) : a = b := by
  have ha := readFrom_bytes a
  rw [h, readFrom_bytes b] at ha
  exact (Option.some.inj ha).symm

end L2Header

/-! ## Frames -/

/-- A parsed L2 frame. -/
structure ParsedL2Frame where
  destination : MacAddr
  source : MacAddr
  vlanIdPcp : UInt16
  header : L2Header
  payload : List UInt8
  sequenceNumber : UInt64
  authTag : AuthTag
deriving DecidableEq

/-- `build_l2_frame`. -/
def buildL2Frame (source destination : MacAddr) (vlanIdPcp : UInt16) (header : L2Header)
    (payload : List UInt8) (securityFooter : SecurityFooter) : Frame :=
  let frame := destination.octets
  let frame := frame ++ source.octets
  let frame := frame ++ u16Bytes vlanEthertype
  let frame := frame ++ u16Bytes vlanIdPcp
  let frame := frame ++ u16Bytes ethertypeL2Protocol
  let frame := header.writeTo frame
  let frame := frame ++ payload
  securityFooter.writeTo frame

/-- The VLAN field and the offset of the L2 header, or why the frame is refused. -/
def l2HeaderOffset (frame : Frame) (h : 14 + l2HeaderSize ≤ frame.length) :
    Except StatusCode (UInt16 × ℕ) :=
  let ethertype := u16OfBytes frame[12] frame[13]
  if ethertype = vlanEthertype then
    if hvlan : frame.length < 18 + l2HeaderSize then
      .error .errInvalidLen
    else
      let vlanIdPcp := u16OfBytes frame[14] frame[15]
      let innerEthertype := u16OfBytes frame[16] frame[17]
      if innerEthertype ≠ ethertypeL2Protocol then .error .errInvalidEthertype
      else .ok (vlanIdPcp, 18)
  else if ethertype = ethertypeL2Protocol then .ok (0, 14)
  else .error .errInvalidEthertype

/-- `parse_l2_frame`. -/
def parseL2Frame (frame : Frame) : Except StatusCode ParsedL2Frame :=
  if h : frame.length < 14 + l2HeaderSize then
    .error .errInvalidLen
  else
    match l2HeaderOffset frame (by omega) with
    | .error code => .error code
    | .ok (vlanIdPcp, offset) =>
      match L2Header.readFrom ((frame.drop offset).take l2HeaderSize) with
      | none => .error .errFrameParsing
      | some header =>
        match splitPayloadAndFooter (frame.drop (offset + l2HeaderSize)) with
        | .error code => .error code
        | .ok (payload, securityFooter) =>
          .ok
            { destination := .fromFrame frame 0 (by omega)
              source := .fromFrame frame 6 (by omega)
              vlanIdPcp := vlanIdPcp
              header := header
              payload := payload
              sequenceNumber := securityFooter.sequenceNumber
              authTag := securityFooter.authTag }

/-- The 18 bytes in front of the L2 header of a built frame. -/
def l2FramePrefix (source destination : MacAddr) (vlanIdPcp : UInt16) : List UInt8 :=
  destination.octets ++ (source.octets ++
    (u16Bytes vlanEthertype ++ (u16Bytes vlanIdPcp ++ u16Bytes ethertypeL2Protocol)))

@[simp] theorem length_l2FramePrefix (src dst : MacAddr) (vlan : UInt16) :
    (l2FramePrefix src dst vlan).length = 18 := by
  simp [l2FramePrefix]

theorem buildL2Frame_eq (src dst : MacAddr) (vlan : UInt16) (header : L2Header)
    (payload : List UInt8) (footer : SecurityFooter) :
    buildL2Frame src dst vlan header payload footer =
      l2FramePrefix src dst vlan ++ (header.bytes ++ (payload ++ footer.bytes)) := by
  simp [buildL2Frame, L2Header.writeTo_eq, SecurityFooter.writeTo_eq, l2FramePrefix]

/-- Parsing behind a built prefix reads header, payload and footer from the rest alone. -/
theorem parseL2Frame_prefix (src dst : MacAddr) (vlan : UInt16) (header : L2Header)
    (rest payload : List UInt8) (footer : SecurityFooter)
    (hrest : splitPayloadAndFooter rest = .ok (payload, footer)) :
    parseL2Frame (l2FramePrefix src dst vlan ++ (header.bytes ++ rest)) =
      .ok ⟨dst, src, vlan, header, payload, footer.sequenceNumber, footer.authTag⟩ := by
  obtain ⟨frame, hframe⟩ : ∃ frame, frame = l2FramePrefix src dst vlan ++ (header.bytes ++ rest) :=
    ⟨_, rfl⟩
  rw [← hframe]
  have hsize : l2HeaderSize = 7 := rfl
  have hlen : frame.length = 18 + (7 + rest.length) := by simp [hframe]
  have hshort : ¬ frame.length < 14 + l2HeaderSize := by omega
  -- behind a VLAN tag the header starts at byte 18
  have hoffset : l2HeaderOffset frame (by omega) = .ok (vlan, 18) := by
    have hvlan : ¬ frame.length < 18 + l2HeaderSize := by omega
    have h12 : u16OfBytes frame[12] frame[13] = vlanEthertype := by
      simp only [hframe, l2FramePrefix, MacAddr.octets, u16Bytes_eq_shifts]
      exact u16OfBytes_shifts _
    have h14 : u16OfBytes frame[14] frame[15] = vlan := by
      simp only [hframe, l2FramePrefix, MacAddr.octets, u16Bytes_eq_shifts]
      exact u16OfBytes_shifts _
    have h16 : u16OfBytes frame[16] frame[17] = ethertypeL2Protocol := by
      simp only [hframe, l2FramePrefix, MacAddr.octets, u16Bytes_eq_shifts]
      exact u16OfBytes_shifts _
    simp only [l2HeaderOffset, h12, if_true, dif_neg hvlan, h14, h16, ne_eq, not_true_eq_false,
      if_false]
  -- header and body, at that offset
  have hheader : (frame.drop 18).take l2HeaderSize = header.bytes := by
    rw [hframe, List.drop_left' (length_l2FramePrefix src dst vlan),
      List.take_left' (L2Header.length_bytes header)]
  have hbody : frame.drop (18 + l2HeaderSize) = rest := by
    rw [hframe, ← List.append_assoc, List.drop_left' (by simp)]
  -- the addresses are the first twelve bytes
  have hdst : MacAddr.fromFrame frame 0 (by omega) = dst :=
    MacAddr.fromFrame_eq [] _ (by rw [hframe, l2FramePrefix, List.append_assoc]; rfl) rfl
  have hsrc : MacAddr.fromFrame frame 6 (by omega) = src :=
    MacAddr.fromFrame_eq dst.octets _
      (by simp only [hframe, l2FramePrefix, List.append_assoc]; rfl) rfl
  simp only [parseL2Frame, dif_neg hshort, hoffset, hheader, L2Header.readFrom_bytes, hbody, hrest,
    hdst, hsrc]

/-- The parser undoes the builder. -/
theorem parseL2Frame_build (src dst : MacAddr) (vlan : UInt16) (header : L2Header)
    (payload : List UInt8) (footer : SecurityFooter) :
    parseL2Frame (buildL2Frame src dst vlan header payload footer) =
      .ok ⟨dst, src, vlan, header, payload, footer.sequenceNumber, footer.authTag⟩ := by
  rw [buildL2Frame_eq]
  exact parseL2Frame_prefix _ _ _ _ _ _ _ (splitPayloadAndFooter_append payload footer)

end TsnFieldbus
