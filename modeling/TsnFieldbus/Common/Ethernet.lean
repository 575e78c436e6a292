import TsnFieldbus.Common.DiscoveryTypes

/-!
# Ethernet Frames

The part of `pnet` the discovery code uses. `EthernetPacket` is a view on a frame of at
least 14 bytes with destination, source, ethertype and payload at their standard offsets;
`MutableEthernetPacket` writes the same fields into a zeroed buffer.

- `EthernetPacket`: carries the length that makes the field accesses safe.
- `ethernetFrame`: the bytes the frame builders of both parties lay out.
-/

namespace TsnFieldbus

/-- A raw Ethernet frame as handed out by the datalink layer. -/
abbrev Frame := List UInt8

/-- Six octets of a frame as a MAC address. -/
def MacAddr.fromFrame (frame : Frame) (offset : ℕ) (h : offset + 6 ≤ frame.length) : MacAddr :=
  ⟨frame[offset], frame[offset + 1], frame[offset + 2], frame[offset + 3], frame[offset + 4],
    frame[offset + 5]⟩

/-- The octets behind a prefix of matching length are the address that was written there. -/
theorem MacAddr.fromFrame_eq {frame back : Frame} {mac : MacAddr} {offset : ℕ}
    (front : Frame) (h : offset + 6 ≤ frame.length) (hframe : frame = front ++ (mac.octets ++ back))
    (hfront : front.length = offset) : MacAddr.fromFrame frame offset h = mac := by
  subst hframe hfront
  obtain ⟨a, b, c, d, e, f⟩ := mac
  simp [MacAddr.fromFrame, MacAddr.octets]

/-! ## Reading -/

/-- `pnet::packet::ethernet::EthernetPacket`. -/
structure EthernetPacket where
  packet : Frame
  minimumSize : 14 ≤ packet.length

namespace EthernetPacket

/-- `EthernetPacket::new`. -/
def new (packet : Frame) : Option EthernetPacket :=
  if h : 14 ≤ packet.length then some ⟨packet, h⟩ else none

/-- `get_destination`. -/
def getDestination (eth : EthernetPacket) : MacAddr :=
  .fromFrame eth.packet 0 (by have := eth.minimumSize; omega)

/-- `get_source`. -/
def getSource (eth : EthernetPacket) : MacAddr :=
  .fromFrame eth.packet 6 (by have := eth.minimumSize; omega)

/-- `get_ethertype`. -/
def getEthertype (eth : EthernetPacket) : UInt16 :=
  have := eth.minimumSize
  u16OfBytes eth.packet[12] eth.packet[13]

/-- `payload`. -/
def payload (eth : EthernetPacket) : List UInt8 := eth.packet.drop 14

end EthernetPacket

/-! ## Writing -/

namespace MutableEthernetPacket

/-- Copy `bytes` into the buffer at `offset`. The copies of this project always fit: a
buffer is sized from the TLV it takes (`pnet` panics on a copy past the end). -/
def copyAt (buffer : List UInt8) (offset : ℕ) (bytes : List UInt8) : List UInt8 :=
  buffer.take offset ++ bytes ++ buffer.drop (offset + bytes.length)

/-- `set_destination`. -/
def setDestination (buffer : List UInt8) (mac : MacAddr) : List UInt8 := copyAt buffer 0 mac.octets

/-- `set_source`. -/
def setSource (buffer : List UInt8) (mac : MacAddr) : List UInt8 := copyAt buffer 6 mac.octets

/-- `set_ethertype`. -/
def setEthertype (buffer : List UInt8) (ethertype : UInt16) : List UInt8 :=
  copyAt buffer 12 (u16Bytes ethertype)

/-- `set_payload`. -/
def setPayload (buffer payload : List UInt8) : List UInt8 :=
  copyAt buffer 14 payload

end MutableEthernetPacket

/-- The frame with the given header fields and payload. -/
def ethernetFrame (destination source : MacAddr) (ethertype : UInt16) (payload : List UInt8) :
    Frame :=
  destination.octets ++ (source.octets ++ (u16Bytes ethertype ++ payload))

@[simp] theorem length_u16Bytes (x : UInt16) : (u16Bytes x).length = 2 := by
  simp [u16Bytes]

@[simp] theorem length_ethernetFrame (dst src : MacAddr) (et : UInt16) (payload : List UInt8) :
    (ethernetFrame dst src et payload).length = 14 + payload.length := by
  simp [ethernetFrame]
  omega

/-- Filling a zeroed buffer of the right size lays out exactly the frame. -/
theorem fillBuffer_eq_ethernetFrame (dst src : MacAddr) (et : UInt16) (payload : List UInt8)
    {size : ℕ} (hsize : size = 14 + payload.length) :
    MutableEthernetPacket.setPayload (MutableEthernetPacket.setEthertype
      (MutableEthernetPacket.setSource (MutableEthernetPacket.setDestination
        (List.replicate size 0) dst) src) et) payload = ethernetFrame dst src et payload := by
  subst hsize
  obtain ⟨a, b, c, d, e, f⟩ := dst
  obtain ⟨g, h, i, j, k, l⟩ := src
  have hzeros : List.replicate (14 + payload.length) (0 : UInt8) =
      List.replicate 14 0 ++ List.replicate payload.length 0 := List.replicate_add ..
  rw [hzeros]
  simp [MutableEthernetPacket.setPayload, MutableEthernetPacket.setEthertype,
    MutableEthernetPacket.setSource, MutableEthernetPacket.setDestination,
    MutableEthernetPacket.copyAt, ethernetFrame, MacAddr.octets, u16Bytes_eq_shifts,
    List.replicate_succ]
  omega

/-- A laid out frame is long enough to be viewed, and the view returns its fields. -/
theorem EthernetPacket.new_ethernetFrame (dst src : MacAddr) (et : UInt16)
    (payload : List UInt8) :
    ∃ eth, EthernetPacket.new (ethernetFrame dst src et payload) = some eth ∧
      eth.getDestination = dst ∧ eth.getSource = src ∧ eth.getEthertype = et ∧
      eth.payload = payload := by
  have hlen : 14 ≤ (ethernetFrame dst src et payload).length := by simp
  refine ⟨⟨ethernetFrame dst src et payload, hlen⟩, dif_pos hlen, ?_, ?_, ?_, ?_⟩
  · exact MacAddr.fromFrame_eq [] _ rfl rfl
  · exact MacAddr.fromFrame_eq dst.octets _ rfl rfl
  · simp only [EthernetPacket.getEthertype, ethernetFrame, MacAddr.octets, u16Bytes_eq_shifts]
    exact u16OfBytes_shifts et
  · simp only [EthernetPacket.payload, ethernetFrame, MacAddr.octets, u16Bytes_eq_shifts]
    rfl

end TsnFieldbus
