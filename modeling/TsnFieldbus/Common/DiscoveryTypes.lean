import TsnFieldbus.Common.Security

/-!
# SDCP Messages

`discovery_types.rs`: the 5-byte SDCP header, the TLV payloads, and the parser that cuts
a payload into header, TLV bytes and security footer. `io::Result` is an `Option`: the
callers drop the I/O error.

Main result: `parseSdcpPayload_layout`, the parser undoes the layout
`header ++ TLV ++ footer`.
-/

namespace TsnFieldbus

open Foundations

/-! ## Constants -/

/-- `ETHERTYPE_SDCP`. -/
def ethertypeSdcp : UInt16 := 0x88B5

/-- `SDCP_VERSION`. -/
def sdcpVersion : UInt8 := 0x01

/-- `SDCP_HEADER_SIZE`. -/
abbrev sdcpHeaderSize : ℕ := 5

/-- `SDCP_FLAGS`. -/
def sdcpFlags : UInt8 := 0x00

/-- `TLV_TYPE_DEVICE_INFO`. -/
def tlvTypeDeviceInfo : UInt8 := 0x01

/-- `TLV_TYPE_IP_CONFIG`. -/
def tlvTypeIpConfig : UInt8 := 0x02

/-- `TLV_TYPE_STATUS_REPORT`. -/
def tlvTypeStatusReport : UInt8 := 0x03

/-- `TLV_TYPE_IP_REPORT`. -/
def tlvTypeIpReport : UInt8 := 0x04

/-! ## Operation codes -/

/-- SDCP operation codes; `unknownOperation` stands for every other byte. -/
inductive SdcpOpCode where
  | discoverReq
  | discoverRes
  | setIpReq
  | setIpRes
  | getIpReq
  | getIpRes
  | activateDhcpReq
  | activateDhcpRes
  | unknownOperation
deriving DecidableEq, Repr

namespace SdcpOpCode

/-- `op_code as u8`. -/
def toU8 : SdcpOpCode → UInt8
  | .discoverReq => 0x01
  | .discoverRes => 0x02
  | .setIpReq => 0x03
  | .setIpRes => 0x04
  | .getIpReq => 0x05
  | .getIpRes => 0x06
  | .activateDhcpReq => 0x07
  | .activateDhcpRes => 0x08
  | .unknownOperation => 0x09

/-- `SdcpOpCode::from(u8)`. -/
def fromU8 (val : UInt8) : SdcpOpCode :=
  match val.toNat with
  | 0x01 => .discoverReq
  | 0x02 => .discoverRes
  | 0x03 => .setIpReq
  | 0x04 => .setIpRes
  | 0x05 => .getIpReq
  | 0x06 => .getIpRes
  | 0x07 => .activateDhcpReq
  | 0x08 => .activateDhcpRes
  | _ => .unknownOperation

@[simp] theorem fromU8_toU8 (op : SdcpOpCode) : fromU8 op.toU8 = op := by
  cases op <;> rfl

theorem toU8_injective {a b : SdcpOpCode} (h : a.toU8 = b.toU8) : a = b := by
  rw [← fromU8_toU8 a, h, fromU8_toU8]

end SdcpOpCode

/-! ## Sixteen-bit fields -/

/-- `write_u16::<BigEndian>`: the two bytes of a field. -/
def u16Bytes (x : UInt16) : List UInt8 := BigEndian.encode 2 x.toNat

/-- `read_u16::<BigEndian>` and `u16::from_be_bytes`. -/
def u16OfBytes (hi lo : UInt8) : UInt16 := UInt16.ofNat (BigEndian.decode [hi, lo])

/-- The shifts of `serialize_header` give the same two bytes. -/
theorem u16Bytes_eq_shifts (x : UInt16) : u16Bytes x = [(x >>> 8).toUInt8, x.toUInt8] := by
  have hx : x.toNat < 65536 := x.toNat_lt
  have hhi : UInt8.ofNat (x.toNat / 256 ^ 1) = (x >>> 8).toUInt8 := by
    apply UInt8.toNat_inj.mp
    rw [UInt8.toNat_ofNat', UInt16.toNat_toUInt8, UInt16.toNat_shiftRight]
    simp [Nat.shiftRight_eq_div_pow]
  have hlo : UInt8.ofNat (x.toNat / 256 ^ 0) = x.toUInt8 := by
    apply UInt8.toNat_inj.mp
    rw [UInt8.toNat_ofNat', UInt16.toNat_toUInt8]
    simp
  simp only [u16Bytes, BigEndian.encode, hhi, hlo]

@[simp] theorem u16OfBytes_shifts (x : UInt16) :
    u16OfBytes (x >>> 8).toUInt8 x.toUInt8 = x := by
  have hx : x.toNat < 256 ^ 2 := by have := x.toNat_lt; norm_num; omega
  unfold u16OfBytes
  rw [← u16Bytes_eq_shifts, u16Bytes, BigEndian.decode_encode hx, UInt16.ofNat_toNat]

/-- Reading two bytes as a field and writing the field gives the bytes back. -/
@[simp] theorem u16Bytes_u16OfBytes (hi lo : UInt8) : u16Bytes (u16OfBytes hi lo) = [hi, lo] := by
  have hlt : BigEndian.decode [hi, lo] < 2 ^ 16 := by
    have := BigEndian.decode_lt [hi, lo]
    norm_num at this ⊢
    exact this
  rw [u16Bytes, u16OfBytes, UInt16.toNat_ofNat_of_lt' hlt]
  exact BigEndian.encode_decode [hi, lo]

/-! ## Header -/

/-- SDCP message header. -/
structure SdcpHeader where
  version : UInt8
  opCode : SdcpOpCode
  transactionId : UInt16
  flags : UInt8
deriving DecidableEq, Repr

namespace SdcpHeader

/-- `SdcpHeader::new`. -/
def new (opCode : SdcpOpCode) (transactionId : UInt16) : SdcpHeader :=
  { version := sdcpVersion
    opCode := opCode
    transactionId := transactionId
    flags := sdcpFlags }

/-- `SdcpHeader::write_to`. -/
def writeTo (header : SdcpHeader) (buf : List UInt8) : List UInt8 :=
  buf ++ [header.version] ++ [header.opCode.toU8] ++ u16Bytes header.transactionId
    ++ [header.flags]

/-- `SdcpHeader::read_from`; fails when fewer than five bytes are left. -/
def readFrom (buf : List UInt8) : Option SdcpHeader :=
  match buf with
  | version :: opCode :: hi :: lo :: flags :: _ =>
    some
      { version := version
        opCode := SdcpOpCode.fromU8 opCode
        transactionId := u16OfBytes hi lo
        flags := flags }
  | _ => none

/-- The five bytes of a header. -/
def bytes (header : SdcpHeader) : List UInt8 := header.writeTo []

theorem writeTo_nil (header : SdcpHeader) : header.writeTo [] = header.bytes := rfl

theorem bytes_eq (header : SdcpHeader) :
    header.bytes = [header.version, header.opCode.toU8, (header.transactionId >>> 8).toUInt8,
      header.transactionId.toUInt8, header.flags] := by
  simp [bytes, writeTo, u16Bytes_eq_shifts]

theorem writeTo_eq (header : SdcpHeader) (buf : List UInt8) :
    header.writeTo buf = buf ++ header.bytes := by
  simp [bytes, writeTo]

@[simp] theorem length_bytes (header : SdcpHeader) : header.bytes.length = sdcpHeaderSize := by
  simp [bytes_eq]

/-- Reading a written header gives it back, whatever follows. -/
@[simp] theorem readFrom_bytes_append (header : SdcpHeader) (rest : List UInt8) :
    readFrom (header.bytes ++ rest) = some header := by
  simp [bytes_eq, readFrom]

/-- The header bytes determine the header. -/
theorem bytes_injective {a b : SdcpHeader} (h : a.bytes = b.bytes) : a = b := by
  have ha := readFrom_bytes_append a []
  rw [h, readFrom_bytes_append b []] at ha
  exact (Option.some.inj ha).symm

end SdcpHeader

/-! ## Parsed contents -/

/-- Device identification information (`discovery_types::DeviceInfo`). -/
structure SdcpDeviceInfo where
  vendorId : UInt16
  deviceId : UInt16
  serialNumber : UInt32
deriving DecidableEq, Repr

/-- A discovered device with its identification. -/
structure DiscoveredDevice where
  macAddress : MacAddr
  vendorId : UInt16
  deviceId : UInt16
  serialNumber : UInt32
deriving DecidableEq, Repr

/-- `DiscoveredDevice::new`. -/
def DiscoveredDevice.new (macAddress : MacAddr) (deviceInfo : SdcpDeviceInfo) :
    DiscoveredDevice :=
  { macAddress := macAddress
    vendorId := deviceInfo.vendorId
    deviceId := deviceInfo.deviceId
    serialNumber := deviceInfo.serialNumber }

/-- An IPv4 address or mask. -/
abbrev Ipv4 := ByteArray8 4

/-- `Ipv4Addr::new`. -/
def Ipv4.new (a b c d : UInt8) : Ipv4 := ⟨[a, b, c, d], rfl⟩

/-- `copy_from_slice(&value[offset..offset + 4])`. -/
def Ipv4.fromSlice (value : List UInt8) (offset : ℕ) (h : offset + 4 ≤ value.length) : Ipv4 :=
  ⟨(value.drop offset).take 4, by simp; omega⟩

/-- The slice behind a prefix of matching length is the address that was written there. -/
theorem Ipv4.fromSlice_eq {value : List UInt8} {addr : Ipv4} {offset : ℕ}
    (front back : List UInt8) (h : offset + 4 ≤ value.length)
    (hvalue : value = front ++ (addr.toList ++ back)) (hfront : front.length = offset) :
    Ipv4.fromSlice value offset h = addr := by
  subst hvalue hfront
  refine List.Vector.eq _ _ ?_
  show ((front ++ (addr.toList ++ back)).drop front.length).take 4 = addr.toList
  rw [List.drop_left, List.take_left' addr.toList_length]

/-- IP network configuration parameters. -/
structure IpConfig where
  ip : Ipv4
  netmask : Ipv4
  gateway : Ipv4
deriving DecidableEq

/-- Current IP configuration of a device with its source. -/
structure IpReport where
  ip : Ipv4
  netmask : Ipv4
  gateway : Ipv4
  ipSource : IpSource
deriving DecidableEq

/-! ## TLV -/

/-- A type-length-value field; `length` is kept beside the value as in the source. -/
structure Tlv where
  tType : UInt8
  length : UInt8
  value : List UInt8
deriving DecidableEq, Repr

namespace Tlv

/-- `Tlv::new`; the length is narrowed to one byte. -/
def new (tType : UInt8) (value : List UInt8) : Tlv :=
  { tType := tType
    length := UInt8.ofNat value.length
    value := value }

/-- `u32::to_be_bytes`. -/
def u32Bytes (x : UInt32) : List UInt8 := BigEndian.encode 4 x.toNat

/-- `Tlv::device_info`. -/
def deviceInfo (vendorId deviceId : UInt16) (serialNumber : UInt32) : Tlv :=
  new tlvTypeDeviceInfo (u16Bytes vendorId ++ u16Bytes deviceId ++ u32Bytes serialNumber)

/-- `Tlv::ip_config`. -/
def ipConfig (ip netmask gateway : Ipv4) : Tlv :=
  new tlvTypeIpConfig (ip.toList ++ netmask.toList ++ gateway.toList)

/-- `Tlv::status_report`. -/
def statusReport (statusCode : StatusCode) : Tlv :=
  new tlvTypeStatusReport [statusCode.toU8]

/-- `Tlv::ip_report`. -/
def ipReport (ip netmask gateway : Ipv4) (ipSource : IpSource) : Tlv :=
  new tlvTypeIpReport (ip.toList ++ netmask.toList ++ gateway.toList ++ [ipSource.toU8])

/-- `Tlv::write_to`. -/
def writeTo (tlv : Tlv) (buf : List UInt8) : List UInt8 :=
  buf ++ [tlv.tType] ++ [tlv.length] ++ tlv.value

/-- `Tlv::read_from`; fails when the buffer ends before the value does. -/
def readFrom (buf : List UInt8) : Option Tlv :=
  match buf with
  | tType :: length :: rest =>
    if rest.length < length.toNat then none
    else some { tType := tType, length := length, value := rest.take length.toNat }
  | _ => none

/-- `Tlv::parse_device_info`. -/
def parseDeviceInfo (tlv : Tlv) : Option SdcpDeviceInfo :=
  if tlv.tType ≠ tlvTypeDeviceInfo ∨ tlv.value.length ≠ 8 then none
  else
    match tlv.value with
    | [v0, v1, d0, d1, s0, s1, s2, s3] =>
      some
        { vendorId := u16OfBytes v0 v1
          deviceId := u16OfBytes d0 d1
          serialNumber := UInt32.ofNat (BigEndian.decode [s0, s1, s2, s3]) }
    | _ => none

/-- A value of the checked size holds every slice that ends within that size. -/
theorem slice_le_of_checked {tlv : Tlv} {tType : UInt8} {size offset : ℕ}
    (h : ¬ (tlv.tType ≠ tType ∨ tlv.value.length ≠ size)) (hsize : offset + 4 ≤ size) :
    offset + 4 ≤ tlv.value.length := by
  obtain ⟨-, hlen⟩ := not_or.mp h
  rw [not_not.mp hlen]
  exact hsize

/-- `Tlv::parse_ip_config`. -/
def parseIpConfig (tlv : Tlv) : Option IpConfig :=
  if h : tlv.tType ≠ tlvTypeIpConfig ∨ tlv.value.length ≠ 12 then none
  else
    some
      { ip := .fromSlice tlv.value 0 (slice_le_of_checked h (by decide))
        netmask := .fromSlice tlv.value 4 (slice_le_of_checked h (by decide))
        gateway := .fromSlice tlv.value 8 (slice_le_of_checked h (by decide)) }

/-- `Tlv::parse_status_report`. -/
def parseStatusReport (tlv : Tlv) : Option StatusCode :=
  if tlv.tType ≠ tlvTypeStatusReport ∨ tlv.value.length ≠ 1 then none
  else
    match tlv.value with
    | [code] => StatusCode.tryFromU8 code
    | _ => none

/-- `Tlv::parse_ip_report`; an unknown source byte becomes the default, `Unspecified`. -/
def parseIpReport (tlv : Tlv) : Option IpReport :=
  if h : tlv.tType ≠ tlvTypeIpReport ∨ tlv.value.length ≠ 13 then none
  else
    some
      { ip := .fromSlice tlv.value 0 (slice_le_of_checked h (by decide))
        netmask := .fromSlice tlv.value 4 (slice_le_of_checked h (by decide))
        gateway := .fromSlice tlv.value 8 (slice_le_of_checked h (by decide))
        ipSource := ((tlv.value[12]?).bind
          (fun b => IpSource.tryFrom (Int32.ofNat b.toNat))).getD .unspecified }

/-- The TLV as bytes. -/
def bytes (tlv : Tlv) : List UInt8 := tlv.writeTo []

theorem writeTo_nil (tlv : Tlv) : tlv.writeTo [] = tlv.bytes := rfl

theorem bytes_eq (tlv : Tlv) : tlv.bytes = tlv.tType :: tlv.length :: tlv.value := by
  simp [bytes, writeTo]

/-- A TLV built from a value of at most 255 bytes reads back as itself. -/
theorem readFrom_bytes_new (tType : UInt8) {value : List UInt8} (h : value.length < 256) :
    readFrom (new tType value).bytes = some (new tType value) := by
  have hlen : (UInt8.ofNat value.length).toNat = value.length := by
    rw [UInt8.toNat_ofNat', Nat.mod_eq_of_lt h]
  simp [bytes_eq, readFrom, new, hlen]

@[simp] theorem length_deviceInfo_value (v d : UInt16) (s : UInt32) :
    (deviceInfo v d s).value.length = 8 := by
  simp [deviceInfo, new, u16Bytes, u32Bytes]

@[simp] theorem length_ipConfig_value (ip netmask gateway : Ipv4) :
    (ipConfig ip netmask gateway).value.length = 12 := by
  simp [ipConfig, new]

@[simp] theorem length_ipReport_value (ip netmask gateway : Ipv4) (source : IpSource) :
    (ipReport ip netmask gateway source).value.length = 13 := by
  simp [ipReport, new]

@[simp] theorem readFrom_deviceInfo (v d : UInt16) (s : UInt32) :
    readFrom (deviceInfo v d s).bytes = some (deviceInfo v d s) :=
  readFrom_bytes_new _ (by
    have := length_deviceInfo_value v d s
    simp only [deviceInfo, new] at this
    omega)

@[simp] theorem readFrom_ipConfig (ip netmask gateway : Ipv4) :
    readFrom (ipConfig ip netmask gateway).bytes = some (ipConfig ip netmask gateway) :=
  readFrom_bytes_new _ (by simp)

@[simp] theorem readFrom_statusReport (code : StatusCode) :
    readFrom (statusReport code).bytes = some (statusReport code) :=
  readFrom_bytes_new _ (by simp)

@[simp] theorem readFrom_ipReport (ip netmask gateway : Ipv4) (source : IpSource) :
    readFrom (ipReport ip netmask gateway source).bytes
      = some (ipReport ip netmask gateway source) :=
  readFrom_bytes_new _ (by simp)

/-- Parsing a device-info TLV returns its arguments. -/
@[simp] theorem parseDeviceInfo_deviceInfo (v d : UInt16) (s : UInt32) :
    parseDeviceInfo (deviceInfo v d s) = some ⟨v, d, s⟩ := by
  have hs : s.toNat < 256 ^ 4 := by have := s.toNat_lt; norm_num; omega
  have hserial : UInt32.ofNat (BigEndian.decode (u32Bytes s)) = s := by
    rw [u32Bytes, BigEndian.decode_encode hs, UInt32.ofNat_toNat]
  have hlen := length_deviceInfo_value v d s
  unfold parseDeviceInfo
  rw [if_neg (by simp only [hlen]; simp [deviceInfo, new])]
  simp only [u32Bytes, BigEndian.encode] at hserial
  simp only [deviceInfo, new, u16Bytes_eq_shifts, u32Bytes, BigEndian.encode, List.cons_append,
    List.nil_append, u16OfBytes_shifts, hserial]

/-- Parsing an IP-configuration TLV returns its arguments. -/
@[simp] theorem parseIpConfig_ipConfig (ip netmask gateway : Ipv4) :
    parseIpConfig (ipConfig ip netmask gateway) = some ⟨ip, netmask, gateway⟩ := by
  have hlen := length_ipConfig_value ip netmask gateway
  unfold parseIpConfig
  rw [dif_neg (by simp only [hlen]; simp [ipConfig, new])]
  simp only [Option.some.injEq, IpConfig.mk.injEq]
  refine ⟨Ipv4.fromSlice_eq [] (netmask.toList ++ gateway.toList) _ ?_ rfl,
    Ipv4.fromSlice_eq ip.toList gateway.toList _ ?_ (by simp),
    Ipv4.fromSlice_eq (ip.toList ++ netmask.toList) [] _ ?_ (by simp)⟩ <;>
    simp [ipConfig, new]

/-- Parsing a status report returns its code. -/
@[simp] theorem parseStatusReport_statusReport (code : StatusCode) :
    parseStatusReport (statusReport code) = some code := by
  simp [parseStatusReport, statusReport, new]

/-- Parsing an IP report returns its arguments. -/
@[simp] theorem parseIpReport_ipReport (ip netmask gateway : Ipv4) (source : IpSource) :
    parseIpReport (ipReport ip netmask gateway source) = some ⟨ip, netmask, gateway, source⟩ := by
  have hlen := length_ipReport_value ip netmask gateway source
  have hsource : (ipReport ip netmask gateway source).value[12]? = some source.toU8 := by
    have hsplit : (ipReport ip netmask gateway source).value =
        (ip.toList ++ netmask.toList ++ gateway.toList) ++ [source.toU8] := rfl
    rw [hsplit, List.getElem?_append_right (by simp)]
    simp
  unfold parseIpReport
  rw [dif_neg (by simp only [hlen]; simp [ipReport, new])]
  simp only [Option.some.injEq, IpReport.mk.injEq]
  refine ⟨Ipv4.fromSlice_eq [] (netmask.toList ++ gateway.toList ++ [source.toU8]) _ ?_ rfl,
    Ipv4.fromSlice_eq ip.toList (gateway.toList ++ [source.toU8]) _ ?_ (by simp),
    Ipv4.fromSlice_eq (ip.toList ++ netmask.toList) [source.toU8] _ ?_ (by simp), ?_⟩
  · simp [ipReport, new]
  · simp [ipReport, new]
  · simp [ipReport, new]
  · rw [hsource]
    cases source <;> rfl

/-! ### Other types -/

/-- Each parser refuses the TLVs of other types. -/
theorem parseDeviceInfo_of_ne {tlv : Tlv} (h : tlv.tType ≠ tlvTypeDeviceInfo) :
    parseDeviceInfo tlv = none :=
  if_pos (.inl h)

theorem parseIpConfig_of_ne {tlv : Tlv} (h : tlv.tType ≠ tlvTypeIpConfig) :
    parseIpConfig tlv = none :=
  dif_pos (.inl h)

theorem parseStatusReport_of_ne {tlv : Tlv} (h : tlv.tType ≠ tlvTypeStatusReport) :
    parseStatusReport tlv = none :=
  if_pos (.inl h)

theorem parseIpReport_of_ne {tlv : Tlv} (h : tlv.tType ≠ tlvTypeIpReport) :
    parseIpReport tlv = none :=
  dif_pos (.inl h)

/-! ### Values of any length -/

theorem toNat_length_new (tType : UInt8) (value : List UInt8) :
    (new tType value).length.toNat = value.length % 256 := UInt8.toNat_ofNat'

/-- What is read back is cut off where the narrowed length ends. -/
theorem readFrom_bytes_append (tType : UInt8) (value trailing : List UInt8) :
    readFrom ((new tType value).bytes ++ trailing) =
      some ⟨tType, .ofNat value.length, value.take (value.length % 256)⟩ := by
  have hmod : value.length % 256 ≤ value.length := Nat.mod_le _ _
  have hlen := toNat_length_new tType value
  rw [bytes_eq, List.cons_append, List.cons_append, readFrom, hlen, if_neg, new,
    List.take_append_of_le_length hmod]
  rw [List.length_append]
  change ¬ value.length + trailing.length < value.length % 256
  omega

/-- What is written reads back as the same type and value whatever follows it, and the size that
is computed from the length field is the number of bytes written. -/
structure RoundTrips (tType : UInt8) (value : List UInt8) : Prop where
  reads : ∀ buf trailing, ∃ tlv,
    readFrom (((new tType value).writeTo buf).drop buf.length ++ trailing) = some tlv ∧
      tlv.tType = tType ∧ tlv.value = value
  size : ∀ buf, ((new tType value).writeTo buf).length =
    buf.length + (2 + (new tType value).length.toNat)

theorem drop_writeTo (tlv : Tlv) (buf : List UInt8) :
    (tlv.writeTo buf).drop buf.length = tlv.bytes := by
  rw [writeTo, List.append_assoc, List.append_assoc, List.drop_left, bytes_eq]
  rfl

theorem length_writeTo (tlv : Tlv) (buf : List UInt8) :
    (tlv.writeTo buf).length = buf.length + (2 + tlv.value.length) := by
  simp only [writeTo, List.length_append, List.length_cons, List.length_nil]
  omega

/-- The length field holds the lengths up to 255; exactly those values round trip. -/
theorem roundTrips_iff (tType : UInt8) (value : List UInt8) :
    RoundTrips tType value ↔ value.length ≤ 255 := by
  constructor
  · intro h
    have hsize := h.size []
    rw [length_writeTo, toNat_length_new] at hsize
    change [].length + (2 + value.length) = _ at hsize
    omega
  · intro h
    have hmod : value.length % 256 = value.length := Nat.mod_eq_of_lt (by omega)
    constructor
    · intro buf trailing
      refine ⟨new tType value, ?_, rfl, rfl⟩
      rw [drop_writeTo, readFrom_bytes_append, hmod, List.take_length]
      rfl
    · intro buf
      rw [length_writeTo, toNat_length_new, hmod]
      rfl

/-- A value of 256 bytes is written in full behind a length of zero and reads back as empty. -/
theorem not_roundTrips_256 :
    ¬ RoundTrips 1 (List.replicate 256 0) ∧
      ((new 1 (List.replicate 256 0)).writeTo []).length = 258 ∧
      readFrom ((new 1 (List.replicate 256 0)).writeTo []) = some ⟨1, 0, []⟩ := by
  have hlen : (List.replicate 256 (0 : UInt8)).length = 256 := List.length_replicate
  generalize List.replicate 256 (0 : UInt8) = value at hlen ⊢
  refine ⟨?_, ?_, ?_⟩
  · intro h
    have hsize := h.size []
    rw [length_writeTo, toNat_length_new] at hsize
    change 0 + (2 + value.length) = 0 + _ at hsize
    omega
  · rw [length_writeTo]
    change 0 + (2 + value.length) = 258
    omega
  · have hread := readFrom_bytes_append 1 value []
    rw [List.append_nil, hlen] at hread
    exact hread

end Tlv

/-- The TLVs of the constructors above. -/
inductive BuiltTlv : Tlv → Prop where
  | deviceInfo (vendorId deviceId : UInt16) (serialNumber : UInt32) :
      BuiltTlv (.deviceInfo vendorId deviceId serialNumber)
  | ipConfig (ip netmask gateway : Ipv4) : BuiltTlv (.ipConfig ip netmask gateway)
  | statusReport (statusCode : StatusCode) : BuiltTlv (.statusReport statusCode)
  | ipReport (ip netmask gateway : Ipv4) (ipSource : IpSource) :
      BuiltTlv (.ipReport ip netmask gateway ipSource)

/-- The length byte of a constructed TLV is the length of its value, which is not empty. -/
theorem BuiltTlv.length_spec {tlv : Tlv} (h : BuiltTlv tlv) :
    tlv.length.toNat = tlv.value.length ∧ 0 < tlv.value.length ∧ tlv.value.length ≤ 13 := by
  have hlen : tlv.length = UInt8.ofNat tlv.value.length := by cases h <;> rfl
  have hrange : 0 < tlv.value.length ∧ tlv.value.length ≤ 13 := by
    cases h with
    | deviceInfo v d s => simp
    | ipConfig ip netmask gateway => simp
    | statusReport code => simp [Tlv.statusReport, Tlv.new]
    | ipReport ip netmask gateway source => simp
  refine ⟨?_, hrange⟩
  rw [hlen, UInt8.toNat_ofNat', Nat.mod_eq_of_lt (by omega)]

@[simp] theorem Tlv.length_bytes (tlv : Tlv) : tlv.bytes.length = 2 + tlv.value.length := by
  simp [Tlv.bytes_eq]
  omega

/-! ## Payload parser -/

/-- A parsed SDCP payload. -/
structure ParsedSdcpPayload where
  header : SdcpHeader
  tlvPayload : List UInt8
  sequenceNumber : UInt64
  authTag : AuthTag
deriving DecidableEq

/-- `parse_sdcp_payload`. -/
def parseSdcpPayload (payload : List UInt8) : Except StatusCode ParsedSdcpPayload :=
  match splitPayloadAndFooter payload with
  | .error _ => .error .errInvalidLen
  | .ok (payloadWithoutFooter, footer) =>
    if payloadWithoutFooter.length < sdcpHeaderSize then
      .error .errInvalidLen
    else
      match SdcpHeader.readFrom payloadWithoutFooter with
      | none => .error .errFrameParsing
      | some header =>
        .ok
          { header := header
            tlvPayload := payloadWithoutFooter.drop sdcpHeaderSize
            sequenceNumber := footer.sequenceNumber
            authTag := footer.authTag }

/-- `append_sdcp_footer`. -/
def appendSdcpFooter (payload : List UInt8) (footer : SecurityFooter) : List UInt8 :=
  footer.writeTo payload

/-- The parser undoes the layout `header ++ TLV ++ footer`. -/
theorem parseSdcpPayload_layout (header : SdcpHeader) (tlv : List UInt8)
    (footer : SecurityFooter) :
    parseSdcpPayload (header.bytes ++ tlv ++ footer.bytes) =
      .ok ⟨header, tlv, footer.sequenceNumber, footer.authTag⟩ := by
  have hlen : ¬ (header.bytes ++ tlv).length < sdcpHeaderSize := by simp
  have hdrop : (header.bytes ++ tlv).drop sdcpHeaderSize = tlv := by
    rw [← SdcpHeader.length_bytes header, List.drop_left]
  simp only [parseSdcpPayload, splitPayloadAndFooter_append, if_neg hlen,
    SdcpHeader.readFrom_bytes_append, hdrop]

/-- The parser accounts for every byte of the payload. -/
theorem length_of_parseSdcpPayload {payload : List UInt8} {parsed : ParsedSdcpPayload}
    (h : parseSdcpPayload payload = .ok parsed) :
    payload.length = sdcpHeaderSize + parsed.tlvPayload.length + securityFooterSize := by
  unfold parseSdcpPayload at h
  split at h
  · cases h
  · rename_i front footer hsplit
    split at h
    · cases h
    · rename_i hlen
      split at h
      · cases h
      · cases h
        rw [splitPayloadAndFooter_eq_ok hsplit, List.length_append, List.length_drop,
          SecurityFooter.length_bytes]
        omega

/-- A payload that ends in at least a footer's worth of zero bytes has number zero. -/
theorem sequenceNumber_of_parseSdcpPayload_zeros {payload : List UInt8} {n : ℕ}
    {parsed : ParsedSdcpPayload} (hn : securityFooterSize ≤ n)
    (h : parseSdcpPayload (payload ++ List.replicate n 0) = .ok parsed) :
    parsed.sequenceNumber = 0 := by
  unfold parseSdcpPayload at h
  split at h
  · cases h
  · rename_i front footer hsplit
    split at h
    · cases h
    · split at h
      · cases h
      · cases h
        exact sequenceNumber_of_zeros hn hsplit

end TsnFieldbus
